import Mathlib.Data.Int.Notation
import StytchBrowser.Lib.Chunks
import StytchBrowser.Lib.Machine

/-!
# Paging through the members

The members are searched page by page, each page with the cursor of the page before it; `useMembers`
keeps the pages it has fetched, as many as its `size` says, and the table shows the rows of the current
page. Of `useSWRInfinite` it is taken that it fetches the pages one after another until there is no
key, and that `setSize` resolves when the pages below the new size are there. Handlers of the table may
overlap.

Where the server does not say how many members there are, the table takes a cursor to mean that there
are more rows, but the screen passes a cursor in any case. `pages_right_iff` says when the table does
not lead beyond the last page.
-/

namespace StytchBrowser.AdminPortal.MemberPages

universe u

/-! ## The server -/

/-- `B2BOrganizationsMembersSearchResponse`, with its `results_metadata`. -/
structure Page (μ : Type u) where
  members : List μ
  nextCursor : Option String
  total : ℤ

/-- An optional string that is read as a condition. -/
def truthy (s : Option String) : Bool := s.getD "" ≠ ""

/-- A server with its answers to a search, of which each page but the last carries the cursor of the
next one. -/
structure Server (μ : Type u) where
  limit : ℕ
  limit_pos : 0 < limit
  pages : List (Page μ)
  respond : Option String → Page μ
  pages_ne : pages ≠ []
  chunked : Chunked limit (pages.map Page.members)
  carries : ∀ i p, pages[i]? = some p → (truthy p.nextCursor = true ↔ i + 1 < pages.length)
  respond_first : pages[0]? = some (respond none)
  respond_next : ∀ i p, pages[i]? = some p → i + 1 < pages.length →
    pages[i + 1]? = some (respond p.nextCursor)
  /-- The total of all pages. -/
  total : ℤ
  total_eq : ∀ p ∈ pages, p.total = total
  total_cases : total = (pages.flatMap Page.members).length ∨ total = -1

variable {μ : Type u}

/-! ## What is fetched -/

/-- The first argument of `useSWRInfinite`, with the field of the key that depends on the page. -/
def getKey : Option (Page μ) → Option (Option String)
  | none => some none
  | some prevData => if truthy prevData.nextCursor then some prevData.nextCursor else none

/-- The pages that `useSWRInfinite` fetches one after another, after one that it has. -/
def fetchFrom (server : Server μ) : Option (Page μ) → ℕ → List (Page μ)
  | _, 0 => []
  | prevData, size + 1 =>
      match getKey prevData with
      | none => []
      | some cursor =>
          let page := server.respond cursor
          page :: fetchFrom server (some page) size

def fetched (server : Server μ) (size : ℕ) : List (Page μ) := fetchFrom server none size

/-! ## The screen -/

/-- A handler of the table that waits for `loadNext`, or for nothing: the page it goes to, and the size
that it has asked for. -/
structure Handler where
  newPage : ℕ
  size : ℕ
  deriving DecidableEq

structure State (μ : Type u) where
  data : Option (List (Page μ))
  size : ℕ
  currentPage : ℕ
  pending : List Handler

def State.init : State μ := ⟨none, 1, 0, []⟩

inductive Action where
  /-- The buttons of the table. -/
  | next
  | prev
  /-- The pages below the current size are there. -/
  | loaded
  /-- A handler goes on. -/
  | settle (i : ℕ)

namespace State

variable (s : State μ)

def items : List μ := (s.data.getD []).flatMap Page.members

/-- `data?.at(-1)?.results_metadata`. -/
def lastPage : Option (Page μ) := s.data.bind List.getLast?

/-- `metadata.cursor`. -/
def cursor : String := (s.lastPage.bind Page.nextCursor).getD "__none"

/-- `metadata.total`. -/
def total : ℤ := (s.lastPage.map Page.total).getD 0

def countForPagination : ℤ :=
  if s.total = -1 then
    if s.cursor ≠ "" then -1 else s.items.length
  else s.total

/-- `pageResults`, or nothing while there are no pages yet. -/
def pageResults (rowsPerPage : ℕ) : List μ :=
  (s.items.drop (s.currentPage * rowsPerPage)).take rowsPerPage

/-- The control has a next page when the count is unknown or there are more rows. -/
def hasNext (rowsPerPage : ℕ) : Prop :=
  s.countForPagination = -1 ∨ ((s.currentPage + 1) * rowsPerPage : ℕ) < s.countForPagination

instance (rowsPerPage : ℕ) : Decidable (s.hasNext rowsPerPage) :=
  inferInstanceAs (Decidable (_ ∨ _))

/-- `handleChangePage` up to where it waits. -/
def handleChangePage (rowsPerPage newPage : ℕ) : State μ :=
  if s.cursor ≠ "" ∧ s.items.length ≤ newPage * rowsPerPage then
    { s with size := s.size + 1, pending := s.pending ++ [⟨newPage, s.size + 1⟩] }
  else { s with pending := s.pending ++ [⟨newPage, 0⟩] }

/-- `setCurrentPage`, with the clamping of `usePagination` for one item per page. -/
def setCurrentPage (page : ℕ) : State μ := { s with currentPage := min page (s.size - 1) }

end State

def next (server : Server μ) (s : State μ) : Action → Option (State μ)
  | .next =>
      if s.hasNext server.limit then some (s.handleChangePage server.limit (s.currentPage + 1))
      else none
  | .prev =>
      if s.currentPage ≠ 0 then some (s.handleChangePage server.limit (s.currentPage - 1)) else none
  | .loaded => some { s with data := some (fetched server s.size) }
  | .settle i =>
      match s.pending[i]? with
      | none => none
      | some handler =>
          if (fetched server handler.size).length ≤ (s.data.getD []).length then
            some ({ s with pending := s.pending.eraseIdx i }.setCurrentPage handler.newPage)
          else none

def machine (server : Server μ) : Machine (State μ) Action where
  init s := s = .init
  next := next server

/-! ## What is claimed of the pages -/

/-- The current page is one of the server, a handler goes to its page, and once there are pages, the
rows are the members of the current one, and the next page can be gone to as long as it has members. -/
structure Right (server : Server μ) (s : State μ) : Prop where
  currentPage_lt : s.currentPage < server.pages.length
  unclamped : ∀ handler ∈ s.pending, handler.newPage < s.size
  pageResults_eq : s.data ≠ none →
    (server.pages[s.currentPage]?).map Page.members = some (s.pageResults server.limit)
  hasNext : s.data ≠ none →
    (s.currentPage + 1) * server.limit < (server.pages.flatMap Page.members).length →
      s.hasNext server.limit

/-- The total is not left open, or the last page has an empty string for its cursor. -/
def Told (server : Server μ) : Prop :=
  server.total ≠ -1 ∨ server.pages.getLast?.bind Page.nextCursor = some ""

/-! ## The pages that are fetched -/

variable {server : Server μ} {s : State μ} {m : ℕ}

theorem fetchFrom_eq {i : ℕ} {p : Page μ} (hp : server.pages[i]? = some p) (size : ℕ) :
    fetchFrom server (some p) size = (server.pages.drop (i + 1)).take size := by
  induction size generalizing i p with
  | zero => rfl
  | succ size ih =>
    rw [fetchFrom, getKey]
    by_cases hi : i + 1 < server.pages.length
    · have hnext := server.respond_next i p hp hi
      obtain ⟨hlt, heq⟩ := List.getElem?_eq_some_iff.1 hnext
      rw [if_pos ((server.carries i p hp).2 hi), List.drop_eq_getElem_cons hlt, heq,
        List.take_succ_cons, ← ih hnext]
    · rw [if_neg fun htruthy => hi ((server.carries i p hp).1 htruthy),
        List.drop_eq_nil_of_le (Nat.le_of_not_lt hi), List.take_nil]

/-- The pages of the server, as many as are asked for. -/
theorem fetched_eq (server : Server μ) (size : ℕ) :
    fetched server size = server.pages.take size := by
  cases size with
  | zero => rfl
  | succ size =>
    obtain ⟨hlt, heq⟩ := List.getElem?_eq_some_iff.1 server.respond_first
    have hpages : server.pages = server.respond none :: server.pages.drop 1 := by
      rw [← heq, ← List.drop_eq_getElem_cons hlt, List.drop_zero]
    rw [fetched, fetchFrom, getKey]
    show server.respond none :: fetchFrom server (some (server.respond none)) size = _
    rw [fetchFrom_eq server.respond_first, ← List.take_succ_cons, ← hpages]

theorem length_fetched (server : Server μ) (size : ℕ) :
    (fetched server size).length = min size server.pages.length := by
  rw [fetched_eq, List.length_take]

/-! ## What the screen knows when it has pages -/

/-- The screen has the first `m` pages. -/
structure Loaded (server : Server μ) (s : State μ) (m : ℕ) : Prop where
  pos : 0 < m
  data : s.data = some (server.pages.take m)

namespace Loaded

theorem length_data (h : Loaded server s m) :
    (s.data.getD []).length = min m server.pages.length := by
  rw [h.data, Option.getD_some, List.length_take]

theorem lastPage (h : Loaded server s m) :
    ∃ p, s.lastPage = some p ∧ server.pages[min m server.pages.length - 1]? = some p := by
  have hpos := List.length_pos_iff.2 server.pages_ne
  have hm := h.pos
  have hlt : min m server.pages.length - 1 < server.pages.length := by omega
  refine ⟨server.pages[min m server.pages.length - 1], ?_, List.getElem?_eq_getElem hlt⟩
  rw [State.lastPage, h.data, Option.bind_some, List.getLast?_eq_getElem?, List.length_take,
    List.getElem?_take_of_lt (by omega), List.getElem?_eq_getElem hlt]

theorem total (h : Loaded server s m) : s.total = server.total := by
  obtain ⟨p, hlast, hp⟩ := h.lastPage
  rw [State.total, hlast, Option.map_some, Option.getD_some]
  exact server.total_eq p (List.mem_of_getElem? hp)

/-- The screen has no cursor when it has all pages and the last one carries an empty string. -/
theorem cursor_eq_empty_iff (h : Loaded server s m) :
    s.cursor = "" ↔ server.pages.length ≤ m ∧
      server.pages.getLast?.bind Page.nextCursor = some "" := by
  obtain ⟨p, hlast, hp⟩ := h.lastPage
  have hcarries := server.carries _ p hp
  have hpos := List.length_pos_iff.2 server.pages_ne
  have hm := h.pos
  rw [State.cursor, hlast, Option.bind_some]
  by_cases hle : server.pages.length ≤ m
  · rw [Nat.min_eq_right hle] at hp
    rw [and_iff_right hle, List.getLast?_eq_getElem?, hp, Option.bind_some]
    cases p.nextCursor with
    | none => exact iff_of_false (by decide) nofun
    | some cursor => exact Option.some_inj.symm
  · refine iff_of_false (fun hempty => ?_) fun hand => hle hand.1
    have htruthy := hcarries.2 (by omega)
    cases hcursor : p.nextCursor with
    | none =>
      rw [hcursor] at hempty
      exact absurd hempty (by decide)
    | some cursor =>
      rw [hcursor, Option.getD_some] at hempty
      rw [hcursor, hempty] at htruthy
      exact absurd htruthy (by decide)

theorem items (h : Loaded server s m) :
    s.items = ((server.pages.map Page.members).take m).flatten := by
  rw [State.items, h.data, Option.getD_some, List.flatMap_def, List.map_take]

/-- With all pages, the screen has all members. -/
theorem items_of_le (h : Loaded server s m) (hle : server.pages.length ≤ m) :
    s.items = server.pages.flatMap Page.members := by
  rw [h.items, List.take_of_length_le (by rwa [List.length_map]), List.flatMap_def]

theorem length_items_le (h : Loaded server s m) :
    s.items.length ≤ min m server.pages.length * server.limit := by
  have hle := (server.chunked.take m).length_flatten_le
  rwa [List.length_take, List.length_map, ← h.items] at hle

theorem pageResults (h : Loaded server s m) (hpage : s.currentPage < min m server.pages.length) :
    (server.pages[s.currentPage]?).map Page.members = some (s.pageResults server.limit) := by
  have hlt : s.currentPage < ((server.pages.map Page.members).take m).length := by
    rwa [List.length_take, List.length_map]
  rw [State.pageResults, h.items, (server.chunked.take m).take_drop_flatten hlt,
    List.getElem_take, List.getElem_map, List.getElem?_eq_getElem (by omega)]
  rfl

/-- The count is that of the members, unless it is left open. -/
theorem countForPagination (h : Loaded server s m) :
    s.countForPagination = (server.pages.flatMap Page.members).length ∨
      s.countForPagination = -1 ∧ server.total = -1 ∧ s.cursor ≠ "" := by
  rw [State.countForPagination, h.total]
  by_cases htotal : server.total = -1
  · rw [if_pos htotal]
    by_cases hcursor : s.cursor = ""
    · rw [if_neg (not_not.2 hcursor), h.items_of_le (h.cursor_eq_empty_iff.1 hcursor).1]
      exact .inl rfl
    · rw [if_pos hcursor]
      exact .inr ⟨rfl, htotal, hcursor⟩
  · rw [if_neg htotal]
    exact .inl (server.total_cases.resolve_right htotal)

end Loaded

/-- The next page can be gone to while there are more members. -/
theorem Loaded.hasNext (h : Loaded server s m)
    (hmore : (s.currentPage + 1) * server.limit < (server.pages.flatMap Page.members).length) :
    s.hasNext server.limit := by
  rcases h.countForPagination with hcount | ⟨hcount, -⟩
  · refine .inr ?_
    rw [hcount]
    exact Int.ofNat_lt.2 hmore
  · exact .inl hcount

theorem length_members_le (server : Server μ) :
    (server.pages.flatMap Page.members).length ≤ server.pages.length * server.limit := by
  have hle := server.chunked.length_flatten_le
  rwa [List.length_map, ← List.flatMap_def] at hle

/-- Where the total is told, the control does not lead beyond the last page. -/
theorem Loaded.lt_of_hasNext (h : Loaded server s m) (htold : Told server)
    (hpage : s.currentPage < min m server.pages.length) (hnext : s.hasNext server.limit) :
    s.currentPage + 1 < server.pages.length := by
  rcases h.countForPagination with hcount | ⟨-, htotal, hcursor⟩
  · rw [State.hasNext, hcount] at hnext
    have hmore : (s.currentPage + 1) * server.limit < (server.pages.flatMap Page.members).length :=
      Int.ofNat_lt.1 (hnext.resolve_left (by omega))
    exact Nat.lt_of_mul_lt_mul_right (Nat.lt_of_lt_of_le hmore (length_members_le server))
  · have hlast := htold.resolve_left (not_not_intro htotal)
    have hm : ¬server.pages.length ≤ m := fun hle => hcursor (h.cursor_eq_empty_iff.2 ⟨hle, hlast⟩)
    omega

/-! ## Runs where the total is told -/

/-- What the steps keep. -/
structure Ok (server : Server μ) (s : State μ) : Prop where
  data : s.data = none ∧ s.currentPage = 0 ∧ s.pending = [] ∨
    ∃ m ≤ s.size, Loaded server s m ∧ s.currentPage < min m server.pages.length
  size_pos : 0 < s.size
  pending : ∀ handler ∈ s.pending, handler.newPage < server.pages.length ∧
    handler.newPage < s.size ∧
      (handler.newPage < (s.data.getD []).length ∨ handler.newPage < handler.size)

theorem ok_init (server : Server μ) : Ok server State.init :=
  ⟨.inl ⟨rfl, rfl, rfl⟩, Nat.one_pos, fun _ h => absurd h List.not_mem_nil⟩

/-- Without pages there is nowhere to go. -/
theorem not_hasNext_of_none {k : ℕ} (h : s.data = none) : ¬s.hasNext k := by
  have hcount : s.countForPagination = 0 := by
    simp [State.countForPagination, State.total, State.lastPage, h]
  rw [State.hasNext, hcount]
  omega

theorem Ok.handleChangePage (hs : Ok server s) (hm : m ≤ s.size) (h : Loaded server s m)
    (hpage : s.currentPage < min m server.pages.length) {newPage : ℕ}
    (hnew : newPage < server.pages.length) (hle : newPage ≤ s.currentPage + 1) :
    Ok server (s.handleChangePage server.limit newPage) := by
  unfold State.handleChangePage
  split_ifs with hload
  · refine ⟨.inr ⟨m, Nat.le_succ_of_le hm, ⟨h.pos, h.data⟩, hpage⟩, Nat.succ_pos _,
      fun handler hmem => ?_⟩
    rcases List.mem_append.1 hmem with hmem | hmem
    · obtain ⟨h1, h2, h3⟩ := hs.pending handler hmem
      exact ⟨h1, Nat.lt_succ_of_lt h2, h3⟩
    · rw [List.mem_singleton.1 hmem]
      have hlt : newPage < s.size + 1 := by omega
      exact ⟨hnew, hlt, .inr hlt⟩
  · have hlt : newPage < min m server.pages.length := by
      by_cases hcursor : s.cursor = ""
      · have hall := (h.cursor_eq_empty_iff.1 hcursor).1
        omega
      · have hitems : newPage * server.limit < s.items.length :=
          Nat.lt_of_not_le fun hitems => hload ⟨hcursor, hitems⟩
        exact Nat.lt_of_mul_lt_mul_right (Nat.lt_of_lt_of_le hitems h.length_items_le)
    refine ⟨.inr ⟨m, hm, ⟨h.pos, h.data⟩, hpage⟩, hs.size_pos, fun handler hmem => ?_⟩
    rcases List.mem_append.1 hmem with hmem | hmem
    · exact hs.pending handler hmem
    · rw [List.mem_singleton.1 hmem]
      refine ⟨hnew, ?_, .inl ?_⟩
      · show newPage < s.size
        omega
      · show newPage < (s.data.getD []).length
        rwa [h.length_data]

theorem ok_step (htold : Told server) {a : Action} {s' : State μ} (hs : Ok server s)
    (hn : MemberPages.next server s a = some s') : Ok server s' := by
  cases a with
  | next =>
    simp only [MemberPages.next, Option.ite_none_right_eq_some, Option.some.injEq] at hn
    obtain ⟨hnext, rfl⟩ := hn
    rcases hs.data with ⟨hnone, -⟩ | ⟨m, hm, h, hpage⟩
    · exact absurd hnext (not_hasNext_of_none hnone)
    · exact hs.handleChangePage hm h hpage (h.lt_of_hasNext htold hpage hnext) (Nat.le_refl _)
  | prev =>
    simp only [MemberPages.next, Option.ite_none_right_eq_some, Option.some.injEq] at hn
    obtain ⟨hne, rfl⟩ := hn
    rcases hs.data with ⟨-, hzero, -⟩ | ⟨m, hm, h, hpage⟩
    · exact absurd hzero hne
    · exact hs.handleChangePage hm h hpage (by omega) (by omega)
  | loaded =>
    obtain rfl := Option.some.inj hn
    have hpos := List.length_pos_iff.2 server.pages_ne
    have hsize := hs.size_pos
    have hloaded : Loaded server { s with data := some (fetched server s.size) } s.size :=
      ⟨hsize, congrArg some (fetched_eq server s.size)⟩
    refine ⟨.inr ⟨s.size, Nat.le_refl _, hloaded, ?_⟩, hsize, fun handler hmem => ?_⟩
    · show s.currentPage < _
      rcases hs.data with ⟨-, hzero, -⟩ | ⟨m, hm, -, hpage⟩
      · omega
      · omega
    · obtain ⟨hpages, hlt, -⟩ := hs.pending handler hmem
      refine ⟨hpages, hlt, .inl ?_⟩
      rw [hloaded.length_data]
      omega
  | settle i =>
    simp only [MemberPages.next] at hn
    cases hget : s.pending[i]? with
    | none =>
      rw [hget] at hn
      cases hn
    | some handler =>
      rw [hget] at hn
      simp only [Option.ite_none_right_eq_some, Option.some.injEq] at hn
      obtain ⟨hwaited, rfl⟩ := hn
      rw [length_fetched] at hwaited
      have hmem := List.mem_of_getElem? hget
      obtain ⟨hpages, hlt, hreach⟩ := hs.pending handler hmem
      rcases hs.data with ⟨-, -, hnil⟩ | ⟨m, hm, h, hpage⟩
      · rw [hnil] at hmem
        exact absurd hmem List.not_mem_nil
      · rw [h.length_data] at hwaited hreach
        refine ⟨.inr ⟨m, hm, ⟨h.pos, h.data⟩, ?_⟩, hs.size_pos, fun other hother =>
          hs.pending other (List.mem_of_mem_eraseIdx hother)⟩
        show min handler.newPage (s.size - 1) < min m server.pages.length
        omega

theorem Ok.right (hs : Ok server s) : Right server s := by
  have hpos := List.length_pos_iff.2 server.pages_ne
  have hunclamped : ∀ handler ∈ s.pending, handler.newPage < s.size := fun handler hmem =>
    (hs.pending handler hmem).2.1
  rcases hs.data with ⟨hnone, hzero, -⟩ | ⟨m, -, h, hpage⟩
  · exact ⟨hzero ▸ hpos, hunclamped, fun hdata => absurd hnone hdata,
      fun hdata => absurd hnone hdata⟩
  · exact ⟨by omega, hunclamped, fun _ => h.pageResults hpage, fun _ => h.hasNext⟩

/-! ## Beyond the last page -/

/-- The screen on a page that it was led to without detours. -/
def onPage (server : Server μ) (i : ℕ) : State μ :=
  ⟨some (server.pages.take (i + 1)), i + 1, i, []⟩

theorem next_onPage (htold : ¬Told server) (i : ℕ) :
    MemberPages.next server (onPage server i) .next =
      some { onPage server i with size := i + 2, pending := [⟨i + 1, i + 2⟩] } := by
  have h : Loaded server (onPage server i) (i + 1) := ⟨Nat.succ_pos i, rfl⟩
  obtain ⟨htotal, hlast⟩ := not_or.1 htold
  have hcursor : (onPage server i).cursor ≠ "" := fun hempty =>
    hlast (h.cursor_eq_empty_iff.1 hempty).2
  have hnext : (onPage server i).hasNext server.limit := by
    refine .inl ?_
    rw [State.countForPagination, h.total, if_pos (not_not.1 htotal), if_pos hcursor]
  have hload : (onPage server i).cursor ≠ "" ∧
      (onPage server i).items.length ≤ (i + 1) * server.limit :=
    ⟨hcursor, Nat.le_trans h.length_items_le (Nat.mul_le_mul_right _ (Nat.min_le_left _ _))⟩
  rw [MemberPages.next, if_pos hnext, State.handleChangePage]
  exact congrArg some (if_pos hload)

/-- Where the total is not told, each page leads to another. -/
theorem exec_onPage (htold : ¬Told server) (i : ℕ) :
    (machine server).exec (onPage server i) [.next, .loaded, .settle 0] =
      some (onPage server (i + 1)) := by
  have hsettle : MemberPages.next server
      ⟨some (fetched server (i + 2)), i + 2, i, [⟨i + 1, i + 2⟩]⟩ (.settle 0) =
        some ⟨some (fetched server (i + 2)), i + 2, min (i + 1) (i + 1), []⟩ :=
    if_pos (Nat.le_refl _)
  show (MemberPages.next server (onPage server i) .next).bind _ = _
  rw [next_onPage htold, Option.bind_some]
  show (MemberPages.next server ⟨some (fetched server (i + 2)), i + 2, i, [⟨i + 1, i + 2⟩]⟩
    (.settle 0)).bind some = _
  rw [hsettle, Option.bind_some, Nat.min_self, fetched_eq]
  rfl

theorem reach_onPage (htold : ¬Told server) (i : ℕ) :
    ∃ h, (machine server).Reach Machine.anyStep h (onPage server i) := by
  induction i with
  | zero =>
    have hloaded : (machine server).next State.init .loaded = some (onPage server 0) := by
      rw [onPage, ← fetched_eq]
      rfl
    exact ⟨_, (Machine.Reach.start rfl).step trivial hloaded⟩
  | succ i ih =>
    obtain ⟨h, hr⟩ := ih
    exact ⟨_, hr.exec (exec_onPage htold i)⟩

/-- In all runs of the table, the pages are those of the server, and the last one is the last, exactly
where the total is told or the last page carries an empty cursor. -/
theorem pages_right_iff (server : Server μ) :
    (∀ h s, (machine server).Reach Machine.anyStep h s → Right server s) ↔ Told server := by
  constructor
  · intro hright
    by_contra htold
    obtain ⟨h, hr⟩ := reach_onPage htold server.pages.length
    exact absurd (hright h _ hr).currentPage_lt (Nat.lt_irrefl _)
  · intro htold h s hr
    refine Ok.right (hr.invariant (I := fun _ s => Ok server s) ?_ ?_)
    · rintro s rfl
      exact ok_init server
    · exact fun _ _ _ _ hs _ hn => ok_step htold hs hn

/-- A server with one member, which does not tell the total and has no cursor. -/
def singlePage : Server ℕ where
  limit := 10
  limit_pos := by decide
  pages := [⟨[0], none, -1⟩]
  respond _ := ⟨[0], none, -1⟩
  pages_ne := List.cons_ne_nil _ _
  chunked := (by decide : 1 ≤ 10)
  carries i p h := by
    cases i with
    | zero =>
      obtain rfl := Option.some.inj h
      decide
    | succ i => cases h
  respond_first := rfl
  respond_next i p _ hi := absurd hi (by simp)
  total := -1
  total_eq p hp := by rw [List.mem_singleton.1 hp]
  total_cases := .inr rfl

/-- The table leads to a second page without rows. -/
theorem beyond_singlePage : ∃ h s, (machine singlePage).Reach Machine.anyStep h s ∧
    s.currentPage = 1 ∧ s.pageResults 10 = [] ∧ ¬Right singlePage s := by
  refine ⟨_, onPage singlePage 1, Machine.reach_of_exec
    (h := [.settle 0, .loaded, .next, .loaded]) rfl rfl, rfl, rfl, fun h => ?_⟩
  exact absurd h.currentPage_lt (by decide)

end StytchBrowser.AdminPortal.MemberPages
