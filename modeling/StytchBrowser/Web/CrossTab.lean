import Mathlib.Logic.Function.Basic
import StytchBrowser.Lib.Machine
import StytchBrowser.Web.SubscriptionService

/-!
# Tabs that share one `localStorage`

Every write of the state key sends a storage event with the value written to every other tab, and a
tab receives its events in order. A tab spreads its updates over its own copy of the state, writes
the whole copy, and spreads what an event carries over its copy again, whether or not it has written
something newer in the meantime. So the tabs converge over the runs in which writes do not cross in
a way that matters: replaying the events a tab has not received yet on the state it writes leaves
that state as it is.

`replay` is the state a tab will have once its queued events are delivered. The invariant is that it
is the persisted state, up to `last_accessed_at`, for every tab.
-/

namespace StytchBrowser.Web.CrossTab

open Machine

/-- `KEYS_TO_EXCLUDE` of `deepEqualData`. -/
def excluded : List String := ["last_accessed_at"]

/-- A tab with the storage events it has not received. -/
structure OpenTab where
  tab : Tab
  queue : List (Option JsonObject)

/-- The tabs of a host with one public token, and the browser they share. -/
structure World (ι : Type) where
  browser : Browser
  tabs : ι → Option OpenTab

/-- What can happen in the tabs. -/
inductive Action (ι : Type) where
  | open (i : ι) (options : CookieOptions) (usingCustomApiEndpoint : Bool)
  | close (i : ι)
  | op (i : ι) (op : Op)
  | deliver (i : ι)

namespace World

variable {ι : Type} [DecidableEq ι]

/-- Tab `i` has become `t`, and what it wrote is sent to the other tabs. -/
def commit (w : World ι) (i : ι) (t : OpenTab) (b : Browser) : World ι where
  browser := { b with outbox := [] }
  tabs j := if j = i then some t
    else (w.tabs j).map fun u => { u with queue := u.queue ++ b.outbox }

variable (page : Page) (parseDate : String → Option ℤ)

/-- One step of the tabs, `none` when the step is not possible. -/
def next (w : World ι) : Action ι → Option (World ι)
  | .open i options custom =>
      match w.tabs i with
      | none =>
          let (b, t) := construct page options custom w.browser
          some (w.commit i ⟨t, []⟩ b)
      | some _ => none
  | .close i => some { w with tabs := Function.update w.tabs i none }
  | .op i op =>
      match w.tabs i with
      | some u =>
          let (b, t) := op.run page parseDate w.browser u.tab
          some (w.commit i ⟨t, u.queue⟩ b)
      | none => none
  | .deliver i =>
      match w.tabs i with
      | some ⟨tab, e :: queue⟩ =>
          let (b, t) := listen e w.browser tab
          some (w.commit i ⟨t, queue⟩ b)
      | _ => none

end World

/-- The runs of the tabs of a host, from any cookies and any content of `localStorage`. -/
def tabs {ι : Type} [DecidableEq ι] (page : Page) (parseDate : String → Option ℤ) :
    Machine (World ι) (Action ι) where
  init w := w.browser.outbox = [] ∧ ∀ i, w.tabs i = none
  next := World.next page parseDate

/-! ## Replaying events -/

/-- The state after an event. -/
def applyEvent (s : Option JsObject) (e : Option JsonObject) : Option JsObject :=
  e.map fun o => spread s (parse o)

/-- The state after a queue of events. -/
def replay (s : Option JsObject) (queue : List (Option JsonObject)) : Option JsObject :=
  queue.foldl applyEvent s

/-- The state that is persisted. -/
def persisted (b : Browser) : Option JsObject :=
  match b.stateItem with
  | some (.json state) => state.map parse
  | _ => none

/-- The fields of a state, up to the excluded ones. -/
def heldFields (s : Option JsObject) (k : String) : Option JsonTree :=
  (stateTree excluded s).bind fun t => t k

/-- `t` has every field of `s`. -/
def KeepsFields (s t : Option JsObject) : Prop := ∀ k, heldFields t k = none → heldFields s k = none

theorem applyEvent_congr {s t : Option JsObject} (h : SameState excluded s t)
    (e : Option JsonObject) : SameState excluded (applyEvent s e) (applyEvent t e) := by
  cases e with
  | none => exact .refl _
  | some o =>
    refine (sameState_some_iff _ _).2 ?_
    funext k
    rw [tree_spread_parse, tree_spread_parse,
      show stateTree excluded s = stateTree excluded t from h]

theorem replay_congr {s t : Option JsObject} (h : SameState excluded s t)
    (queue : List (Option JsonObject)) : SameState excluded (replay s queue) (replay t queue) := by
  induction queue generalizing s t with
  | nil => exact h
  | cons e queue ih => exact ih (applyEvent_congr h e)

theorem sameState_parse_stringify (s : Option JsObject) :
    SameState excluded ((s.map stringify).map parse) s := by
  cases s with
  | none => exact .refl _
  | some o => exact (sameState_some_iff _ _).2 (tree_parse_stringify o)

theorem heldFields_applyEvent (s : Option JsObject) (o : JsonObject) (k : String) :
    heldFields (applyEvent s (some o)) k =
      (JsObject.tree excluded (parse o) k).or (heldFields s k) :=
  tree_spread_parse s o k

theorem KeepsFields.applyEvent {s t : Option JsObject} (h : KeepsFields s t)
    (e : Option JsonObject) : KeepsFields (applyEvent s e) (applyEvent t e) := by
  cases e with
  | none => exact fun k _ => rfl
  | some o =>
    intro k hk
    rw [heldFields_applyEvent, Option.or_eq_none_iff] at hk ⊢
    exact ⟨hk.1, h k hk.2⟩

theorem KeepsFields.replay {s t : Option JsObject} (h : KeepsFields s t)
    (queue : List (Option JsonObject)) : KeepsFields (replay s queue) (replay t queue) := by
  induction queue generalizing s t with
  | nil => exact h
  | cons e queue ih => exact ih (h.applyEvent e)

theorem KeepsFields.congr {s s' t t' : Option JsObject} (h : KeepsFields s t)
    (hs : SameState excluded s s') (ht : SameState excluded t t') : KeepsFields s' t' := by
  intro k hk
  unfold heldFields at hk ⊢
  rw [← show stateTree excluded t = stateTree excluded t' from ht] at hk
  rw [← show stateTree excluded s = stateTree excluded s' from hs]
  exact h k hk

/-- A tab that held the old persisted state holds the new one after its event. -/
theorem applyEvent_written {p r s : Option JsObject} (hr : SameState excluded r p)
    (hk : s ≠ none → KeepsFields p s) : SameState excluded (applyEvent r (s.map stringify)) s := by
  cases s with
  | none => exact .refl _
  | some s' =>
    refine (sameState_some_iff _ _).2 ?_
    funext k
    rw [tree_spread_parse, tree_parse_stringify,
      show stateTree excluded r = stateTree excluded p from hr]
    cases hs : JsObject.tree excluded s' k with
    | some t => rfl
    | none => exact hk (Option.some_ne_none s') k hs

/-! ## What an entry point does to the storage -/

/-- The state key is left alone. -/
structure Silent (b b' : Browser) : Prop where
  stateItem : b'.stateItem = b.stateItem
  outbox : b'.outbox = b.outbox

/-- The state `s` is written. -/
structure Wrote (b b' : Browser) (s : Option JsObject) : Prop where
  stateItem : b'.stateItem = some (.json (s.map stringify))
  outbox : b'.outbox = b.outbox ++ [s.map stringify]

theorem Silent.refl (b : Browser) : Silent b b := ⟨rfl, rfl⟩

theorem Silent.trans {b₁ b₂ b₃ : Browser} (h : Silent b₁ b₂) (h' : Silent b₂ b₃) : Silent b₁ b₃ :=
  ⟨h'.stateItem.trans h.stateItem, h'.outbox.trans h.outbox⟩

theorem Silent.wrote {b₁ b₂ b₃ : Browser} {s : Option JsObject} (h : Silent b₁ b₂)
    (h' : Wrote b₂ b₃ s) : Wrote b₁ b₃ s :=
  ⟨h'.stateItem, h.outbox ▸ h'.outbox⟩

theorem Wrote.silent {b₁ b₂ b₃ : Browser} {s : Option JsObject} (h : Wrote b₁ b₂ s)
    (h' : Silent b₂ b₃) : Wrote b₁ b₃ s :=
  ⟨h'.stateItem.trans h.stateItem, h'.outbox.trans h.outbox⟩

theorem wrote_sync (state : Option JsObject) (b : Browser) :
    Wrote b (syncToLocalStorage state b) state := ⟨rfl, rfl⟩

section Storage

variable (page : Page) (parseDate : String → Option ℤ)

variable {b b' : Browser}

theorem Silent.addSeenDomain (h : Silent b b') (domain : Option String) :
    Silent b (addSeenDomain domain b') := by
  unfold Web.addSeenDomain
  split
  · exact h
  · split_ifs
    · exact h
    · exact ⟨h.stateItem, h.outbox⟩

theorem Silent.removeAlternate (h : Silent b b') (name : String) (attributes : CookieAttributes) :
    Silent b (removeAlternate page name attributes b') := by
  unfold Web.removeAlternate
  split_ifs
  · exact ⟨h.stateItem, h.outbox⟩
  · exact h

theorem Silent.setCookie (h : Silent b b') (now : ℤ) (name value : String)
    (attributes : CookieAttributes) : Silent b (setCookie page now name value attributes b') :=
  ⟨h.stateItem, h.outbox⟩

theorem Silent.removeCookies (h : Silent b b') (o : CookieOptions) (names : List String) :
    Silent b (removeCookies page o names b') :=
  ⟨h.stateItem, h.outbox⟩

theorem Silent.writeSessionCookie (h : Silent b b') (now : ℤ) (o : CookieOptions)
    (state : Option JsObject) (token jwt : String) :
    Silent b (writeSessionCookie page parseDate now o state token jwt b') := by
  unfold Web.writeSessionCookie
  dsimp only
  refine Silent.removeAlternate page (Silent.removeAlternate page ?_ _ _) _ _
  refine Silent.addSeenDomain ?_ _
  refine Silent.setCookie page (Silent.setCookie page ?_ now _ _ _) now _ _ _
  exact h.addSeenDomain _

theorem silent_updateCookies (now : ℤ) (o : CookieOptions) (diff : StateWithTokensDiff)
    (b : Browser) : Silent b (updateCookies page parseDate now o diff b) := by
  cases diff with
  | loggedIn state token jwt =>
    have hwrite := (Silent.refl b).writeSessionCookie page parseDate now o (some state) token jwt
    exact hwrite.removeCookies page o _
  | loggedInOpaque state => exact ⟨rfl, rfl⟩
  | loggedOut => exact ⟨rfl, rfl⟩
  | intermediate token =>
    simp only [updateCookies]
    split_ifs
    · exact ⟨rfl, rfl⟩
    · exact ⟨rfl, rfl⟩
  | intermediateOpaque => exact ⟨rfl, rfl⟩

/-- What an entry point spreads over the state: `some none` when it makes it null, `none` when it
leaves it alone. -/
def updateOf : Op → Option (Option JsObject)
  | .updateStateAndTokens _ diff _ => some diff.state
  | .updateState state => some state
  | .updateTokens .. => none
  | .destroyState _ => some none
  | .destroySession => some none

/-- Whether an entry point leaves out the write of an update, given the state before it. -/
def skips (s update : Option JsObject) : Op → Bool
  | .updateState _ => deepEqualData s (update.map (spread s))
  | .destroySession => deepEqualData s (update.map (spread s))
  | _ => false

theorem state_updateState (state : Option JsObject) (external : Bool) (b : Browser) (t : Tab) :
    (updateState state external b t).2.state = state.map (spread t.state) := rfl

theorem wrote_updateState {state : Option JsObject} {t : Tab}
    (h : deepEqualData t.state (state.map (spread t.state)) = false) (b : Browser) :
    Wrote b (updateState state false b t).1 (state.map (spread t.state)) := by
  simp only [updateState, h]
  exact wrote_sync _ b

theorem silent_updateState {state : Option JsObject} {t : Tab}
    (h : deepEqualData t.state (state.map (spread t.state)) = true) (b : Browser) :
    Silent b (updateState state false b t).1 := by
  simp only [updateState, h]
  exact .refl b

theorem state_listen (e : Option JsonObject) (b : Browser) (t : Tab) :
    (listen e b t).2.state = applyEvent t.state e := by
  cases e <;> rfl

theorem silent_listen (e : Option JsonObject) (b : Browser) (t : Tab) :
    Silent b (listen e b t).1 := by
  simp only [listen, updateState, Bool.not_true, Bool.and_false]
  exact .refl b

/-- An entry point without an update leaves the state and the state key alone. -/
theorem run_of_update_none {op : Op} (h : updateOf op = none) (b : Browser) (t : Tab) :
    Silent b (op.run page parseDate b t).1 ∧ (op.run page parseDate b t).2.state = t.state := by
  cases op with
  | updateTokens now token jwt =>
    simp only [Op.run, updateTokens]
    split_ifs
    · have hwrite := (Silent.refl b).writeSessionCookie page parseDate now t.options none
        token.text jwt.text
      exact ⟨hwrite.removeCookies page t.options _, rfl⟩
    · exact ⟨(Silent.refl b).removeCookies page t.options _, rfl⟩
  | updateStateAndTokens now diff options => cases h
  | updateState state => cases h
  | destroyState now => cases h
  | destroySession => cases h

theorem run_updateStateAndTokens (now : ℤ) (diff : StateWithTokensDiff)
    (options : Core.SessionUpdateOptions) (b : Browser) (t : Tab) :
    Wrote b (updateStateAndTokens page parseDate now diff options b t).1
      (diff.state.map (spread t.state)) :=
  (silent_updateCookies page parseDate now t.options diff b).wrote (wrote_sync _ _)

/-- An entry point spreads its update over the state, and writes what it gives unless it takes it
for unchanged. -/
theorem run_of_update {op : Op} {update : Option JsObject} (h : updateOf op = some update)
    (b : Browser) (t : Tab) :
    (op.run page parseDate b t).2.state = update.map (spread t.state) ∧
      if skips t.state update op then Silent b (op.run page parseDate b t).1
      else Wrote b (op.run page parseDate b t).1 (update.map (spread t.state)) := by
  cases op with
  | updateStateAndTokens now diff options =>
    obtain rfl := Option.some.inj h
    exact ⟨rfl, run_updateStateAndTokens page parseDate now diff options b t⟩
  | updateState state =>
    obtain rfl := Option.some.inj h
    refine ⟨rfl, ?_⟩
    split_ifs with hskip
    · exact silent_updateState hskip b
    · exact wrote_updateState (eq_false_of_ne_true hskip) b
  | updateTokens now token jwt => cases h
  | destroyState now =>
    obtain rfl := Option.some.inj h
    exact ⟨rfl, run_updateStateAndTokens page parseDate now .loggedOut (.fresh none) b t⟩
  | destroySession =>
    obtain rfl := Option.some.inj h
    have hsilent := (Silent.refl b).removeCookies page t.options
      [t.options.opaqueTokenName, t.options.jwtName]
    refine ⟨rfl, ?_⟩
    split_ifs with hskip
    · exact hsilent.trans (silent_updateState hskip _)
    · exact hsilent.wrote (wrote_updateState (eq_false_of_ne_true hskip) _)

/-- A new tab holds what is persisted, or null, which it then writes. -/
theorem construct_cases (options : CookieOptions) (custom : Bool) (b : Browser) :
    Silent b (construct page options custom b).1 ∧
        SameState excluded (construct page options custom b).2.state (persisted b) ∨
      Wrote b (construct page options custom b).1 none ∧
        (construct page options custom b).2.state = none := by
  have hdestroy : ∀ (b' : Browser) (t : Tab), t.state = none →
      Silent b' (destroySession page b' t).1 := by
    intro b' t ht
    refine ((Silent.refl b').removeCookies page t.options _).trans (silent_updateState ?_ _)
    rw [ht]
    rfl
  unfold construct newDataLayer
  cases hitem : b.stateItem with
  | none =>
    have hnone : persisted b = none := by rw [persisted, hitem]
    refine .inl ?_
    rw [hnone]
    dsimp only
    split_ifs
    · exact ⟨.refl b, .refl _⟩
    · exact ⟨.refl b, .refl _⟩
    · exact ⟨hdestroy b _ rfl, .refl _⟩
  | some text =>
    cases text with
    | malformed =>
      refine .inr ?_
      dsimp only
      split_ifs
      · exact ⟨wrote_sync none b, rfl⟩
      · exact ⟨wrote_sync none b, rfl⟩
      · exact ⟨(wrote_sync none b).silent (hdestroy _ _ rfl), rfl⟩
    | json state =>
      have hstate : persisted b = state.map parse := by rw [persisted, hitem]
      rw [hstate]
      dsimp only
      split_ifs
      · exact .inl ⟨.refl b, .refl _⟩
      · exact .inl ⟨.refl b, .refl _⟩
      · cases state with
        | none => exact .inl ⟨hdestroy b _ rfl, .refl _⟩
        | some o =>
          refine .inr ⟨?_, rfl⟩
          exact ((Silent.refl b).removeCookies page options _).wrote (wrote_updateState rfl _)

end Storage

/-! ## The invariant -/

section Invariant

variable {ι : Type} [DecidableEq ι] {page : Page} {parseDate : String → Option ℤ}

/-- Every tab will hold the persisted state once its events are delivered. -/
structure Synced (w : World ι) : Prop where
  outbox : w.browser.outbox = []
  replay : ∀ i u, w.tabs i = some u →
    SameState excluded (replay u.tab.state u.queue) (persisted w.browser)

theorem tabs_commit {w : World ι} {i j : ι} {t u : OpenTab} {b : Browser}
    (h : (w.commit i t b).tabs j = some u) :
    j = i ∧ u = t ∨ ∃ v, w.tabs j = some v ∧ u = { v with queue := v.queue ++ b.outbox } := by
  unfold World.commit at h
  dsimp only at h
  split_ifs at h with hij
  · exact .inl ⟨hij, (Option.some.inj h).symm⟩
  · obtain ⟨v, hv, rfl⟩ := Option.map_eq_some_iff.1 h
    exact .inr ⟨v, hv, rfl⟩

theorem persisted_congr {b b' : Browser} (h : b'.stateItem = b.stateItem) :
    persisted b' = persisted b := by
  rw [persisted, persisted, h]

theorem Synced.commit_silent {w : World ι} (hw : Synced w) {b : Browser} (hb : Silent w.browser b)
    {t : OpenTab} (ht : SameState excluded (CrossTab.replay t.tab.state t.queue)
      (persisted w.browser)) (i : ι) : Synced (w.commit i t b) := by
  refine ⟨rfl, fun j u hu => ?_⟩
  rw [show persisted (w.commit i t b).browser = persisted w.browser from
    persisted_congr hb.stateItem]
  rcases tabs_commit hu with ⟨-, rfl⟩ | ⟨v, hv, rfl⟩
  · exact ht
  · rw [hb.outbox, hw.outbox, List.append_nil]
    exact hw.replay j v hv

theorem Synced.commit_wrote {w : World ι} (hw : Synced w) {b : Browser} {s : Option JsObject}
    (hb : Wrote w.browser b s) (hk : s ≠ none → KeepsFields (persisted w.browser) s)
    {t : OpenTab} (ht : SameState excluded (CrossTab.replay t.tab.state t.queue) s) (i : ι) :
    Synced (w.commit i t b) := by
  have hpersisted : SameState excluded (persisted (w.commit i t b).browser) s := by
    rw [show persisted (w.commit i t b).browser = (s.map stringify).map parse by
      simp only [persisted, World.commit, hb.stateItem]]
    exact sameState_parse_stringify s
  refine ⟨rfl, fun j u hu => ?_⟩
  rcases tabs_commit hu with ⟨-, rfl⟩ | ⟨v, hv, rfl⟩
  · exact ht.trans hpersisted.symm
  · rw [hb.outbox, hw.outbox, List.nil_append, CrossTab.replay, List.foldl_append]
    exact (applyEvent_written (hw.replay j v hv) hk).trans hpersisted.symm

/-- An update of a tab with the state `s` and the events of `queue` still to come: the update is
skipped only when it changes nothing, and otherwise replaying the events on the new state leaves it
as it is, and the update does not make a field `undefined` that the state has. -/
structure Settles (s : Option JsObject) (queue : List (Option JsonObject)) (op : Op)
    (update : Option JsObject) : Prop where
  skip : skips s update op → SameState excluded (update.map (spread s)) s
  replay : ¬ skips s update op →
    SameState excluded (replay (update.map (spread s)) queue) (update.map (spread s))
  fields : ¬ skips s update op → ∀ u k, update = some u → u.get k = some none →
    heldFields s k = none

/-- A step in which no update crosses with one that matters. -/
def settled : Guard (World ι) (Action ι) := fun _ w a =>
  match a with
  | .op i op => ∀ u, w.tabs i = some u → ∀ update, updateOf op = some update →
      Settles u.tab.state u.queue op update
  | _ => True

theorem keepsFields_spread {s : Option JsObject} {u : JsObject}
    (h : ∀ k, u.get k = some none → heldFields s k = none) : KeepsFields s (some (spread s u)) := by
  intro k hk
  cases s with
  | none => rfl
  | some s =>
    by_contra hne
    change JsObject.tree excluded (spread (some s) u) k = none at hk
    change JsObject.tree excluded s k ≠ none at hne
    have hnone : u.get k ≠ some none := fun hu => hne (h k hu)
    unfold JsObject.tree at hk hne
    rw [get_spread] at hk
    split_ifs at hk hne with hx
    · exact hne rfl
    · cases hu : u.get k with
      | none =>
        rw [hu] at hk
        exact hne hk
      | some v =>
        cases v with
        | none => exact hnone hu
        | some j => simp [hu] at hk

theorem Synced.op {w : World ι} (hw : Synced w) {i : ι} {u : OpenTab} (hu : w.tabs i = some u)
    {op : Op} (hop : ∀ update, updateOf op = some update → Settles u.tab.state u.queue op update) :
    Synced (w.commit i ⟨(op.run page parseDate w.browser u.tab).2, u.queue⟩
      (op.run page parseDate w.browser u.tab).1) := by
  cases hupdate : updateOf op with
  | none =>
    obtain ⟨hsilent, hstate⟩ := run_of_update_none page parseDate hupdate w.browser u.tab
    refine hw.commit_silent hsilent ?_ i
    rw [hstate]
    exact hw.replay i u hu
  | some update =>
    obtain ⟨hstate, hwrite⟩ := run_of_update page parseDate hupdate w.browser u.tab
    have hsettles := hop update hupdate
    split_ifs at hwrite with hskip
    · refine hw.commit_silent hwrite ?_ i
      rw [hstate]
      exact (replay_congr (hsettles.skip hskip) u.queue).trans (hw.replay i u hu)
    · refine hw.commit_wrote hwrite (fun hne => ?_) ?_ i
      · cases update with
        | none => exact absurd rfl hne
        | some o =>
          have hkeeps := keepsFields_spread fun k => hsettles.fields hskip o k rfl
          exact (hkeeps.replay u.queue).congr (hw.replay i u hu) (hsettles.replay hskip)
      · rw [hstate]
        exact hsettles.replay hskip

theorem Synced.next {w w' : World ι} (hw : Synced w) {h : List (Action ι)} {a : Action ι}
    (hc : settled h w a) (hn : w.next page parseDate a = some w') : Synced w' := by
  cases a with
  | «open» i o custom =>
    simp only [World.next] at hn
    split at hn
    · obtain rfl := Option.some.inj hn
      rcases construct_cases page o custom w.browser with ⟨hsilent, hstate⟩ | ⟨hwrote, hstate⟩
      · exact @Synced.commit_silent ι _ w hw _ hsilent ⟨_, []⟩ hstate i
      · refine hw.commit_wrote hwrote (absurd rfl) ?_ i
        rw [hstate]
        exact .refl _
    · cases hn
  | close i =>
    obtain rfl := Option.some.inj hn
    refine ⟨hw.outbox, fun j u hu => hw.replay j u ?_⟩
    by_cases hij : j = i
    · simp [hij] at hu
    · simpa [hij] using hu
  | op i op =>
    simp only [World.next] at hn
    split at hn
    · next u hu =>
      obtain rfl := Option.some.inj hn
      exact hw.op hu (hc u hu)
    · cases hn
  | deliver i =>
    simp only [World.next] at hn
    split at hn
    · next tab e queue hu =>
      obtain rfl := Option.some.inj hn
      refine hw.commit_silent (silent_listen e w.browser tab) ?_ i
      rw [state_listen]
      exact hw.replay i _ hu
    · cases hn

theorem synced_of_reach {h : List (Action ι)} {w : World ι}
    (hr : Reach (tabs page parseDate) settled h w) : Synced w := by
  refine hr.invariant (I := fun _ w => Synced w) ?_ ?_
  · rintro w ⟨houtbox, hclosed⟩
    refine ⟨houtbox, fun i u hu => ?_⟩
    rw [hclosed i] at hu
    cases hu
  · exact fun _ _ _ _ hw hc hn => hw.next hc hn

/-- No storage event is in flight. -/
def World.Quiet (w : World ι) : Prop := ∀ i u, w.tabs i = some u → u.queue = []

/-- In the runs whose steps all settle, once no event is in flight every tab holds the persisted
state, and so all tabs hold the same. -/
theorem tabs_agree {h : List (Action ι)} {w : World ι}
    (hr : Reach (tabs page parseDate) settled h w) (hquiet : w.Quiet) :
    (∀ i u, w.tabs i = some u → SameState excluded u.tab.state (persisted w.browser)) ∧
      ∀ i j u v, w.tabs i = some u → w.tabs j = some v →
        SameState excluded u.tab.state v.tab.state := by
  have hsynced := synced_of_reach hr
  have hpersisted : ∀ i u, w.tabs i = some u →
      SameState excluded u.tab.state (persisted w.browser) := by
    intro i u hu
    have hreplay := hsynced.replay i u hu
    rwa [hquiet i u hu] at hreplay
  exact ⟨hpersisted, fun i j u v hu hv => (hpersisted i u hu).trans (hpersisted j v hv).symm⟩

/-- An update that is not skipped settles in a tab that has received every event, when it sets no
field to `undefined`. -/
theorem Settles.of_delivered {s update : Option JsObject} {op : Op}
    (hskip : skips s update op = false)
    (hfields : ∀ u k, update = some u → u.get k ≠ some none) : Settles s [] op update where
  skip h := by
    rw [hskip] at h
    cases h
  replay _ := .refl _
  fields _ u k hu hk := absurd hk (hfields u k hu)

end Invariant

/-- A page on `example.com`. -/
def examplePage : Page where
  host := "example.com"
  hostname := "example.com"
  fileDomain d := if d = "example.com" then some (some d) else none
  pathVisible _ := true
  encodeName name := name
  encodeName_injective _ _ h := h

/-- A browser without cookies and an empty `localStorage`. -/
def emptyBrowser : Browser := ⟨.empty, none, none, []⟩

/-- No tab is open, for a family of two. -/
def noTabs : World Bool := ⟨emptyBrowser, fun _ => none⟩

theorem init_noTabs : (tabs examplePage fun _ => none).init noTabs := ⟨rfl, fun _ => rfl⟩

/-- The default cookie options. -/
def defaults : CookieOptions := ⟨none, none, none, none, none, false⟩

/-- A login with the session `id`. -/
def loginWith (id : String) : Op :=
  .updateStateAndTokens 0 (.loggedInOpaque (OrderedMap.empty.set "session" (some (.str id))))
    (.fresh none)

/-- Two tabs, a login in one, and its event delivered to the other. -/
theorem tabs_agree_login :
    ∃ (h : List (Action Bool)) (w : World Bool),
      Reach (tabs examplePage fun _ => none) settled h w ∧ h.length = 4 ∧
      ∀ i j u v, w.tabs i = some u → w.tabs j = some v →
        SameState excluded u.tab.state v.tab.state := by
  obtain ⟨w, hr, hquiet⟩ : ∃ w : World Bool, Reach (tabs examplePage fun _ => none) settled
      [.deliver false, .op true (loginWith "s1"), .open true defaults true,
        .open false defaults true] w ∧ w.Quiet := by
    have hlogin : ∀ s update, updateOf (loginWith "s1") = some update →
        Settles s [] (loginWith "s1") update := by
      rintro s _ ⟨⟩
      refine .of_delivered rfl fun u k hu hk => ?_
      obtain rfl := Option.some.inj hu
      rw [OrderedMap.get_set, OrderedMap.get_empty] at hk
      split_ifs at hk
      cases hk
    refine ⟨_, .step (.step (.step (.step (.start init_noTabs) trivial rfl) trivial rfl) ?_ rfl)
      trivial rfl, ?_⟩
    · intro u hu
      obtain rfl := Option.some.inj hu
      exact hlogin _
    · intro i u hu
      cases i
      · obtain rfl := Option.some.inj hu
        rfl
      · obtain rfl := Option.some.inj hu
        rfl
  exact ⟨_, w, hr, rfl, (tabs_agree hr hquiet).2⟩

/-- Two logins that cross: each tab applies the event of the other, so the tab that wrote last goes
back to the older login, which is not the persisted one. -/
theorem tabs_disagree :
    ∃ (h : List (Action Bool)) (w : World Bool),
      Reach (tabs examplePage fun _ => none) anyStep h w ∧ w.Quiet ∧
        ∃ u, w.tabs true = some u ∧ ¬ SameState excluded u.tab.state (persisted w.browser) := by
  obtain ⟨w, hr, hquiet, u, hu, hne⟩ : ∃ w : World Bool,
      Reach (tabs examplePage fun _ => none) anyStep
        [.deliver true, .deliver false, .op true (loginWith "s2"), .op false (loginWith "s1"),
          .open true defaults true, .open false defaults true] w ∧ w.Quiet ∧
        ∃ u, w.tabs true = some u ∧ ¬ SameState excluded u.tab.state (persisted w.browser) := by
    refine ⟨_, reach_of_exec init_noTabs rfl, ?_, _, rfl, ?_⟩
    · intro i u hu
      cases i
      · obtain rfl := Option.some.inj hu
        rfl
      · obtain rfl := Option.some.inj hu
        rfl
    · intro hsame
      have hsession : some (JsonTree.str "s1") = some (JsonTree.str "s2") :=
        congrArg (fun t => t.bind fun t => t "session") hsame
      simp at hsession
  exact ⟨_, w, hr, hquiet, u, hu, hne⟩

end StytchBrowser.Web.CrossTab
