import StytchBrowser.Lib.Machine
import StytchBrowser.Lib.SearchParams
import StytchBrowser.Lib.Slots
import StytchBrowser.JsUtils.PlainObject

/-!
# Authenticating with the token of a URL

`parseAuthenticateUrl` looks for a token in a URL, `authenticateByUrl` hands it to the handler of its
type, and `clearStytchTokenParams` takes it out of the URL of the page. Up to the call of the handler
`authenticateByUrl` does not wait for anything, so a call is one step; the handler settles in another
one, and other calls may come in between.

On the page's own URL the default is to clear it, so only the first of any number of calls finds the
token (`consumesOnce`). The option `clearParams: false` turns that off, and then every call hands the
same token to the handler (`keptParams_invoke_twice`).
-/

universe u v w x

namespace StytchBrowser.Web.AuthUrlHandler

open FormUrlEncoded (Bytes)

/-- What `parseAuthenticateUrl` returns when there is a token. -/
structure ParsedUrl where
  handled : Bool
  token : String
  tokenType : String

/-- What `authenticateByUrl` resolves to when there is a token, for handlers with results `δ`. -/
inductive Result (δ : Type v) where
  | handled (tokenType : String) (data : δ)
  | unhandled (tokenType token : String)

/-- The promise of a call, for handlers that reject with `ε`. -/
inductive Status (δ : Type v) (ε : Type w) where
  | awaiting (tokenType : String)
  | fulfilled (result : Option (Result δ))
  | rejected (reason : TypeError ⊕ ε)

/-- A call of `authenticateByUrl`, with the URL that it reads. -/
structure Call (δ : Type v) (ε : Type w) where
  href : Bytes
  status : Status δ ε

/-- A call of a handler, with the session options `τ`. -/
structure Invocation (τ : Type x) where
  tokenType : String
  token : String
  options : τ

/-- The page: its URL, the calls of handlers, oldest first, and the calls of `authenticateByUrl`. -/
structure Page (Url : Type u) (δ : Type v) (ε : Type w) (τ : Type x) where
  location : Url
  invoked : List (Invocation τ)
  calls : List (Call δ ε)

variable {Url : Type u} {δ : Type v} {ε : Type w} {τ : Type x}

namespace Page

def invoke (s : Page Url δ ε τ) (p : ParsedUrl) (options : τ) : Page Url δ ε τ :=
  { s with invoked := s.invoked ++ [⟨p.tokenType, p.token, options⟩] }

def addCall (s : Page Url δ ε τ) (href : Bytes) (status : Status δ ε) : Page Url δ ε τ :=
  { s with calls := s.calls ++ [⟨href, status⟩] }

end Page

variable (U : UrlStandard Url) (handledTokenTypes : List String)

/-- `!value` is false: neither `null` nor the empty string. -/
def present (value : Option String) : Option String := value.filter fun v => v ≠ ""

/-- `parseAuthenticateUrl` after `new URL`. -/
def parsedUrl (url : Url) : Option ParsedUrl :=
  match present (U.get url "token"), present (U.get url "stytch_token_type") with
  | some token, some tokenType => some ⟨decide (tokenType ∈ handledTokenTypes), token, tokenType⟩
  | _, _ => none

/-- `parseAuthenticateUrl`, for the keys of the handlers. -/
def parseAuthenticateUrl (href : Bytes) : Except TypeError (Option ParsedUrl) :=
  match U.parse href with
  | none => .error .typeError
  | some url => .ok (parsedUrl U handledTokenTypes url)

/-- `removeStytchTokenParams`. -/
def removeStytchTokenParams (href : Bytes) : Except TypeError Url :=
  match U.parse href with
  | none => .error .typeError
  | some url => .ok (U.delete (U.delete url "token") "stytch_token_type")

/-- `clearStytchTokenParams`: the new URL of the page. -/
def clearStytchTokenParams (location : Url) : Except TypeError Url :=
  removeStytchTokenParams U (U.href location)

/-- `href = window.location.href`. -/
def hrefOf (s : Page Url δ ε τ) (href : Option Bytes) : Bytes := href.getD (U.href s.location)

/-- `clearParams ?? href === window.location.href`. -/
def shouldClearParams (s : Page Url δ ε τ) (clearParams : Option Bool) (href : Option Bytes) : Bool :=
  clearParams.getD (decide (hrefOf U s href = U.href s.location))

/-- `authenticateByUrl` up to the first thing it waits for. -/
def authenticateByUrl (s : Page Url δ ε τ) (clearParams : Option Bool) (options : τ)
    (href : Option Bytes) : Page Url δ ε τ :=
  match parseAuthenticateUrl U handledTokenTypes (hrefOf U s href) with
  | .error e => s.addCall (hrefOf U s href) (.rejected (.inl e))
  | .ok none => s.addCall (hrefOf U s href) (.fulfilled none)
  | .ok (some p) =>
    if p.handled then
      if shouldClearParams U s clearParams href then
        match clearStytchTokenParams U s.location with
        | .error e => s.addCall (hrefOf U s href) (.rejected (.inl e))
        | .ok url =>
          (({ s with location := url } : Page Url δ ε τ).invoke p options).addCall (hrefOf U s href)
            (.awaiting p.tokenType)
      else (s.invoke p options).addCall (hrefOf U s href) (.awaiting p.tokenType)
    else s.addCall (hrefOf U s href) (.fulfilled (some (.unhandled p.tokenType p.token)))

/-- The handler that call `i` waits for settles. -/
def settle (s : Page Url δ ε τ) (i : ℕ) (outcome : Except ε δ) : Option (Page Url δ ε τ) :=
  match s.calls[i]? with
  | some ⟨href, .awaiting tokenType⟩ =>
    match outcome with
    | .ok data =>
      some { s with calls := s.calls.set i ⟨href, .fulfilled (some (.handled tokenType data))⟩ }
    | .error e => some { s with calls := s.calls.set i ⟨href, .rejected (.inr e)⟩ }
  | _ => none

inductive Action (δ : Type v) (ε : Type w) (τ : Type x) where
  | authenticateByUrl (clearParams : Option Bool) (options : τ) (href : Option Bytes)
  | settle (i : ℕ) (outcome : Except ε δ)

/-- The page from its load at the URL `page` on. -/
def runs (page : Url) : Machine (Page Url δ ε τ) (Action δ ε τ) where
  init s := s = ⟨page, [], []⟩
  next s
    | .authenticateByUrl clearParams options href =>
      some (authenticateByUrl U handledTokenTypes s clearParams options href)
    | .settle i outcome => settle s i outcome

/-- Every call reads the URL of the page. -/
def onPage : Machine.Guard (Page Url δ ε τ) (Action δ ε τ) := fun _ s a =>
  match a with
  | .authenticateByUrl _ _ href => hrefOf U s href = U.href s.location
  | .settle _ _ => True

/-- Every call reads the URL of the page, and none has `clearParams: false`. -/
def clearing : Machine.Guard (Page Url δ ε τ) (Action δ ε τ) := fun h s a =>
  onPage U h s a ∧
    match a with
    | .authenticateByUrl clearParams _ _ => clearParams ≠ some false
    | .settle _ _ => True

/-- The action is a call that clears the URL of the page. -/
def Clears (s : Page Url δ ε τ) : Action δ ε τ → Prop
  | .authenticateByUrl clearParams _ href =>
    shouldClearParams U s clearParams href = true ∧
      ∃ p, parseAuthenticateUrl U handledTokenTypes (hrefOf U s href) = .ok (some p) ∧ p.handled = true
  | .settle _ _ => False

/-! ## What `clearStytchTokenParams` leaves -/

/-- The parameters that are not consumed. -/
def otherParams (l : List (String × String)) : List (String × String) :=
  l.filter fun p => p.1 ≠ "token" ∧ p.1 ≠ "stytch_token_type"

def withoutToken (url : Url) : Url := U.delete (U.delete url "token") "stytch_token_type"

theorem clearStytchTokenParams_eq (location : Url) :
    clearStytchTokenParams U location = .ok (withoutToken U location) := by
  rw [clearStytchTokenParams, removeStytchTokenParams, U.parse_href]
  rfl

theorem searchParams_withoutToken (url : Url) :
    U.searchParams (withoutToken U url) = otherParams (U.searchParams url) := by
  rw [withoutToken, U.searchParams_delete, U.searchParams_delete, List.filter_filter, otherParams]
  refine List.filter_congr fun p _ => ?_
  rw [← Bool.decide_and]
  exact decide_eq_decide.2 And.comm

theorem otherParams_otherParams (l : List (String × String)) :
    otherParams (otherParams l) = otherParams l := by
  rw [otherParams, otherParams, List.filter_filter]
  exact List.filter_congr fun p _ => Bool.and_self _

theorem parsedUrl_eq_none {url : Url} {l : List (String × String)}
    (h : U.searchParams url = otherParams l) : parsedUrl U handledTokenTypes url = none := by
  have hget : U.get url "token" = none := by
    refine U.get_eq_none fun p hp => ?_
    rw [h] at hp
    exact (of_decide_eq_true (List.mem_filter.1 hp).2).1
  rw [parsedUrl, hget]
  rfl

theorem parseAuthenticateUrl_href (url : Url) :
    parseAuthenticateUrl U handledTokenTypes (U.href url) = .ok (parsedUrl U handledTokenTypes url) := by
  rw [parseAuthenticateUrl, U.parse_href]

/-! ## One call -/

/-- The status that a call can have on a URL with the given parse. -/
inductive Reported : Except TypeError (Option ParsedUrl) → Status δ ε → Prop where
  | threw (e : TypeError) : Reported (.error e) (.rejected (.inl e))
  | noToken : Reported (.ok none) (.fulfilled none)
  | unhandled {p : ParsedUrl} (hp : p.handled = false) :
      Reported (.ok (some p)) (.fulfilled (some (.unhandled p.tokenType p.token)))
  | awaiting {p : ParsedUrl} (hp : p.handled = true) :
      Reported (.ok (some p)) (.awaiting p.tokenType)
  | handled {p : ParsedUrl} (hp : p.handled = true) (data : δ) :
      Reported (.ok (some p)) (.fulfilled (some (.handled p.tokenType data)))
  | failed {p : ParsedUrl} (hp : p.handled = true) (e : ε) :
      Reported (.ok (some p)) (.rejected (.inr e))

/-- A fulfilled call reports `handled` where the parse is handled, and nowhere else. -/
theorem Reported.handled_iff {parsed : Except TypeError (Option ParsedUrl)} {result : Option (Result δ)}
    (h : Reported parsed (.fulfilled result : Status δ ε)) :
    (∃ tokenType data, result = some (.handled tokenType data)) ↔
      ∃ p, parsed = .ok (some p) ∧ p.handled = true := by
  cases h with
  | noToken => simp
  | unhandled hp => simp [hp]
  | @handled p hp data => exact ⟨fun _ => ⟨p, rfl, hp⟩, fun _ => ⟨p.tokenType, data, rfl⟩⟩

/-- The URL of the page after a call that hands a token over. -/
def locationAfter (s : Page Url δ ε τ) (clears : Bool) : Url :=
  if clears then withoutToken U s.location else s.location

variable {U handledTokenTypes}

/-- A call hands no token over, or it is on a handled URL and hands the token over. -/
theorem authenticateByUrl_cases (s : Page Url δ ε τ) (clearParams : Option Bool) (options : τ)
    (href : Option Bytes) :
    (∃ status, Reported (parseAuthenticateUrl U handledTokenTypes (hrefOf U s href)) status ∧
        (∀ p, parseAuthenticateUrl U handledTokenTypes (hrefOf U s href) = .ok (some p) →
          p.handled = false) ∧
        authenticateByUrl U handledTokenTypes s clearParams options href =
          s.addCall (hrefOf U s href) status) ∨
      ∃ p, parseAuthenticateUrl U handledTokenTypes (hrefOf U s href) = .ok (some p) ∧
        p.handled = true ∧
        authenticateByUrl U handledTokenTypes s clearParams options href =
          (({ s with location := locationAfter U s (shouldClearParams U s clearParams href) } :
            Page Url δ ε τ).invoke p options).addCall (hrefOf U s href) (.awaiting p.tokenType) := by
  unfold authenticateByUrl
  match parseAuthenticateUrl U handledTokenTypes (hrefOf U s href) with
  | .error e => exact Or.inl ⟨_, .threw e, fun p hp => (by cases hp), rfl⟩
  | .ok none => exact Or.inl ⟨_, .noToken, fun p hp => (by cases hp), rfl⟩
  | .ok (some p) =>
    by_cases hp : p.handled = true
    · refine Or.inr ⟨p, rfl, hp, ?_⟩
      dsimp only [locationAfter]
      rw [if_pos hp, clearStytchTokenParams_eq]
      split_ifs <;> rfl
    · refine Or.inl ⟨_, .unhandled (Bool.eq_false_iff.2 hp), ?_, if_neg hp⟩
      rintro _ ⟨⟩
      exact Bool.eq_false_iff.2 hp

/-- A handler that settles changes the status of the call that waits for it. -/
theorem settle_cases {s s' : Page Url δ ε τ} {i : ℕ} {outcome : Except ε δ}
    (h : settle s i outcome = some s') :
    ∃ c status, s.calls[i]? = some c ∧
      (∀ parsed, Reported parsed c.status → Reported parsed status) ∧
      s' = { s with calls := s.calls.set i ⟨c.href, status⟩ } := by
  unfold settle at h
  split at h
  · rename_i href tokenType hc
    split at h <;> obtain rfl := Option.some.inj h
    · rename_i data
      refine ⟨_, _, hc, ?_, rfl⟩
      rintro _ ⟨⟩
      exact .handled ‹_› data
    · rename_i e
      refine ⟨_, _, hc, ?_, rfl⟩
      rintro _ ⟨⟩
      exact .failed ‹_› e
  · cases h

/-! ## Runs -/

variable {page : Url}

/-- The status of every call agrees with the parse of its URL. -/
theorem reported_of_reach {C : Machine.Guard (Page Url δ ε τ) (Action δ ε τ)}
    {h : List (Action δ ε τ)} {s : Page Url δ ε τ}
    (hr : (runs U handledTokenTypes page).Reach C h s) :
    ∀ c ∈ s.calls, Reported (parseAuthenticateUrl U handledTokenTypes c.href) c.status := by
  refine hr.invariant (I := fun _ s =>
    ∀ c ∈ s.calls, Reported (parseAuthenticateUrl U handledTokenTypes c.href) c.status) ?_ ?_
  · rintro _ rfl c hc
    exact absurd hc List.not_mem_nil
  · rintro h s a s' hi - hn
    cases a with
    | authenticateByUrl clearParams options href =>
      obtain rfl := Option.some.inj hn
      intro c hc
      rcases authenticateByUrl_cases s clearParams options href with
        ⟨status, hs, -, he⟩ | ⟨p, hparsed, hp, he⟩
      · rw [he] at hc
        rcases List.mem_append.1 hc with hc | hc
        · exact hi c hc
        · rw [List.mem_singleton.1 hc]
          exact hs
      · rw [he] at hc
        rcases List.mem_append.1 hc with hc | hc
        · exact hi c hc
        · rw [List.mem_singleton.1 hc, hparsed]
          exact .awaiting hp
    | settle i outcome =>
      obtain ⟨d, status, hd, hs, rfl⟩ := settle_cases hn
      intro c hc
      rcases List.mem_or_eq_of_mem_set hc with hc | rfl
      · exact hi c hc
      · exact hs _ (hi d (List.mem_of_getElem? hd))

theorem location_step {s s' : Page Url δ ε τ} {a : Action δ ε τ}
    (hn : (runs U handledTokenTypes page).next s a = some s') :
    s'.location = s.location ∨ s'.location = withoutToken U s.location := by
  cases a with
  | authenticateByUrl clearParams options href =>
    obtain rfl := Option.some.inj hn
    rcases authenticateByUrl_cases s clearParams options href with ⟨_, -, -, he⟩ | ⟨p, -, -, he⟩
    · rw [he]
      exact Or.inl rfl
    · rw [he]
      show locationAfter U s _ = _ ∨ locationAfter U s _ = _
      unfold locationAfter
      split_ifs
      · exact Or.inr rfl
      · exact Or.inl rfl
  | settle i outcome =>
    obtain ⟨d, status, -, -, rfl⟩ := settle_cases hn
    exact Or.inl rfl

/-- A call that clears the URL leaves it without the token. -/
theorem location_of_clears {s s' : Page Url δ ε τ} {a : Action δ ε τ}
    (hn : (runs U handledTokenTypes page).next s a = some s') (ha : Clears U handledTokenTypes s a) :
    s'.location = withoutToken U s.location := by
  cases a with
  | authenticateByUrl clearParams options href =>
    obtain rfl := Option.some.inj hn
    obtain ⟨hclear, q, hq, hqh⟩ := ha
    rcases authenticateByUrl_cases s clearParams options href with ⟨_, -, hnot, -⟩ | ⟨p, -, -, he⟩
    · exact absurd hqh (Bool.eq_false_iff.1 (hnot q hq))
    · rw [he]
      exact if_pos hclear
  | settle i outcome => exact ha.elim

/-- The parameters of the page's URL are those it was loaded with, or those that are not consumed. -/
theorem searchParams_of_reach {C : Machine.Guard (Page Url δ ε τ) (Action δ ε τ)}
    {h : List (Action δ ε τ)} {s : Page Url δ ε τ}
    (hr : (runs U handledTokenTypes page).Reach C h s) :
    U.searchParams s.location = U.searchParams page ∨
      U.searchParams s.location = otherParams (U.searchParams page) := by
  refine hr.invariant (I := fun _ s => U.searchParams s.location = U.searchParams page ∨
    U.searchParams s.location = otherParams (U.searchParams page)) ?_ ?_
  · rintro _ rfl
    exact Or.inl rfl
  · rintro h s a s' hi - hn
    rcases location_step hn with he | he
    · rwa [he]
    · right
      rw [he, searchParams_withoutToken]
      rcases hi with hi | hi
      · rw [hi]
      · rw [hi, otherParams_otherParams]

/-- What a call that clears the URL establishes and every later call keeps. -/
theorem searchParams_of_cleared {C : Machine.Guard (Page Url δ ε τ) (Action δ ε τ)}
    {h : List (Action δ ε τ)} {s : Page Url δ ε τ}
    (hs : (runs U handledTokenTypes page).Since C (Clears U handledTokenTypes) (fun _ _ => False) h s) :
    U.searchParams s.location = otherParams (U.searchParams page) := by
  refine hs.invariant (J := fun s => U.searchParams s.location = otherParams (U.searchParams page)) ?_ ?_
  · intro h s a s' hr _ hn ha
    rw [location_of_clears hn ha, searchParams_withoutToken]
    rcases searchParams_of_reach hr with hi | hi
    · rw [hi]
    · rw [hi, otherParams_otherParams]
  · intro h s a s' _ hi _ hn _
    rcases location_step hn with he | he
    · rwa [he]
    · rw [he, searchParams_withoutToken, hi, otherParams_otherParams]

theorem shouldClearParams_of_clearing {s : Page Url δ ε τ} {clearParams : Option Bool}
    {href : Option Bytes} (hhref : hrefOf U s href = U.href s.location)
    (hclear : clearParams ≠ some false) : shouldClearParams U s clearParams href = true := by
  unfold shouldClearParams
  cases clearParams with
  | none => exact decide_eq_true hhref
  | some b =>
    cases b with
    | false => exact absurd rfl hclear
    | true => rfl

/-- Before a handler is called the URL is that of the load; after it there is no token in it. -/
def Consumed (U : UrlStandard Url) (handledTokenTypes : List String) (page : Url)
    (s : Page Url δ ε τ) : Prop :=
  s.invoked = [] ∧ s.location = page ∨
    ∃ i, s.invoked = [i] ∧
      parsedUrl U handledTokenTypes page = some ⟨true, i.token, i.tokenType⟩ ∧
        parsedUrl U handledTokenTypes s.location = none

theorem consumed_of_reach {h : List (Action δ ε τ)} {s : Page Url δ ε τ}
    (hr : (runs U handledTokenTypes page).Reach (clearing U) h s) :
    Consumed U handledTokenTypes page s := by
  refine hr.invariant (I := fun _ s => Consumed U handledTokenTypes page s) ?_ ?_
  · rintro _ rfl
    exact Or.inl ⟨rfl, rfl⟩
  · rintro h s a s' hi hc hn
    cases a with
    | authenticateByUrl clearParams options href =>
      obtain rfl := Option.some.inj hn
      obtain ⟨hhref, hclear⟩ := hc
      rcases authenticateByUrl_cases s clearParams options href with ⟨_, -, -, he⟩ | ⟨p, hparsed, hp, he⟩
      · rw [he]
        exact hi
      · replace hhref : hrefOf U s href = U.href s.location := hhref
        rw [hhref, parseAuthenticateUrl_href] at hparsed
        have hloc : parsedUrl U handledTokenTypes s.location = some p := Except.ok.inj hparsed
        rcases hi with ⟨hinv, hpage⟩ | ⟨i, -, -, hnone⟩
        · right
          rw [he, shouldClearParams_of_clearing hhref hclear]
          refine ⟨⟨p.tokenType, p.token, options⟩, ?_, ?_, ?_⟩
          · exact congrArg (· ++ _) hinv
          · rw [← hpage, hloc, ← hp]
          · exact parsedUrl_eq_none U handledTokenTypes (searchParams_withoutToken U s.location)
        · exact absurd (hnone.symm.trans hloc) (by simp)
    | settle i outcome =>
      obtain ⟨d, status, -, -, rfl⟩ := settle_cases hn
      exact hi

variable (U handledTokenTypes page)

/-- The token of a URL is consumed once. -/
structure ConsumesOnce (δ : Type v) (ε : Type w) (τ : Type x) : Prop where
  /-- Without `clearParams: false`, at most one call of a handler, with the page's token. -/
  once : ∀ (h : List (Action δ ε τ)) (s : Page Url δ ε τ),
    (runs U handledTokenTypes page).Reach (clearing U) h s →
      s.invoked.length ≤ 1 ∧ ∀ i ∈ s.invoked,
        parseAuthenticateUrl U handledTokenTypes (U.href page) = .ok (some ⟨true, i.token, i.tokenType⟩)
  /-- From the call on that clears the URL, no token is found and the other parameters are kept. -/
  cleared : ∀ (h : List (Action δ ε τ)) (s : Page Url δ ε τ),
    (runs U handledTokenTypes page).Since Machine.anyStep (Clears U handledTokenTypes)
      (fun _ _ => False) h s →
      parseAuthenticateUrl U handledTokenTypes (U.href s.location) = .ok none ∧
        U.searchParams s.location = otherParams (U.searchParams page)
  /-- The status of a call agrees with the parse of its URL. -/
  reported : ∀ (h : List (Action δ ε τ)) (s : Page Url δ ε τ),
    (runs U handledTokenTypes page).Reach Machine.anyStep h s → ∀ c ∈ s.calls,
      Reported (parseAuthenticateUrl U handledTokenTypes c.href) c.status
  /-- `handled` is reported for the URLs that are recognized as handled. -/
  reports_handled : ∀ (h : List (Action δ ε τ)) (s : Page Url δ ε τ),
    (runs U handledTokenTypes page).Reach Machine.anyStep h s →
      ∀ c ∈ s.calls, ∀ result, c.status = .fulfilled result →
        ((∃ tokenType data, result = some (.handled tokenType data)) ↔
          ∃ p, parseAuthenticateUrl U handledTokenTypes c.href = .ok (some p) ∧ p.handled = true)

theorem consumesOnce : ConsumesOnce U handledTokenTypes page δ ε τ := by
  constructor
  · intro h s hr
    rcases consumed_of_reach hr with ⟨hinv, -⟩ | ⟨i, hinv, hpage, -⟩
    · rw [hinv]
      exact ⟨Nat.zero_le _, fun i hi => absurd hi List.not_mem_nil⟩
    · rw [hinv]
      refine ⟨Nat.le_refl _, fun j hj => ?_⟩
      rw [List.mem_singleton.1 hj, parseAuthenticateUrl_href, hpage]
  · intro h s hs
    have hparams := searchParams_of_cleared hs
    rw [parseAuthenticateUrl_href, parsedUrl_eq_none U handledTokenTypes hparams]
    exact ⟨rfl, hparams⟩
  · exact fun h s hr => reported_of_reach hr
  · intro h s hr c hc result hresult
    exact Reported.handled_iff (hresult ▸ reported_of_reach hr c hc)

/-! ## Calls that keep the parameters -/

variable {U handledTokenTypes page}

/-- With `clearParams: false` a call on a handled URL hands the token over and leaves the URL. -/
theorem authenticateByUrl_kept {s : Page Url δ ε τ} {p : ParsedUrl} {options : τ}
    (hparsed : parsedUrl U handledTokenTypes s.location = some p) (hp : p.handled = true) :
    authenticateByUrl U handledTokenTypes s (some false) options none =
      (s.invoke p options).addCall (U.href s.location) (.awaiting p.tokenType) := by
  have hparse : parseAuthenticateUrl U handledTokenTypes (hrefOf U s none) = .ok (some p) :=
    (parseAuthenticateUrl_href U handledTokenTypes s.location).trans (congrArg _ hparsed)
  rcases authenticateByUrl_cases s (some false) options none with ⟨_, -, hnot, -⟩ | ⟨q, hq, -, he⟩
  · exact absurd hp (Bool.eq_false_iff.1 (hnot p hparse))
  · obtain rfl := Option.some.inj (Except.ok.inj (hparse.symm.trans hq))
    exact he

theorem reach_kept {h : List (Action δ ε τ)} {s : Page Url δ ε τ} (options : τ)
    (hr : (runs U handledTokenTypes page).Reach (onPage U) h s) :
    (runs U handledTokenTypes page).Reach (onPage U)
      (.authenticateByUrl (some false) options none :: h)
      (authenticateByUrl U handledTokenTypes s (some false) options none) :=
  have hpage : onPage U h s (.authenticateByUrl (some false) options none) := rfl
  hr.step hpage rfl

/-- `https://app/?token=t&stytch_token_type=oauth`. -/
def oauthPage : SplitUrl :=
  splitUrl.update
    ⟨FormUrlEncoded.encodeUtf8 "https://app/", none, none, by decide, by decide, nofun⟩
    [("token", "t"), ("stytch_token_type", "oauth")]

theorem parsedUrl_oauthPage :
    parsedUrl splitUrl ["oauth"] oauthPage = some ⟨true, "t", "oauth"⟩ := by
  unfold parsedUrl UrlStandard.get oauthPage
  rw [splitUrl.searchParams_update]
  rfl

/-- Two calls with `clearParams: false` hand the same token to the handler twice. -/
theorem keptParams_invoke_twice :
    ¬ ∀ (h : List (Action Unit Unit Unit)) (s : Page SplitUrl Unit Unit Unit),
      (runs splitUrl ["oauth"] oauthPage).Reach (onPage splitUrl) h s → s.invoked.length ≤ 1 := by
  intro hall
  have hstart : (runs splitUrl ["oauth"] oauthPage).Reach (onPage splitUrl) []
      (⟨oauthPage, [], []⟩ : Page SplitUrl Unit Unit Unit) := .start rfl
  have hlength := hall _ _ (reach_kept () (reach_kept () hstart))
  rw [authenticateByUrl_kept parsedUrl_oauthPage rfl, authenticateByUrl_kept parsedUrl_oauthPage rfl]
    at hlength
  exact absurd hlength (by decide)

end StytchBrowser.Web.AuthUrlHandler
