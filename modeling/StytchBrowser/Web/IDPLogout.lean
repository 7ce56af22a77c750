import Mathlib.Data.List.Basic
import StytchBrowser.Lib.Machine
import StytchBrowser.Web.IDPAuthorize

/-!
# The logout screen of an identity provider page

`useLogoutState` asks the server about a logout, asks the user when the server requires consent, and
revokes the session before the page is left. A click does not set `loading`, so the screen can be
clicked again while the session is being revoked.

* `logout_asks`: the session is revoked once for each click that consents, or once when no consent
  is required, and each revocation that is settled leaves the page for where the server says.
-/

namespace StytchBrowser.Web.IDP

structure LogoutState where
  loading : Bool
  preflight : Bool
  error : Option String
  denied : Bool
  consent_required : Bool
  redirect_uri : String

namespace LogoutState

def initialState (error : Option String) : LogoutState where
  loading := error.isNone
  preflight := error.isSome
  error := error
  denied := false
  consent_required := false
  redirect_uri := ""

/-- The actions of the reducer. -/
inductive Action where
  | START_PREFLIGHT
  | PREFLIGHT_ERROR (error : String)
  | COMPLETE_PREFLIGHT (consent_required : Bool) (redirect_uri : String)
  | CONSENT_DENIED

def reducer (state : LogoutState) : Action → LogoutState
  | .START_PREFLIGHT => { state with preflight := true, loading := true }
  | .PREFLIGHT_ERROR error => { state with preflight := true, loading := false, error := some error }
  | .COMPLETE_PREFLIGHT consent_required redirect_uri =>
      { state with loading := false, consent_required, redirect_uri }
  | .CONSENT_DENIED => { state with denied := true }

/-- What `IDPLogout` renders. -/
inductive View where
  | loading
  | error (text : String)
  | denied
  | confirm
  deriving DecidableEq

/-- With the bootstrap data loaded. An empty error counts as none. -/
def view (state : LogoutState) : View :=
  if state.loading then .loading
  else match state.error.filter (· ≠ "") with
    | some text => .error text
    | none => if state.denied then .denied else .confirm

end LogoutState

/-- The answer of `oauthLogoutStart`. -/
structure OAuthLogoutStartResponse where
  redirect_uri : String
  consent_required : Bool

namespace LogoutScreen

inductive Request where
  | start (params : OAuthLogoutParams)
  | revokeSession
  deriving DecidableEq

/-- A request that is waited for. -/
inductive Waiting where
  | start
  | revokeSession (redirectURI : String)

inductive Action where
  /-- The effect of a commit. -/
  | effect
  | started (i : ℕ) (resp : OAuthLogoutStartResponse)
  | startFailed (i : ℕ) (error_message : String)
  | click (consent_granted : Bool)
  /-- The revocation succeeded or failed. -/
  | settled (i : ℕ)

end LogoutScreen

/-- The screen; requests and the places navigated to are kept newest first. -/
structure LogoutScreen where
  params : OAuthLogoutParams
  state : LogoutState
  waiting : List LogoutScreen.Waiting
  sent : List LogoutScreen.Request
  navigated : List String

namespace LogoutScreen

/-- The beginning of `submitInternal`. -/
def submitInternal (s : LogoutScreen) (redirectURI : String) : LogoutScreen :=
  { s with waiting := s.waiting ++ [.revokeSession redirectURI], sent := .revokeSession :: s.sent }

/-- The beginning of `logoutPreflight`. -/
def logoutPreflight (s : LogoutScreen) : LogoutScreen :=
  { s with
    state := s.state.reducer .START_PREFLIGHT
    waiting := s.waiting ++ [.start]
    sent := .start s.params :: s.sent }

/-- The rest of `logoutPreflight`. -/
def afterStart (s : LogoutScreen) (resp : OAuthLogoutStartResponse) : LogoutScreen :=
  if resp.consent_required then
    { s with state := s.state.reducer (.COMPLETE_PREFLIGHT resp.consent_required resp.redirect_uri) }
  else s.submitInternal resp.redirect_uri

def submit (s : LogoutScreen) (consent_granted : Bool) : LogoutScreen :=
  if consent_granted then s.submitInternal s.state.redirect_uri
  else { s with state := s.state.reducer .CONSENT_DENIED }

/-- One step of the screen, `none` when the step is not possible. -/
def next (s : LogoutScreen) : Action → Option LogoutScreen
  | .effect => some (if s.state.preflight then s else s.logoutPreflight)
  | .started i resp =>
      match s.waiting[i]? with
      | some .start => some (afterStart { s with waiting := s.waiting.eraseIdx i } resp)
      | _ => none
  | .startFailed i error_message =>
      match s.waiting[i]? with
      | some .start =>
          some { s with
            state := s.state.reducer (.PREFLIGHT_ERROR error_message)
            waiting := s.waiting.eraseIdx i }
      | _ => none
  | .click consent_granted => if s.state.view = .confirm then some (s.submit consent_granted) else none
  | .settled i =>
      match s.waiting[i]? with
      | some (.revokeSession redirectURI) =>
          some { s with waiting := s.waiting.eraseIdx i, navigated := redirectURI :: s.navigated }
      | _ => none

/-- The steps of the screen as a relation. -/
inductive Step (s : LogoutScreen) : Action → LogoutScreen → Prop where
  | effect : Step s .effect (if s.state.preflight then s else s.logoutPreflight)
  | started {i : ℕ} {resp : OAuthLogoutStartResponse} : s.waiting[i]? = some .start →
      Step s (.started i resp) (afterStart { s with waiting := s.waiting.eraseIdx i } resp)
  | startFailed {i : ℕ} {error_message : String} : s.waiting[i]? = some .start →
      Step s (.startFailed i error_message)
        { s with
          state := s.state.reducer (.PREFLIGHT_ERROR error_message)
          waiting := s.waiting.eraseIdx i }
  | click {consent_granted : Bool} : s.state.view = .confirm →
      Step s (.click consent_granted) (s.submit consent_granted)
  | settled {i : ℕ} {redirectURI : String} : s.waiting[i]? = some (.revokeSession redirectURI) →
      Step s (.settled i)
        { s with waiting := s.waiting.eraseIdx i, navigated := redirectURI :: s.navigated }

theorem step_of_next {s s' : LogoutScreen} {a : Action} (hn : s.next a = some s') : s.Step a s' := by
  unfold next at hn
  cases a with
  | effect =>
    obtain rfl := Option.some.inj hn
    exact .effect
  | started i resp =>
    dsimp only at hn
    split at hn
    · next hstart =>
      obtain rfl := Option.some.inj hn
      exact .started hstart
    · cases hn
  | startFailed i error_message =>
    dsimp only at hn
    split at hn
    · next hstart =>
      obtain rfl := Option.some.inj hn
      exact .startFailed hstart
    · cases hn
  | click consent_granted =>
    obtain ⟨hv, rfl⟩ := Option.ite_some_none_eq_some.1 hn
    exact .click hv
  | settled i =>
    dsimp only at hn
    split at hn
    · next hrevoke =>
      obtain rfl := Option.some.inj hn
      exact .settled hrevoke
    · cases hn

end LogoutScreen

/-- The screen for a search that was parsed as a logout. -/
def logoutScreen : Machine LogoutScreen LogoutScreen.Action where
  init s := ∃ searchParams error params, parseIDPParams searchParams = (error, .Logout params) ∧
    s = ⟨params, .initialState error, [], [], []⟩
  next := LogoutScreen.next

namespace LogoutScreen

/-! ## What is expected -/

/-- The clicks that consented. -/
def consents (h : List Action) : ℕ := h.countP fun a => a matches .click true

/-- The revocations that were settled. -/
def settlements (h : List Action) : ℕ := h.countP fun a => a matches .settled _

/-- The user is asked before leaving for `uri`. A failure without a text is taken for no error. -/
def Confirming (h : List Action) (uri : String) : Prop :=
  (∃ i resp, .started i resp ∈ h ∧ resp.consent_required = true ∧ resp.redirect_uri = uri) ∨
    uri = "" ∧ ∃ i, .startFailed i "" ∈ h

/-- The server requires no consent before leaving for `uri`. -/
def Unasked (h : List Action) (uri : String) : Prop :=
  ∃ i resp, .started i resp ∈ h ∧ resp.consent_required = false ∧ resp.redirect_uri = uri

theorem Confirming.cons {h : List Action} {uri : String} (hc : Confirming h uri) (a : Action) :
    Confirming (a :: h) uri := by
  rcases hc with ⟨i, resp, hmem, hresp⟩ | ⟨huri, i, hmem⟩
  · exact .inl ⟨i, resp, List.mem_cons_of_mem a hmem, hresp⟩
  · exact .inr ⟨huri, i, List.mem_cons_of_mem a hmem⟩

theorem Unasked.cons {h : List Action} {uri : String} (hu : Unasked h uri) (a : Action) :
    Unasked (a :: h) uri := by
  obtain ⟨i, resp, hmem, hresp⟩ := hu
  exact ⟨i, resp, List.mem_cons_of_mem a hmem, hresp⟩

/-- The page is left for `uri`, with `n` revocations of which `k` are not settled. -/
structure Leaving (h : List Action) (s : LogoutScreen) (uri : String) (k n : ℕ) : Prop where
  preflight : s.state.preflight = true
  waiting : s.waiting = List.replicate k (.revokeSession uri)
  sent : s.sent = List.replicate n .revokeSession ++ [.start s.params]
  navigated : s.navigated = List.replicate (settlements h) uri
  settled : n = settlements h + k
  denied : s.state.denied = true → .click false ∈ h
  asked : Confirming h uri ∧ s.state.redirect_uri = uri ∧ n = consents h ∨
    Unasked h uri ∧ s.state.loading = true ∧ n = 1

/-- How far the flow has come. -/
inductive LoggingOut (h : List Action) (s : LogoutScreen) : Prop where
  | fresh : s.state.preflight = false → s.state.loading = true → s.state.denied = false →
      s.state.redirect_uri = "" → s.waiting = [] → s.sent = [] → s.navigated = [] → consents h = 0 →
      settlements h = 0 → LoggingOut h s
  | failed (text : String) : s.state.preflight = true → s.state.error = some text → text ≠ "" →
      s.waiting = [] → (s.sent = [] ∨ s.sent = [.start s.params]) → s.navigated = [] → LoggingOut h s
  | starting : s.state.preflight = true → s.state.loading = true → s.state.denied = false →
      s.state.redirect_uri = "" → s.waiting = [.start] → s.sent = [.start s.params] →
      s.navigated = [] → consents h = 0 → settlements h = 0 → LoggingOut h s
  | leaving (uri : String) (k n : ℕ) : Leaving h s uri k n → LoggingOut h s

section Steps

variable {h : List Action} {s s' : LogoutScreen}

theorem confirm_iff {state : LogoutState} : state.view = .confirm ↔
    state.loading = false ∧ (∀ text, state.error = some text → text = "") ∧ state.denied = false := by
  unfold LogoutState.view
  cases herror : state.error with
  | none => cases state.loading <;> cases state.denied <;> simp
  | some text =>
    by_cases htext : text = ""
    · cases state.loading <;> cases state.denied <;> simp [Option.filter_some, htext]
    · cases state.loading <;> simp [Option.filter_some, htext]

theorem denied_of_view {state : LogoutState} (hv : state.view = .denied) :
    state.denied = true ∧ ∀ text, state.error = some text → text = "" := by
  have hloading : ¬state.loading = true := fun hl => by
    rw [LogoutState.view, if_pos hl] at hv
    cases hv
  rw [LogoutState.view, if_neg hloading] at hv
  cases herror : state.error with
  | none =>
    rw [herror, Option.filter_none] at hv
    cases hdenied : state.denied <;> simp_all
  | some text =>
    rw [herror, Option.filter_some] at hv
    by_cases htext : text = ""
    · cases hdenied : state.denied <;> simp_all
    · rw [if_pos (decide_eq_true htext)] at hv
      cases hv

/-- A step that asks, settles and navigates nothing. -/
theorem Leaving.mono {uri : String} {k n : ℕ} (hi : Leaving h s uri k n) {a : Action}
    (hc : consents (a :: h) = consents h) (hs : settlements (a :: h) = settlements h) :
    Leaving (a :: h) s uri k n where
  preflight := hi.preflight
  waiting := hi.waiting
  sent := hi.sent
  navigated := by rw [hs, hi.navigated]
  settled := by rw [hs, hi.settled]
  denied hd := List.mem_cons_of_mem a (hi.denied hd)
  asked := by
    rw [hc]
    exact hi.asked.imp (fun h => ⟨h.1.cons a, h.2⟩) fun h => ⟨h.1.cons a, h.2⟩

theorem LoggingOut.effect (hi : LoggingOut h s) :
    LoggingOut (.effect :: h) (if s.state.preflight then s else s.logoutPreflight) := by
  cases hi with
  | fresh hp hl hd hu hw hs hnav hconsents hsettled =>
    rw [if_neg (by rw [hp]; decide)]
    refine .starting rfl rfl hd hu ?_ ?_ hnav hconsents hsettled
    · exact congrArg (· ++ [Waiting.start]) hw
    · exact congrArg (Request.start s.params :: ·) hs
  | failed text hp he hne hw hs hnav =>
    rw [if_pos hp]
    exact .failed text hp he hne hw hs hnav
  | starting hp hl hd hu hw hs hnav hconsents hsettled =>
    rw [if_pos hp]
    exact .starting hp hl hd hu hw hs hnav hconsents hsettled
  | leaving uri k n hi =>
    rw [if_pos hi.preflight]
    exact .leaving uri k n (hi.mono rfl rfl)

theorem LoggingOut.started (hi : LoggingOut h s) {i : ℕ} {resp : OAuthLogoutStartResponse}
    (hstart : s.waiting[i]? = some .start) : LoggingOut (.started i resp :: h)
      (afterStart { s with waiting := s.waiting.eraseIdx i } resp) := by
  cases hi with
  | fresh hp hl hd hu hw hs hnav hconsents hsettled => exact (getElem?_nil hw hstart).elim
  | failed text hp he hne hw hs hnav => exact (getElem?_nil hw hstart).elim
  | leaving uri k n hi =>
    rw [hi.waiting] at hstart
    cases List.eq_of_mem_replicate (List.mem_of_getElem? hstart)
  | starting hp hl hd hu hw hs hnav hconsents hsettled =>
    obtain ⟨rfl, -⟩ := getElem?_singleton hw hstart
    have hnone : s.waiting.eraseIdx 0 = [] := by rw [hw]; rfl
    have hdenied : s.state.denied = true → .click false ∈ .started 0 resp :: h := fun h' => by
      cases hd.symm.trans h'
    have hnav' : s.navigated = List.replicate (settlements (.started 0 resp :: h)) resp.redirect_uri := by
      change s.navigated = List.replicate (settlements h) _
      rw [hsettled]
      exact hnav
    unfold afterStart
    split_ifs with hrequired
    · exact .leaving resp.redirect_uri 0 0
        { preflight := hp, waiting := hnone, sent := hs, navigated := hnav', settled := hsettled.symm
          denied := hdenied
          asked := .inl ⟨.inl ⟨0, resp, List.mem_cons_self, hrequired, rfl⟩, rfl, hconsents.symm⟩ }
    · refine .leaving resp.redirect_uri 1 1
        { preflight := hp, waiting := ?_, sent := ?_, navigated := hnav'
          settled := congrArg (· + 1) hsettled.symm, denied := hdenied
          asked := .inr ⟨⟨0, resp, List.mem_cons_self, Bool.eq_false_iff.2 hrequired, rfl⟩, hl, rfl⟩ }
      · exact congrArg (· ++ [Waiting.revokeSession resp.redirect_uri]) hnone
      · exact congrArg (Request.revokeSession :: ·) hs

theorem LoggingOut.startFailed (hi : LoggingOut h s) {i : ℕ} {error_message : String}
    (hstart : s.waiting[i]? = some .start) : LoggingOut (.startFailed i error_message :: h)
      { s with
        state := s.state.reducer (.PREFLIGHT_ERROR error_message)
        waiting := s.waiting.eraseIdx i } := by
  cases hi with
  | fresh hp hl hd hu hw hs hnav hconsents hsettled => exact (getElem?_nil hw hstart).elim
  | failed text hp he hne hw hs hnav => exact (getElem?_nil hw hstart).elim
  | leaving uri k n hi =>
    rw [hi.waiting] at hstart
    cases List.eq_of_mem_replicate (List.mem_of_getElem? hstart)
  | starting hp hl hd hu hw hs hnav hconsents hsettled =>
    obtain ⟨rfl, -⟩ := getElem?_singleton hw hstart
    have hnone : s.waiting.eraseIdx 0 = [] := by rw [hw]; rfl
    by_cases hne : error_message = ""
    · subst hne
      refine .leaving "" 0 0
        { preflight := rfl, waiting := hnone, sent := hs, navigated := ?_, settled := hsettled.symm
          denied := fun h' => ?_
          asked := .inl ⟨.inr ⟨rfl, 0, List.mem_cons_self⟩, hu, hconsents.symm⟩ }
      · change s.navigated = List.replicate (settlements h) _
        rw [hsettled]
        exact hnav
      · cases hd.symm.trans h'
    · exact .failed error_message rfl rfl hne hnone (.inr hs) hnav

/-- Only the screen that asks can be clicked. -/
theorem LoggingOut.confirming (hi : LoggingOut h s) (hv : s.state.view = .confirm) :
    ∃ uri k, Leaving h s uri k (consents h) ∧ Confirming h uri ∧ s.state.redirect_uri = uri := by
  obtain ⟨hloading, herror, -⟩ := confirm_iff.1 hv
  cases hi with
  | fresh hp hl hd hu hw hs hnav hconsents hsettled => cases hl.symm.trans hloading
  | failed text hp he hne hw hs hnav => exact absurd (herror text he) hne
  | starting hp hl hd hu hw hs hnav hconsents hsettled => cases hl.symm.trans hloading
  | leaving uri k n hi =>
    rcases hi.asked with ⟨hconfirming, huri, rfl⟩ | ⟨-, hl, -⟩
    · exact ⟨uri, k, hi, hconfirming, huri⟩
    · cases hl.symm.trans hloading

theorem LoggingOut.click (hi : LoggingOut h s) {consent_granted : Bool}
    (hv : s.state.view = .confirm) :
    LoggingOut (.click consent_granted :: h) (s.submit consent_granted) := by
  obtain ⟨uri, k, hi, hconfirming, huri⟩ := hi.confirming hv
  cases consent_granted with
  | false =>
    exact .leaving uri k (consents h)
      { preflight := hi.preflight, waiting := hi.waiting, sent := hi.sent, navigated := hi.navigated
        settled := hi.settled, denied := fun _ => List.mem_cons_self
        asked := .inl ⟨hconfirming.cons _, huri, rfl⟩ }
  | true =>
    refine .leaving uri (k + 1) (consents h + 1)
      { preflight := hi.preflight, waiting := ?_, sent := ?_, navigated := hi.navigated
        settled := congrArg (· + 1) hi.settled
        denied := fun hd => List.mem_cons_of_mem _ (hi.denied hd)
        asked := .inl ⟨hconfirming.cons _, huri, ?_⟩ }
    · change s.waiting ++ [Waiting.revokeSession s.state.redirect_uri] = _
      rw [hi.waiting, huri, ← List.replicate_succ']
    · exact congrArg (Request.revokeSession :: ·) hi.sent
    · exact (List.countP_cons_of_pos rfl).symm

theorem LoggingOut.settled (hi : LoggingOut h s) {i : ℕ} {redirectURI : String}
    (hrevoke : s.waiting[i]? = some (.revokeSession redirectURI)) : LoggingOut (.settled i :: h)
      { s with waiting := s.waiting.eraseIdx i, navigated := redirectURI :: s.navigated } := by
  cases hi with
  | fresh hp hl hd hu hw hs hnav hconsents hsettled => exact (getElem?_nil hw hrevoke).elim
  | failed text hp he hne hw hs hnav => exact (getElem?_nil hw hrevoke).elim
  | starting hp hl hd hu hw hs hnav hconsents hsettled => cases (getElem?_singleton hw hrevoke).2
  | leaving uri k n hi =>
    rw [hi.waiting] at hrevoke
    obtain ⟨hk, hsame⟩ := List.getElem?_eq_some_iff.1 hrevoke
    rw [List.getElem_replicate] at hsame
    obtain rfl := Waiting.revokeSession.inj hsame
    rw [List.length_replicate] at hk
    have hcount : settlements (.settled i :: h) = settlements h + 1 := List.countP_cons_of_pos rfl
    refine .leaving uri (k - 1) n
      { preflight := hi.preflight, waiting := ?_, sent := hi.sent, navigated := ?_, settled := ?_
        denied := fun hd => List.mem_cons_of_mem _ (hi.denied hd)
        asked := hi.asked.imp (fun h => ⟨h.1.cons _, h.2⟩) fun h => ⟨h.1.cons _, h.2⟩ }
    · change s.waiting.eraseIdx i = _
      rw [hi.waiting, List.eraseIdx_replicate, if_pos hk]
    · change uri :: s.navigated = _
      rw [hi.navigated, hcount]
      rfl
    · rw [hcount, hi.settled]
      omega

theorem loggingOut_reach (hr : logoutScreen.Reach Machine.anyStep h s) : LoggingOut h s := by
  refine hr.invariant ?_ fun h s a s' hi _ hn => ?_
  · rintro s ⟨searchParams, error, params, hparse, rfl⟩
    cases error with
    | none => exact .fresh rfl rfl rfl rfl rfl rfl rfl rfl rfl
    | some text => exact .failed text rfl rfl ((parsed hparse).1 text rfl) rfl (.inl rfl) rfl
  · cases step_of_next hn with
    | effect => exact hi.effect
    | started hstart => exact hi.started hstart
    | startFailed hstart => exact hi.startFailed hstart
    | click hv => exact hi.click hv
    | settled hrevoke => exact hi.settled hrevoke

end Steps

/-- Nothing is revoked or left before the server answered. From then on the session is revoked once for
each click that consents, or once when the server requires no consent, and each settled revocation leaves
the page for where the server says. A denial is shown only after it was clicked. -/
theorem logout_asks {h : List Action} {s : LogoutScreen} (hr : logoutScreen.Reach Machine.anyStep h s) :
    ((s.sent = [] ∨ s.sent = [.start s.params]) ∧ s.navigated = [] ∨
      ∃ uri n, s.sent = List.replicate n .revokeSession ++ [.start s.params] ∧
        s.navigated = List.replicate (settlements h) uri ∧ settlements h ≤ n ∧
        (Confirming h uri ∧ n = consents h ∨ Unasked h uri ∧ n = 1)) ∧
      (s.state.view = .denied → .click false ∈ h) := by
  have hi := loggingOut_reach hr
  refine ⟨?_, fun hv => ?_⟩
  · cases hi with
    | fresh hp hl hd hu hw hs hnav hconsents hsettled => exact .inl ⟨.inl hs, hnav⟩
    | failed text hp he hne hw hs hnav => exact .inl ⟨hs, hnav⟩
    | starting hp hl hd hu hw hs hnav hconsents hsettled => exact .inl ⟨.inr hs, hnav⟩
    | leaving uri k n hi =>
      refine .inr ⟨uri, n, hi.sent, hi.navigated, ?_, ?_⟩
      · rw [hi.settled]
        exact Nat.le_add_right _ _
      · exact hi.asked.imp (fun h => ⟨h.1, h.2.2⟩) fun h => ⟨h.1, h.2.2⟩
  · obtain ⟨hdenied, herror⟩ := denied_of_view hv
    cases hi with
    | fresh hp hl hd hu hw hs hnav hconsents hsettled => cases hd.symm.trans hdenied
    | failed text hp he hne hw hs hnav => exact absurd (herror text he) hne
    | starting hp hl hd hu hw hs hnav hconsents hsettled => cases hd.symm.trans hdenied
    | leaving uri k n hi => exact hi.denied hdenied

/-- The parameters of an application. -/
def appParams : OAuthLogoutParams :=
  { client_id := "app", post_logout_redirect_uri := "https://app.example.com" }

theorem appParams_wellFormed : appParams.WellFormed where
  client_id := by decide
  post_logout_redirect_uri := by decide
  id_token_hint := nofun
  state := nofun

/-- The user clicks twice before the first revocation is settled. -/
theorem logout_asks_twice :
    ∃ (h : List Action) (s : LogoutScreen), logoutScreen.Reach Machine.anyStep h s ∧
      ((s.sent = [] ∨ s.sent = [.start s.params]) ∧ s.navigated = [] ∨
        ∃ uri n, s.sent = List.replicate n .revokeSession ++ [.start s.params] ∧
          s.navigated = List.replicate (settlements h) uri ∧ settlements h ≤ n ∧
          (Confirming h uri ∧ n = consents h ∨ Unasked h uri ∧ n = 1)) ∧
      consents h = 2 ∧ s.navigated = ["https://app.example.com"] := by
  have hr := Machine.Reach.start (M := logoutScreen) (C := Machine.anyStep)
    ⟨_, none, appParams, parse_search_logout appParams_wellFormed, rfl⟩
  have hr := hr.step (a := .effect) trivial rfl
  have hr := hr.step (a := .started 0 ⟨"https://app.example.com", true⟩) trivial rfl
  have hr := hr.step (a := .click true) trivial rfl
  have hr := hr.step (a := .click true) trivial rfl
  have hr := hr.step (a := .settled 0) trivial rfl
  exact ⟨_, _, hr, (logout_asks hr).1, rfl, rfl⟩

end LogoutScreen

end StytchBrowser.Web.IDP
