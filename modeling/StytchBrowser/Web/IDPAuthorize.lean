import StytchBrowser.Lib.Machine
import StytchBrowser.Web.IDPConsent
import StytchBrowser.Web.IDPParams

/-!
# The authorization screen of an identity provider page

`useIDPState` asks the server about an authorization, shows the consent screen when the server
requires consent, and submits the answer.

* `authorize_asks`: at most one request of each kind is sent, consent is granted by a click on the
  screen that shows the client of the server's answer, and the page is left for where the server says.
-/

namespace StytchBrowser.Web.IDP

/-- The client that asks for access. -/
structure ConnectedAppPublic where
  client_id : String
  client_name : String
  deriving DecidableEq

structure IDPState where
  loading : Bool
  preflight : Bool
  error : Option String
  success : Bool
  denied : Bool
  consent_required : Bool
  client : Option ConnectedAppPublic
  grantable_scope : String
  ungrantable_scope : String
  redirect_uri : String

def initialState (error : Option String) (params : OAuthAuthorizeParams) : IDPState where
  loading := error.isNone
  preflight := error.isSome
  error := error
  success := false
  denied := false
  consent_required := false
  client := none
  grantable_scope := ""
  ungrantable_scope := ""
  redirect_uri := params.redirect_uri

namespace IDPState

/-- The actions of the reducer. -/
inductive Action where
  | START_SUBMIT
  | COMPLETE_SUBMIT
  | START_PREFLIGHT
  | PREFLIGHT_ERROR (error : String)
  | COMPLETE_PREFLIGHT (consent_required : Bool) (client : ConnectedAppPublic)
      (grantable_scope ungrantable_scope : String)
  | CONSENT_DENIED

def reducer (state : IDPState) : Action → IDPState
  | .START_SUBMIT => { state with loading := true }
  | .COMPLETE_SUBMIT => { state with loading := false, success := true }
  | .START_PREFLIGHT => { state with preflight := true, loading := true }
  | .PREFLIGHT_ERROR error => { state with preflight := true, loading := false, error := some error }
  | .COMPLETE_PREFLIGHT consent_required client grantable_scope ungrantable_scope =>
      { state with
        loading := false
        client := some client
        consent_required
        grantable_scope
        ungrantable_scope }
  | .CONSENT_DENIED => { state with denied := true }

end IDPState

/-- What `IDPConsent` renders. -/
inductive View where
  | loading
  | error (text : String)
  | denied
  | success
  | consent
  deriving DecidableEq

/-- With the bootstrap data loaded. An empty error counts as none. -/
def IDPState.view (state : IDPState) : View :=
  if state.loading then .loading
  else match state.error.filter (· ≠ "") with
    | some text => .error text
    | none => if state.denied then .denied else if state.success then .success else .consent

/-- The answer of `oauthAuthorizeStart`. -/
structure StartResponse where
  consent_required : Bool
  client : ConnectedAppPublic
  scope_results : List ScopeResult

/-- The answer of `oauthAuthorizeSubmit`. -/
structure SubmitResponse where
  redirect_uri : String
  authorization_code : Option String

inductive Request where
  | start (params : OAuthAuthorizeParams)
  | submit (params : OAuthAuthorizeParams) (consent_granted : Bool)

/-- A request that is waited for. -/
inductive Waiting where
  | start
  | submit (consent_required consent_granted : Bool)

inductive Event where
  | flowStart (client_id redirect_uri scope : String)
  | consentDenied
  | flowComplete

/-- The screen; requests and events are kept newest first. -/
structure AuthorizeScreen where
  params : OAuthAuthorizeParams
  state : IDPState
  waiting : List Waiting
  sent : List Request
  location : Option String
  events : List Event

namespace AuthorizeScreen

inductive Action where
  /-- The effect of a commit. -/
  | effect
  | started (i : ℕ) (resp : StartResponse)
  | startFailed (i : ℕ) (error_message : String)
  | click (consent_granted : Bool)
  | submitted (i : ℕ) (resp : SubmitResponse)
  | submitFailed (i : ℕ)

/-- The beginning of `submitInternal`. -/
def submitInternal (s : AuthorizeScreen) (consent_required consent_granted : Bool) : AuthorizeScreen :=
  { s with
    state := s.state.reducer .START_SUBMIT
    waiting := s.waiting ++ [.submit consent_required consent_granted]
    sent := .submit s.params consent_granted :: s.sent }

/-- The rest of `submitInternal`. -/
def afterSubmit (s : AuthorizeScreen) (consent_required consent_granted : Bool) (resp : SubmitResponse) :
    AuthorizeScreen :=
  let state :=
    if (resp.authorization_code.filter (· ≠ "")).isSome then s.state.reducer .COMPLETE_SUBMIT else s.state
  let s := { s with location := some resp.redirect_uri }
  if consent_required ∧ ¬consent_granted then
    { s with state := state.reducer .CONSENT_DENIED, events := .consentDenied :: s.events }
  else { s with state, events := .flowComplete :: s.events }

/-- The beginning of `loadClient`. -/
def loadClient (s : AuthorizeScreen) : AuthorizeScreen :=
  { s with
    state := s.state.reducer .START_PREFLIGHT
    waiting := s.waiting ++ [.start]
    sent := .start s.params :: s.sent
    events := .flowStart s.params.client_id s.params.redirect_uri (Splitting.join ' ' s.params.scopes) ::
      s.events }

/-- The rest of `loadClient`. -/
def afterStart (s : AuthorizeScreen) (resp : StartResponse) : AuthorizeScreen :=
  if resp.consent_required then
    { s with state := s.state.reducer (.COMPLETE_PREFLIGHT resp.consent_required resp.client
        (grantableScope resp.scope_results) (ungrantableScope resp.scope_results)) }
  else s.submitInternal false false

/-- One step of the screen, `none` when the step is not possible. -/
def next (s : AuthorizeScreen) : Action → Option AuthorizeScreen
  | .effect => some (if s.state.preflight then s else s.loadClient)
  | .started i resp =>
      match s.waiting[i]? with
      | some .start => some (afterStart { s with waiting := s.waiting.eraseIdx i } resp)
      | _ => none
  | .startFailed i error_message =>
      match s.waiting[i]? with
      | some .start =>
          some { s with
            state := s.state.reducer (.PREFLIGHT_ERROR error_message)
            waiting := s.waiting.eraseIdx i }
      | _ => none
  | .click consent_granted =>
      if s.state.view = .consent then some (s.submitInternal true consent_granted) else none
  | .submitted i resp =>
      match s.waiting[i]? with
      | some (.submit consent_required consent_granted) =>
          some (afterSubmit { s with waiting := s.waiting.eraseIdx i } consent_required consent_granted resp)
      | _ => none
  | .submitFailed i =>
      match s.waiting[i]? with
      | some (.submit _ _) => some { s with waiting := s.waiting.eraseIdx i }
      | _ => none

/-- The steps of the screen as a relation. -/
inductive Step (s : AuthorizeScreen) : Action → AuthorizeScreen → Prop where
  | effect : Step s .effect (if s.state.preflight then s else s.loadClient)
  | started {i : ℕ} {resp : StartResponse} : s.waiting[i]? = some .start →
      Step s (.started i resp) (afterStart { s with waiting := s.waiting.eraseIdx i } resp)
  | startFailed {i : ℕ} {error_message : String} : s.waiting[i]? = some .start →
      Step s (.startFailed i error_message)
        { s with
          state := s.state.reducer (.PREFLIGHT_ERROR error_message)
          waiting := s.waiting.eraseIdx i }
  | click {consent_granted : Bool} : s.state.view = .consent →
      Step s (.click consent_granted) (s.submitInternal true consent_granted)
  | submitted {i : ℕ} {resp : SubmitResponse} {consent_required consent_granted : Bool} :
      s.waiting[i]? = some (.submit consent_required consent_granted) →
      Step s (.submitted i resp)
        (afterSubmit { s with waiting := s.waiting.eraseIdx i } consent_required consent_granted resp)
  | submitFailed {i : ℕ} {consent_required consent_granted : Bool} :
      s.waiting[i]? = some (.submit consent_required consent_granted) →
      Step s (.submitFailed i) { s with waiting := s.waiting.eraseIdx i }

theorem step_of_next {s s' : AuthorizeScreen} {a : Action} (hn : s.next a = some s') :
    s.Step a s' := by
  unfold next at hn
  cases a with
  | effect =>
    obtain rfl := Option.some.inj hn
    exact .effect
  | started i resp =>
    dsimp only at hn
    split at hn
    · next hstart =>
      obtain rfl := Option.some.inj hn
      exact .started hstart
    · cases hn
  | startFailed i error_message =>
    dsimp only at hn
    split at hn
    · next hstart =>
      obtain rfl := Option.some.inj hn
      exact .startFailed hstart
    · cases hn
  | click consent_granted =>
    obtain ⟨hv, rfl⟩ := Option.ite_some_none_eq_some.1 hn
    exact .click hv
  | submitted i resp =>
    dsimp only at hn
    split at hn
    · next hsubmit =>
      obtain rfl := Option.some.inj hn
      exact .submitted hsubmit
    · cases hn
  | submitFailed i =>
    dsimp only at hn
    split at hn
    · next hsubmit =>
      obtain rfl := Option.some.inj hn
      exact .submitFailed hsubmit
    · cases hn

end AuthorizeScreen

/-- The screen for a search that was parsed as an authorization. -/
def authorizeScreen : Machine AuthorizeScreen AuthorizeScreen.Action where
  init s := ∃ searchParams error params, parseIDPParams searchParams = (error, .Authorize params) ∧
    s = ⟨params, initialState error params, [], [], none, []⟩
  next := AuthorizeScreen.next

/-! ## What is expected -/

/-- Who said that consent is granted or not. -/
def Said (h : List AuthorizeScreen.Action) (consent_required consent_granted : Bool) : Prop :=
  if consent_required then .click consent_granted ∈ h
  else consent_granted = false ∧ ∃ i resp, .started i resp ∈ h ∧ resp.consent_required = false

theorem Said.cons {h : List AuthorizeScreen.Action} {r g : Bool} (hs : Said h r g)
    (a : AuthorizeScreen.Action) : Said (a :: h) r g := by
  cases r with
  | true => exact List.mem_cons_of_mem a hs
  | false =>
    obtain ⟨hg, i, resp, hmem, hresp⟩ := hs
    exact ⟨hg, i, resp, List.mem_cons_of_mem a hmem, hresp⟩

/-- Why the consent screen is shown. A failure without a text is taken for no error. -/
def Asked (h : List AuthorizeScreen.Action) (client : Option ConnectedAppPublic) : Prop :=
  (∃ i resp, .started i resp ∈ h ∧ resp.consent_required = true ∧ client = some resp.client) ∨
    ∃ i, .startFailed i "" ∈ h

theorem Asked.cons {h : List AuthorizeScreen.Action} {client : Option ConnectedAppPublic}
    (ha : Asked h client) (a : AuthorizeScreen.Action) : Asked (a :: h) client := by
  rcases ha with ⟨i, resp, hmem, hresp⟩ | ⟨i, hmem⟩
  · exact .inl ⟨i, resp, List.mem_cons_of_mem a hmem, hresp⟩
  · exact .inr ⟨i, List.mem_cons_of_mem a hmem⟩

/-- The server returned an authorization code. -/
def Authorized (h : List AuthorizeScreen.Action) : Prop :=
  ∃ i resp, .submitted i resp ∈ h ∧ (resp.authorization_code.filter (· ≠ "")).isSome

/-- Neither success nor denial is shown. -/
def IDPState.Unanswered (state : IDPState) : Prop := state.denied = false ∧ state.success = false

/-- How far the flow has come. -/
inductive Authorizing (h : List AuthorizeScreen.Action) (s : AuthorizeScreen) : Prop where
  | fresh : s.state.preflight = false → s.state.loading = true → s.state.Unanswered →
      s.waiting = [] → s.sent = [] → s.location = none → Authorizing h s
  | failed (text : String) : s.state.preflight = true → s.state.loading = false →
      s.state.error = some text → text ≠ "" → s.waiting = [] →
      (s.sent = [] ∨ s.sent = [.start s.params]) → s.location = none → Authorizing h s
  | starting : s.state.preflight = true → s.state.loading = true → s.state.Unanswered →
      s.waiting = [.start] → s.sent = [.start s.params] → s.location = none → Authorizing h s
  | asking : s.state.preflight = true → s.state.Unanswered → Asked h s.state.client →
      s.waiting = [] → s.sent = [.start s.params] → s.location = none → Authorizing h s
  | submitting (r g : Bool) : s.state.preflight = true → s.state.loading = true →
      s.state.Unanswered → s.waiting = [.submit r g] →
      s.sent = [.submit s.params g, .start s.params] → Said h r g → s.location = none → Authorizing h s
  | finished (r g : Bool) : s.state.preflight = true → s.waiting = [] →
      s.sent = [.submit s.params g, .start s.params] → Said h r g →
      (∀ uri, s.location = some uri → ∃ i resp, .submitted i resp ∈ h ∧ resp.redirect_uri = uri) →
      (s.state.loading = false → s.state.success = true ∧ Authorized h ∧
        (s.state.denied = true → r = true ∧ g = false)) →
      Authorizing h s

section Authorizing

variable {h : List AuthorizeScreen.Action} {s s' : AuthorizeScreen}

theorem getElem?_singleton {α : Type} {l : List α} {x y : α} {i : ℕ} (hl : l = [x]) (h : l[i]? = some y) :
    i = 0 ∧ y = x := by
  subst hl
  cases i with
  | zero => exact ⟨rfl, (Option.some.inj h).symm⟩
  | succ i => cases h

theorem getElem?_nil {α : Type} {l : List α} {y : α} {i : ℕ} (hl : l = []) (h : l[i]? = some y) : False := by
  subst hl
  cases h

/-- The consent screen is shown where nothing is loading or finished and there is no error. -/
theorem view_eq_consent {state : IDPState} (hv : state.view = .consent) :
    state.loading = false ∧ (∀ text, state.error = some text → text = "") ∧ state.denied = false ∧
      state.success = false := by
  unfold IDPState.view at hv
  cases herror : state.error.filter (· ≠ "") with
  | some text =>
    rw [herror] at hv
    split_ifs at hv
  | none =>
    rw [herror] at hv
    dsimp only at hv
    split_ifs at hv with hloading hdenied hsuccess
    refine ⟨Bool.eq_false_iff.2 hloading, fun text ht => ?_, Bool.eq_false_iff.2 hdenied,
      Bool.eq_false_iff.2 hsuccess⟩
    by_contra hne
    rw [ht, Option.filter_some, if_pos (decide_eq_true hne)] at herror
    cases herror

theorem Authorizing.effect (hi : Authorizing h s) :
    Authorizing (.effect :: h) (if s.state.preflight then s else s.loadClient) := by
  cases hi with
  | fresh hp hl hd hw hs hloc =>
    rw [if_neg (by rw [hp]; decide)]
    refine .starting rfl rfl hd ?_ ?_ hloc
    · exact congrArg (· ++ [Waiting.start]) hw
    · exact congrArg (Request.start s.params :: ·) hs
  | failed text hp hl he hne hw hs hloc =>
    rw [if_pos hp]
    exact .failed text hp hl he hne hw hs hloc
  | starting hp hl hd hw hs hloc =>
    rw [if_pos hp]
    exact .starting hp hl hd hw hs hloc
  | asking hp hd hasked hw hs hloc =>
    rw [if_pos hp]
    exact .asking hp hd (hasked.cons _) hw hs hloc
  | submitting r g hp hl hd hw hs hsaid hloc =>
    rw [if_pos hp]
    exact .submitting r g hp hl hd hw hs (hsaid.cons _) hloc
  | finished r g hp hw hs hsaid hloc hview =>
    rw [if_pos hp]
    refine .finished r g hp hw hs (hsaid.cons _) (fun uri hu => ?_) fun hl => ?_
    · obtain ⟨i, resp, hmem, huri⟩ := hloc uri hu
      exact ⟨i, resp, List.mem_cons_of_mem _ hmem, huri⟩
    · obtain ⟨hsuccess, ⟨i, resp, hmem, hcode⟩, hdenied⟩ := hview hl
      exact ⟨hsuccess, ⟨i, resp, List.mem_cons_of_mem _ hmem, hcode⟩, hdenied⟩

theorem Authorizing.started (hi : Authorizing h s) {i : ℕ} {resp : StartResponse}
    (hstart : s.waiting[i]? = some .start) : Authorizing (.started i resp :: h)
      (AuthorizeScreen.afterStart { s with waiting := s.waiting.eraseIdx i } resp) := by
  cases hi with
  | fresh hp hl hd hw hs hloc => exact (getElem?_nil hw hstart).elim
  | failed text hp hl he hne hw hs hloc => exact (getElem?_nil hw hstart).elim
  | asking hp hd hasked hw hs hloc => exact (getElem?_nil hw hstart).elim
  | finished r g hp hw hs hsaid hloc hview => exact (getElem?_nil hw hstart).elim
  | submitting r g hp hl hd hw hs hsaid hloc => cases (getElem?_singleton hw hstart).2
  | starting hp hl hd hw hs hloc =>
    obtain ⟨rfl, -⟩ := getElem?_singleton hw hstart
    have hnone : s.waiting.eraseIdx 0 = [] := by rw [hw]; rfl
    unfold AuthorizeScreen.afterStart
    split_ifs with hrequired
    · exact .asking hp hd (.inl ⟨0, resp, List.mem_cons_self, hrequired, rfl⟩) hnone hs hloc
    · refine .submitting false false hp rfl hd ?_ ?_ ?_ hloc
      · exact congrArg (· ++ [Waiting.submit false false]) hnone
      · exact congrArg (Request.submit s.params false :: ·) hs
      · exact ⟨rfl, 0, resp, List.mem_cons_self, Bool.eq_false_iff.2 hrequired⟩

theorem Authorizing.startFailed (hi : Authorizing h s) {i : ℕ} {error_message : String}
    (hstart : s.waiting[i]? = some .start) : Authorizing (.startFailed i error_message :: h)
      { s with
        state := s.state.reducer (.PREFLIGHT_ERROR error_message)
        waiting := s.waiting.eraseIdx i } := by
  cases hi with
  | fresh hp hl hd hw hs hloc => exact (getElem?_nil hw hstart).elim
  | failed text hp hl he hne hw hs hloc => exact (getElem?_nil hw hstart).elim
  | asking hp hd hasked hw hs hloc => exact (getElem?_nil hw hstart).elim
  | finished r g hp hw hs hsaid hloc hview => exact (getElem?_nil hw hstart).elim
  | submitting r g hp hl hd hw hs hsaid hloc => cases (getElem?_singleton hw hstart).2
  | starting hp hl hd hw hs hloc =>
    obtain ⟨rfl, -⟩ := getElem?_singleton hw hstart
    have hnone : s.waiting.eraseIdx 0 = [] := by rw [hw]; rfl
    by_cases hne : error_message = ""
    · subst hne
      exact .asking rfl hd (.inr ⟨0, List.mem_cons_self⟩) hnone hs hloc
    · exact .failed error_message rfl rfl rfl hne hnone (.inr hs) hloc

theorem Authorizing.click (hi : Authorizing h s) {consent_granted : Bool}
    (hv : s.state.view = .consent) :
    Authorizing (.click consent_granted :: h) (s.submitInternal true consent_granted) := by
  obtain ⟨hloading, herror, hdenied, hsuccess⟩ := view_eq_consent hv
  cases hi with
  | fresh hp hl hd hw hs hloc => cases hl.symm.trans hloading
  | failed text hp hl he hne hw hs hloc => exact absurd (herror text he) hne
  | starting hp hl hd hw hs hloc => cases hl.symm.trans hloading
  | submitting r g hp hl hd hw hs hsaid hloc => cases hl.symm.trans hloading
  | finished r g hp hw hs hsaid hloc hview => cases (hview hloading).1.symm.trans hsuccess
  | asking hp hd hasked hw hs hloc =>
    refine .submitting true consent_granted hp rfl hd ?_ ?_ List.mem_cons_self hloc
    · exact congrArg (· ++ [Waiting.submit true consent_granted]) hw
    · exact congrArg (Request.submit s.params consent_granted :: ·) hs

theorem Authorizing.submitFailed (hi : Authorizing h s) {i : ℕ} {r' g' : Bool}
    (hsubmit : s.waiting[i]? = some (.submit r' g')) :
    Authorizing (.submitFailed i :: h) { s with waiting := s.waiting.eraseIdx i } := by
  cases hi with
  | fresh hp hl hd hw hs hloc => exact (getElem?_nil hw hsubmit).elim
  | failed text hp hl he hne hw hs hloc => exact (getElem?_nil hw hsubmit).elim
  | asking hp hd hasked hw hs hloc => exact (getElem?_nil hw hsubmit).elim
  | finished r g hp hw hs hsaid hloc hview => exact (getElem?_nil hw hsubmit).elim
  | starting hp hl hd hw hs hloc => cases (getElem?_singleton hw hsubmit).2
  | submitting r g hp hl hd hw hs hsaid hloc =>
    obtain ⟨rfl, -⟩ := getElem?_singleton hw hsubmit
    refine .finished r g hp ?_ hs (hsaid.cons _) ?_ ?_
    · change s.waiting.eraseIdx 0 = []
      rw [hw]
      rfl
    · intro uri hu
      cases hloc.symm.trans hu
    · intro hnot
      cases hl.symm.trans hnot

theorem Authorizing.submitted (hi : Authorizing h s) {i : ℕ} {resp : SubmitResponse} {r g : Bool}
    (hsubmit : s.waiting[i]? = some (.submit r g)) : Authorizing (.submitted i resp :: h)
      (AuthorizeScreen.afterSubmit { s with waiting := s.waiting.eraseIdx i } r g resp) := by
  cases hi with
  | fresh hp hl hd hw hs hloc => exact (getElem?_nil hw hsubmit).elim
  | failed text hp hl he hne hw hs hloc => exact (getElem?_nil hw hsubmit).elim
  | asking hp hd hasked hw hs hloc => exact (getElem?_nil hw hsubmit).elim
  | finished r' g' hp hw hs hsaid hloc hview => exact (getElem?_nil hw hsubmit).elim
  | starting hp hl hd hw hs hloc => cases (getElem?_singleton hw hsubmit).2
  | submitting r' g' hp hl hd hw hs hsaid hloc =>
    obtain ⟨rfl, hsame⟩ := getElem?_singleton hw hsubmit
    obtain ⟨rfl, rfl⟩ := Waiting.submit.inj hsame
    have hnone : s.waiting.eraseIdx 0 = [] := by rw [hw]; rfl
    have huri : ∀ uri, some resp.redirect_uri = some uri →
        ∃ i resp', AuthorizeScreen.Action.submitted i resp' ∈ .submitted 0 resp :: h ∧
          resp'.redirect_uri = uri := by
      rintro uri ⟨⟩
      exact ⟨0, resp, List.mem_cons_self, rfl⟩
    unfold AuthorizeScreen.afterSubmit
    by_cases hcode : (resp.authorization_code.filter (· ≠ "")).isSome
    · rw [if_pos hcode]
      split_ifs with hrefused
      · exact .finished r g hp hnone hs (hsaid.cons _) huri fun _ =>
          ⟨rfl, ⟨0, resp, List.mem_cons_self, hcode⟩, fun _ => ⟨hrefused.1, Bool.eq_false_iff.2 hrefused.2⟩⟩
      · refine .finished r g hp hnone hs (hsaid.cons _) huri fun _ =>
          ⟨rfl, ⟨0, resp, List.mem_cons_self, hcode⟩, fun hdenied => ?_⟩
        cases hd.1.symm.trans hdenied
    · rw [if_neg hcode]
      -- Nothing more is shown than that the page is being left.
      have hloading : s.state.loading = false → False := fun hnot => by cases hl.symm.trans hnot
      split_ifs
      · exact .finished r g hp hnone hs (hsaid.cons _) huri fun hnot => (hloading hnot).elim
      · exact .finished r g hp hnone hs (hsaid.cons _) huri fun hnot => (hloading hnot).elim

end Authorizing

/-! ## Runs of the screen -/

/-- A search without the required parameters: the screen stays at its error. -/
def Refused (s : AuthorizeScreen) : Prop :=
  s.state.preflight = true ∧ s.waiting = [] ∧ s.sent = [] ∧ s.state.view ≠ .consent

section Runs

variable {h : List AuthorizeScreen.Action} {s s' : AuthorizeScreen} {a : AuthorizeScreen.Action}

theorem next_params (hn : s.next a = some s') : s'.params = s.params := by
  cases AuthorizeScreen.step_of_next hn with
  | effect => split_ifs <;> rfl
  | started =>
    unfold AuthorizeScreen.afterStart
    split_ifs <;> rfl
  | submitted =>
    unfold AuthorizeScreen.afterSubmit
    split_ifs <;> rfl
  | _ => rfl

theorem Refused.next (hi : Refused s) (hn : s.next a = some s') : Refused s' := by
  obtain ⟨hp, hw, hs, hv⟩ := hi
  cases AuthorizeScreen.step_of_next hn with
  | effect =>
    rw [if_pos hp]
    exact ⟨hp, hw, hs, hv⟩
  | click hconsent => exact absurd hconsent hv
  | started hstart => exact (getElem?_nil hw hstart).elim
  | startFailed hstart => exact (getElem?_nil hw hstart).elim
  | submitted hsubmit => exact (getElem?_nil hw hsubmit).elim
  | submitFailed hsubmit => exact (getElem?_nil hw hsubmit).elim

theorem Authorizing.next (hi : Authorizing h s) (hn : s.next a = some s') : Authorizing (a :: h) s' := by
  cases AuthorizeScreen.step_of_next hn with
  | effect => exact hi.effect
  | started hstart => exact hi.started hstart
  | startFailed hstart => exact hi.startFailed hstart
  | click hv => exact hi.click hv
  | submitted hsubmit => exact hi.submitted hsubmit
  | submitFailed hsubmit => exact hi.submitFailed hsubmit

theorem missing_ne (field : String) : missing field ≠ "" := by
  unfold missing
  simp

/-- An error of the parser has a text, and parameters without an error are well formed. -/
theorem parsed {searchParams : FormUrlEncoded.Bytes} {error : Option String} {flow : IDPFlowParams}
    (hparse : parseIDPParams searchParams = (error, flow)) :
    (∀ text, error = some text → text ≠ "") ∧ (error = none → flow.WellFormed) := by
  refine ⟨?_, ?_⟩
  · rintro text rfl
    have herror := parseIDPParams_error searchParams
    rw [hparse] at herror
    obtain ⟨field, -, rfl⟩ := Option.map_eq_some_iff.1 herror.symm
    exact missing_ne field
  · rintro rfl
    exact parseIDPParams_wellFormed hparse

theorem authorizing_init (hinit : authorizeScreen.init s) :
    Authorizing [] s ∧ (s.params.WellFormed ∨ Refused s) := by
  obtain ⟨searchParams, error, params, hparse, rfl⟩ := hinit
  cases error with
  | none => exact ⟨.fresh rfl rfl ⟨rfl, rfl⟩ rfl rfl rfl, .inl ((parsed hparse).2 rfl)⟩
  | some text =>
    have hne := (parsed hparse).1 text rfl
    refine ⟨.failed text rfl rfl rfl hne rfl (.inl rfl) rfl, .inr ⟨rfl, rfl, rfl, fun hv => ?_⟩⟩
    exact hne ((view_eq_consent hv).2.1 text rfl)

theorem authorizing_reach (hr : authorizeScreen.Reach Machine.anyStep h s) :
    Authorizing h s ∧ (s.params.WellFormed ∨ Refused s) := by
  induction hr with
  | start hinit => exact authorizing_init hinit
  | step hr _ hn ih =>
    refine ⟨ih.1.next hn, ih.2.imp (fun hp => ?_) fun hrefused => hrefused.next hn⟩
    rwa [next_params hn]

/-- What the screen shows once nothing is loading. -/
theorem view_of_answer {state : IDPState} (hv : state.view = .denied ∨ state.view = .success) :
    state.loading = false ∧ (state.error.filter (· ≠ "")) = none ∧
      (state.view = .denied → state.denied = true) ∧ (state.view = .success → state.success = true) := by
  unfold IDPState.view at hv ⊢
  cases herror : state.error.filter (· ≠ "") with
  | some text =>
    rw [herror] at hv
    split_ifs at hv <;> simp at hv
  | none =>
    rw [herror] at hv
    split_ifs at hv ⊢ <;> simp_all

theorem Authorizing.shown (hi : Authorizing h s) (hv : s.state.view = .denied ∨ s.state.view = .success) :
    Authorized h ∧ (s.state.view = .denied → .click false ∈ h) := by
  obtain ⟨hloading, herror, hdenied, hsuccess⟩ := view_of_answer hv
  have hanswered : ¬s.state.Unanswered := by
    intro hu
    rcases hv with hv | hv
    · cases hu.1.symm.trans (hdenied hv)
    · cases hu.2.symm.trans (hsuccess hv)
  cases hi with
  | fresh hp hl hd hw hs hloc => exact absurd hd hanswered
  | starting hp hl hd hw hs hloc => exact absurd hd hanswered
  | asking hp hd hasked hw hs hloc => exact absurd hd hanswered
  | submitting r g hp hl hd hw hs hsaid hloc => exact absurd hd hanswered
  | failed text hp hl he hne hw hs hloc =>
    rw [he, Option.filter_some, if_pos (decide_eq_true hne)] at herror
    cases herror
  | finished r g hp hw hs hsaid hloc hview =>
    obtain ⟨-, hauthorized, hrefused⟩ := hview hloading
    refine ⟨hauthorized, fun hv => ?_⟩
    obtain ⟨rfl, rfl⟩ := hrefused (hdenied hv)
    exact hsaid

theorem Authorizing.sent_eq (hi : Authorizing h s) : s.sent = [] ∨ s.sent = [.start s.params] ∨
    ∃ r g, s.sent = [.submit s.params g, .start s.params] ∧ Said h r g := by
  cases hi with
  | fresh hp hl hd hw hs hloc => exact .inl hs
  | starting hp hl hd hw hs hloc => exact .inr (.inl hs)
  | asking hp hd hasked hw hs hloc => exact .inr (.inl hs)
  | submitting r g hp hl hd hw hs hsaid hloc => exact .inr (.inr ⟨r, g, hs, hsaid⟩)
  | failed text hp hl he hne hw hs hloc => exact hs.imp_right .inl
  | finished r g hp hw hs hsaid hloc hview => exact .inr (.inr ⟨r, g, hs, hsaid⟩)

/-- What was submitted was said. -/
theorem Authorizing.said (hi : Authorizing h s) {g : Bool} (hmem : .submit s.params g ∈ s.sent) :
    ∃ r, Said h r g := by
  rcases hi.sent_eq with hs | hs | ⟨r, g', hs, hsaid⟩
  · rw [hs] at hmem
    cases hmem
  · rw [hs] at hmem
    cases List.mem_singleton.1 hmem
  · rw [hs] at hmem
    rcases List.mem_cons.1 hmem with heq | hmem
    · obtain ⟨-, rfl⟩ := Request.submit.inj heq
      exact ⟨r, hsaid⟩
    · cases List.mem_singleton.1 hmem

theorem Authorizing.consent (hi : Authorizing h s) (hv : s.state.view = .consent) :
    s.sent = [.start s.params] ∧ Asked h s.state.client := by
  obtain ⟨hloading, herror, -, hsuccess⟩ := view_eq_consent hv
  cases hi with
  | asking hp hd hasked hw hs hloc => exact ⟨hs, hasked⟩
  | fresh hp hl hd hw hs hloc => cases hl.symm.trans hloading
  | failed text hp hl he hne hw hs hloc => exact absurd (herror text he) hne
  | starting hp hl hd hw hs hloc => cases hl.symm.trans hloading
  | submitting r g hp hl hd hw hs hsaid hloc => cases hl.symm.trans hloading
  | finished r g hp hw hs hsaid hloc hview => cases (hview hloading).1.symm.trans hsuccess

theorem Authorizing.left (hi : Authorizing h s) {uri : String} (hu : s.location = some uri) :
    ∃ i resp, .submitted i resp ∈ h ∧ resp.redirect_uri = uri := by
  cases hi with
  | finished r g hp hw hs hsaid hloc hview => exact hloc uri hu
  | asking hp hd hasked hw hs hloc => cases hloc.symm.trans hu
  | fresh hp hl hd hw hs hloc => cases hloc.symm.trans hu
  | failed text hp hl he hne hw hs hloc => cases hloc.symm.trans hu
  | starting hp hl hd hw hs hloc => cases hloc.symm.trans hu
  | submitting r g hp hl hd hw hs hsaid hloc => cases hloc.symm.trans hu

end Runs

/-- Requests are sent for well-formed parameters, at most one of each kind and in order; the consent
screen shows the client of the server's answer; consent is granted by a click on it, and refused by
a click or without the screen when the server requires no consent. The page is left for where the server
says, and an outcome is shown only when the server returned an authorization code. -/
theorem authorize_asks {h : List AuthorizeScreen.Action} {s : AuthorizeScreen}
    (hr : authorizeScreen.Reach Machine.anyStep h s) :
    (s.sent = [] ∨ s.params.WellFormed ∧ (s.sent = [.start s.params] ∨
        ∃ g, s.sent = [.submit s.params g, .start s.params])) ∧
      (s.state.view = .consent → s.sent = [.start s.params] ∧ Asked h s.state.client) ∧
      (.submit s.params true ∈ s.sent → .click true ∈ h) ∧
      (.submit s.params false ∈ s.sent → .click false ∈ h ∨
        ∃ i resp, .started i resp ∈ h ∧ resp.consent_required = false) ∧
      (∀ uri, s.location = some uri → ∃ i resp, .submitted i resp ∈ h ∧ resp.redirect_uri = uri) ∧
      (s.state.view = .success ∨ s.state.view = .denied → Authorized h) ∧
      (s.state.view = .denied → .click false ∈ h) := by
  obtain ⟨hi, hparams⟩ := authorizing_reach hr
  refine ⟨?_, hi.consent, ?_, ?_, fun uri => hi.left, fun hv => (hi.shown hv.symm).1,
    fun hv => (hi.shown (.inl hv)).2 hv⟩
  · rcases hparams with hformed | ⟨-, -, hnone, -⟩
    · rcases hi.sent_eq with hs | hs | ⟨r, g, hs, -⟩
      · exact .inl hs
      · exact .inr ⟨hformed, .inl hs⟩
      · exact .inr ⟨hformed, .inr ⟨g, hs⟩⟩
    · exact .inl hnone
  · intro hmem
    obtain ⟨r, hsaid⟩ := hi.said hmem
    cases r with
    | true => exact hsaid
    | false => cases hsaid.1
  · intro hmem
    obtain ⟨r, hsaid⟩ := hi.said hmem
    cases r with
    | true => exact .inl hsaid
    | false => exact .inr hsaid.2

/-- The parameters of an application. -/
def appParams : OAuthAuthorizeParams := { client_id := "app", redirect_uri := "https://app.example.com" }

theorem appParams_wellFormed : appParams.WellFormed where
  client_id := by decide
  redirect_uri := by decide
  response_type := by decide
  scopes := by decide
  code_challenge := nofun
  state := nofun
  nonce := nofun
  prompt := nofun
  resources := nofun

/-- The user is asked, consents, and is sent back to the application. -/
theorem authorize_asks_consented :
    ∃ (h : List AuthorizeScreen.Action) (s : AuthorizeScreen),
      authorizeScreen.Reach Machine.anyStep h s ∧
        s.sent = [.submit appParams true, .start appParams] ∧ .click true ∈ h ∧ Authorized h ∧
        s.location = some "https://app.example.com?code=c" ∧
        ∃ i resp, .submitted i resp ∈ h ∧ resp.redirect_uri = "https://app.example.com?code=c" := by
  have hr := Machine.Reach.start (M := authorizeScreen) (C := Machine.anyStep)
    ⟨_, none, appParams, parse_search_authorize appParams_wellFormed, rfl⟩
  have hr := hr.step (a := .effect) trivial rfl
  have hr := hr.step (a := .started 0 ⟨true, ⟨"app", "App"⟩, [⟨"openid", true, ""⟩]⟩) trivial rfl
  have hr := hr.step (a := .click true) trivial rfl
  have hr := hr.step (a := .submitted 0 ⟨"https://app.example.com?code=c", some "c"⟩) trivial rfl
  obtain ⟨-, -, hgranted, -, hleft, hshown, -⟩ := authorize_asks hr
  exact ⟨_, _, hr, rfl, hgranted List.mem_cons_self, hshown (.inl rfl), rfl, hleft _ rfl⟩

end StytchBrowser.Web.IDP
