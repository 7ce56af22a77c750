import StytchBrowser.ReactNative.B2BUI.Reducers

/-!
# useDeeplinkParser

`parseDeeplink` and the hooks that it calls, each as the actions it dispatches before its first
await and after it. A call ends with an action that clears `isParsingDeeplink`
(`handleDeeplink_ends`), unless the link resets a password in an organization
(`handleDeeplink_resetsPassword`).
-/

namespace StytchBrowser.ReactNative.B2B

/-! ## parseDeeplink -/

/-- The search parameters that `parseDeeplink` reads. -/
structure DeeplinkParams where
  /-- `stytch_token_type`. -/
  tokenType : Option String
  token : Option String
  /-- `stytch_redirect_type`. -/
  redirectType : Option String

/-- What the API answers to the authentication of a token, or what `createErrorResponseFromError`
makes of the error. -/
structure Answer where
  authenticate : Except (Option ErrorResponse) AuthenticateResponseWithMFA
  discoveryAuthenticate : Except (Option ErrorResponse) (String × List DiscoveredOrganization)

/-- What an asynchronous function dispatches before its first await, and after it. -/
structure Dispatches where
  before : List B2BUIAction
  after : List B2BUIAction

section Hooks

variable (includedMfaMethods : Option (List B2BMFAProducts)) (answer : Answer)

/-- `magicLinksAuthenticate`, `oauthAuthenticate` and `ssoAuthenticate`, which dispatch actions of
their own groups. -/
def authenticateToken (start success : B2BUIAction) (failed : Option ErrorResponse → B2BUIAction) :
    Dispatches where
  before := [start]
  after := match answer.authenticate with
    | .ok response =>
        [success, .mfa (.primaryAuthenticateSuccess response includedMfaMethods none)]
    | .error error => [failed error]

def magicLinksAuthenticate : Dispatches :=
  authenticateToken includedMfaMethods answer (.magicLinks .authenticate)
    (.magicLinks .authenticateSuccess) fun error => .magicLinks (.authenticateError error)

def oauthAuthenticate : Dispatches :=
  authenticateToken includedMfaMethods answer (.oauth .authenticate) (.oauth .authenticateSuccess)
    fun error => .oauth (.authenticateError error)

def ssoAuthenticate : Dispatches :=
  authenticateToken includedMfaMethods answer (.sso .authenticate) (.sso .authenticateSuccess)
    fun error => .sso (.authenticateError error)

def magicLinksDiscoveryAuthenticate : Dispatches where
  before := [.magicLinks .discoveryAuthenticate]
  after := match answer.discoveryAuthenticate with
    | .ok (email, organizations) => [.discovery (.setDiscoveredOrganizations email organizations),
        .magicLinks .discoveryAuthenticateSuccess]
    | .error error => [.magicLinks (.discoveryAuthenticateError error)]

def oauthDiscoveryAuthenticate : Dispatches where
  before := [.oauth .discoveryAuthenticate]
  after := match answer.discoveryAuthenticate with
    | .ok (email, organizations) => [.oauth .discoveryAuthenticateSuccess,
        .discovery (.setDiscoveredOrganizations email organizations)]
    | .error error => [.oauth (.discoveryAuthenticateError error)]

/-- An awaited call, and `deeplink/parse/success` after it. -/
def Dispatches.thenSuccess (call : Dispatches) : Dispatches :=
  { call with after := call.after ++ [.deeplink .parseSuccess] }

/-- The end of the `catch` block: neither a bad URL nor a missing token is an error of the SDK or of
the API. -/
def parseFailed : Dispatches :=
  ⟨[.deeplink (.parseError (some (withInternalError none "Unable to parse deeplink")))], []⟩

/-- The `switch` of `parseDeeplink`. -/
def handleToken (params : DeeplinkParams) (token : String) : Dispatches :=
  match params.tokenType with
  | some "discovery" =>
      if params.redirectType = some "reset_password" then
        ⟨[.passwords (.resetPassword token "discovery"), .deeplink .parseSuccess], []⟩
      else (magicLinksDiscoveryAuthenticate answer).thenSuccess
  | some "discovery_oauth" => (oauthDiscoveryAuthenticate answer).thenSuccess
  | some "sso" => (ssoAuthenticate includedMfaMethods answer).thenSuccess
  | some "multi_tenant_magic_links" =>
      (magicLinksAuthenticate includedMfaMethods answer).thenSuccess
  | some "oauth" => (oauthAuthenticate includedMfaMethods answer).thenSuccess
  | some "multi_tenant_passwords" =>
      -- this branch returns before `deeplink/parse/success`
      ⟨[.passwords (.resetPassword token "multi_tenant_passwords")], []⟩
  | _ => ⟨[.deeplink .parseIgnored], []⟩

variable (parseUrl : String → Option DeeplinkParams)

/-- The `try` statement of `parseDeeplink`; `parseUrl` is `new URL` with the search parameters of
the result, and `none` where it throws. -/
def handleDeeplink (deeplink : String) : Dispatches :=
  match parseUrl deeplink with
  | none => parseFailed
  | some params =>
      match params.token with
      | none | some "" => parseFailed
      | some token => handleToken includedMfaMethods answer params token

/-- The guard of `parseDeeplink`, which the handler checks as well: this link, or any link, is not
to be parsed. -/
def DeeplinkState.refuses (deeplinkState : DeeplinkState) (deeplink : String) : Bool :=
  deeplinkState.isParsingDeeplink || deeplinkState.deeplinksHandled.contains deeplink

theorem DeeplinkState.refuses_of_mem {deeplinkState : DeeplinkState} {deeplink : String}
    (h : deeplink ∈ deeplinkState.deeplinksHandled) : deeplinkState.refuses deeplink = true := by
  rw [refuses, List.contains_iff_mem.2 h, Bool.or_true]

theorem DeeplinkState.refuses_iff {deeplinkState : DeeplinkState}
    (h : deeplinkState.isParsingDeeplink = false) (deeplink : String) :
    deeplinkState.refuses deeplink = true ↔ deeplink ∈ deeplinkState.deeplinksHandled := by
  rw [refuses, h, Bool.false_or, List.contains_iff_mem]

/-- `parseDeeplink` of a render with this state, `none` where it returns at once. -/
def parseDeeplink (deeplinkState : DeeplinkState) (deeplink : String) : Option Dispatches :=
  if deeplinkState.refuses deeplink then none
  else
    let dispatches := handleDeeplink includedMfaMethods answer parseUrl deeplink
    some { dispatches with before := .deeplink (.parse deeplink) :: dispatches.before }

end Hooks

/-- A link with a token to reset the password in an organization. -/
def resetsPassword (parseUrl : String → Option DeeplinkParams) (deeplink : String) : Prop :=
  ∃ params token, parseUrl deeplink = some params ∧ params.token = some token ∧ token ≠ "" ∧
    params.tokenType = some "multi_tenant_passwords"

/-! ## How a call ends -/

/-- The actions that clear `isParsingDeeplink`. -/
def B2BDeeplinkAction.ends : B2BDeeplinkAction → Prop
  | .parseSuccess | .parseIgnored | .parseError _ => True
  | .handlerRegistered | .parse _ => False

/-- The dispatches left to a call that ends with one of these, and has no other on the deeplink
state. -/
inductive Ending : List B2BUIAction → Prop where
  | last {a : B2BDeeplinkAction} : a.ends → Ending [.deeplink a]
  | more {action : B2BUIAction} {actions : List B2BUIAction} :
      (∀ a, action ≠ .deeplink a) → Ending actions → Ending (action :: actions)

/-- Run the dispatches of a stretch of code. -/
def dispatchAll (now : ℤ) (state : UIState) (actions : List B2BUIAction) : UIState :=
  actions.foldl (GlobalReducer now) state

theorem DeeplinkReducer_ends (state : UIState) {a : B2BDeeplinkAction} (h : a.ends) :
    (DeeplinkReducer state a).deeplinkState =
      { state.deeplinkState with isParsingDeeplink := false } := by
  cases a with
  | parseSuccess | parseIgnored | parseError error => rfl
  | handlerRegistered | parse url => exact h.elim

theorem Ending.concat {actions : List B2BUIAction}
    (h : ∀ action ∈ actions, ∀ a, action ≠ .deeplink a)
    {a : B2BDeeplinkAction} (ha : a.ends) : Ending (actions ++ [.deeplink a]) := by
  induction actions with
  | nil => exact .last ha
  | cons action actions ih =>
    exact .more (h action List.mem_cons_self) (ih fun b hb => h b (List.mem_cons_of_mem _ hb))

theorem Ending.dispatchAll {actions : List B2BUIAction} (h : Ending actions) (now : ℤ)
    (state : UIState) : (dispatchAll now state actions).deeplinkState =
      { state.deeplinkState with isParsingDeeplink := false } := by
  induction h generalizing state with
  | last ha => exact DeeplinkReducer_ends state ha
  | more haction _ ih =>
    refine (ih _).trans ?_
    rw [GlobalReducer_deeplinkState now state haction]

theorem dispatchAll_deeplinkState {actions : List B2BUIAction}
    (h : ∀ action ∈ actions, ∀ a, action ≠ .deeplink a) (now : ℤ) (state : UIState) :
    (dispatchAll now state actions).deeplinkState = state.deeplinkState := by
  induction actions generalizing state with
  | nil => rfl
  | cons action actions ih =>
    have hrest := ih (fun b hb => h b (List.mem_cons_of_mem _ hb)) (GlobalReducer now state action)
    refine hrest.trans (GlobalReducer_deeplinkState now state (h action List.mem_cons_self))

/-- A call that ends: before its first await, or after one that comes with nothing for the deeplink
state. -/
inductive Dispatches.Ends : Dispatches → Prop where
  | atOnce {before : List B2BUIAction} : Ending before → Dispatches.Ends ⟨before, []⟩
  | later {before after : List B2BUIAction} : (∀ action ∈ before, ∀ a, action ≠ .deeplink a) →
      Ending after → Dispatches.Ends ⟨before, after⟩

section Hooks

variable {includedMfaMethods : Option (List B2BMFAProducts)} {answer : Answer}
  {parseUrl : String → Option DeeplinkParams}

theorem Dispatches.Ends.thenSuccess {call : Dispatches}
    (hbefore : ∀ action ∈ call.before, ∀ a, action ≠ .deeplink a)
    (hafter : ∀ action ∈ call.after, ∀ a, action ≠ .deeplink a) : call.thenSuccess.Ends :=
  .later hbefore (.concat hafter trivial)

theorem authenticateToken_ends {start success : B2BUIAction}
    {failed : Option ErrorResponse → B2BUIAction} (hstart : ∀ a, start ≠ .deeplink a)
    (hsuccess : ∀ a, success ≠ .deeplink a) (hfailed : ∀ error a, failed error ≠ .deeplink a) :
    (authenticateToken includedMfaMethods answer start success failed).thenSuccess.Ends := by
  apply Dispatches.Ends.thenSuccess
  · simpa [authenticateToken] using hstart
  · unfold authenticateToken
    cases answer.authenticate with
    | ok response => simpa using hsuccess
    | error error => simpa using hfailed error

theorem magicLinksDiscoveryAuthenticate_ends :
    (magicLinksDiscoveryAuthenticate answer).thenSuccess.Ends := by
  apply Dispatches.Ends.thenSuccess
  · simp [magicLinksDiscoveryAuthenticate]
  · unfold magicLinksDiscoveryAuthenticate
    cases answer.discoveryAuthenticate <;> simp

theorem oauthDiscoveryAuthenticate_ends : (oauthDiscoveryAuthenticate answer).thenSuccess.Ends := by
  apply Dispatches.Ends.thenSuccess
  · simp [oauthDiscoveryAuthenticate]
  · unfold oauthDiscoveryAuthenticate
    cases answer.discoveryAuthenticate <;> simp

theorem parseFailed_ends : parseFailed.Ends := .atOnce (.last trivial)

theorem handleToken_ends {params : DeeplinkParams} {token : String}
    (h : params.tokenType ≠ some "multi_tenant_passwords") :
    (handleToken includedMfaMethods answer params token).Ends := by
  unfold handleToken
  split
  · split
    · exact .atOnce (.more nofun (.last trivial))
    · exact magicLinksDiscoveryAuthenticate_ends
  · exact oauthDiscoveryAuthenticate_ends
  · exact authenticateToken_ends nofun nofun nofun
  · exact authenticateToken_ends nofun nofun nofun
  · exact authenticateToken_ends nofun nofun nofun
  · rename_i htype
    exact absurd htype h
  · exact .atOnce (.last trivial)

/-- Every link but one that resets the password in an organization comes to an end. -/
theorem handleDeeplink_ends {deeplink : String} (h : ¬ resetsPassword parseUrl deeplink) :
    (handleDeeplink includedMfaMethods answer parseUrl deeplink).Ends := by
  unfold handleDeeplink
  split
  · exact parseFailed_ends
  · rename_i params hparams
    split
    · exact parseFailed_ends
    · exact parseFailed_ends
    · rename_i token htoken hne
      refine handleToken_ends fun htype => h ⟨params, token, hparams, hne, ?_, htype⟩
      rintro rfl
      exact htoken rfl

/-- A link that resets the password in an organization never clears `isParsingDeeplink`. -/
theorem handleDeeplink_resetsPassword {deeplink : String} (h : resetsPassword parseUrl deeplink) :
    ∃ token, handleDeeplink includedMfaMethods answer parseUrl deeplink =
      ⟨[.passwords (.resetPassword token "multi_tenant_passwords")], []⟩ := by
  obtain ⟨params, token, hparams, htoken, hne, htype⟩ := h
  refine ⟨token, ?_⟩
  unfold handleDeeplink
  rw [hparams]
  dsimp only
  rw [htoken]
  split
  · contradiction
  · rename_i hempty
    exact absurd (Option.some.inj hempty) hne
  · rename_i htoken'
    obtain rfl := Option.some.inj htoken'
    unfold handleToken
    rw [htype]
    rfl

end Hooks

end StytchBrowser.ReactNative.B2B
