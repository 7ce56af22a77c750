import StytchBrowser.ReactNative.B2BUI.Reducers

/-!
# Submitting flags

`starts` and `completes` pair the actions that set `isSubmitting` with the ones that report the end
of what they started. The end of a request clears the flag in every reducer but two: a strength check
that succeeded and a primary authentication after which the member has to enroll leave it as it is.
The end of a TOTP creation that belongs to another member leaves `isCreating`.
-/

namespace StytchBrowser.ReactNative.B2B

/-- What the actions that set `isSubmitting` start. -/
inductive Request where
  | organizationsCreate
  | intermediateSessionsExchange
  | deeplinkParse
  | mfaPrimaryAuthenticate
  | mfaRecoveryCodeAuthenticate
  | mfaSmsOtpAuthenticate
  | mfaSmsOtpSend
  | mfaTotpAuthenticate
  | passwordsStrengthCheck
  | passwordsAuthenticate
  | passwordsResetByEmailStart
  | passwordsResetByEmail
  | passwordsResetBySession
  | passwordsDiscoveryResetByEmailStart
  | passwordsDiscoveryResetByEmail
  | passwordsDiscoveryAuthenticate
  | magicLinksAuthenticate
  | magicLinksDiscoveryAuthenticate
  | magicLinksEmailLoginOrSignup
  | magicLinksEmailDiscoverySend
  | emailOTPAuthenticate
  | emailOTPDiscoveryAuthenticate
  | emailOTPEmailLoginOrSignup
  | emailOTPEmailDiscoverySend
  | oauthStart
  | oauthAuthenticate
  | oauthDiscoveryAuthenticate
  | ssoStart
  | ssoAuthenticate
  | ssoDiscovery
  | organizationGetBySlug
  deriving DecidableEq

namespace B2BUIAction

/-- The request that an action starts. -/
def starts : B2BUIAction → Option Request
  | .discovery .organizationsCreate => some .organizationsCreate
  | .discovery .intermediateSessionsExchange => some .intermediateSessionsExchange
  | .deeplink (.parse _) => some .deeplinkParse
  | .mfa .primaryAuthenticate => some .mfaPrimaryAuthenticate
  | .mfa .recoveryCodeAuthenticate => some .mfaRecoveryCodeAuthenticate
  | .mfa .smsOtpAuthenticate => some .mfaSmsOtpAuthenticate
  | .mfa .smsOtpSend => some .mfaSmsOtpSend
  | .mfa .totpAuthenticate => some .mfaTotpAuthenticate
  | .passwords .strengthCheck => some .passwordsStrengthCheck
  | .passwords .authenticate => some .passwordsAuthenticate
  | .passwords .resetByEmailStart => some .passwordsResetByEmailStart
  | .passwords .resetByEmail => some .passwordsResetByEmail
  | .passwords .resetBySession => some .passwordsResetBySession
  | .passwords .discoveryResetByEmailStart => some .passwordsDiscoveryResetByEmailStart
  | .passwords .discoveryResetByEmail => some .passwordsDiscoveryResetByEmail
  | .passwords .discoveryAuthenticate => some .passwordsDiscoveryAuthenticate
  | .magicLinks .authenticate => some .magicLinksAuthenticate
  | .magicLinks .discoveryAuthenticate => some .magicLinksDiscoveryAuthenticate
  | .magicLinks .emailLoginOrSignup => some .magicLinksEmailLoginOrSignup
  | .magicLinks .emailDiscoverySend => some .magicLinksEmailDiscoverySend
  | .emailOTP .authenticate => some .emailOTPAuthenticate
  | .emailOTP .discoveryAuthenticate => some .emailOTPDiscoveryAuthenticate
  | .emailOTP .emailLoginOrSignup => some .emailOTPEmailLoginOrSignup
  | .emailOTP .emailDiscoverySend => some .emailOTPEmailDiscoverySend
  | .oauth .start => some .oauthStart
  | .oauth .authenticate => some .oauthAuthenticate
  | .oauth .discoveryAuthenticate => some .oauthDiscoveryAuthenticate
  | .sso .start => some .ssoStart
  | .sso .authenticate => some .ssoAuthenticate
  | .sso .discovery => some .ssoDiscovery
  | .organization .getBySlug => some .organizationGetBySlug
  | _ => none

/-- The request whose success or failure an action reports. -/
def completes : B2BUIAction → Option Request
  | .discovery .organizationsCreateSuccess
  | .discovery (.organizationsCreateError _) => some .organizationsCreate
  | .discovery .intermediateSessionsExchangeSuccess
  | .discovery (.intermediateSessionsExchangeError _) => some .intermediateSessionsExchange
  | .deeplink .parseSuccess | .deeplink (.parseError _)
  | .deeplink .parseIgnored => some .deeplinkParse
  | .mfa (.primaryAuthenticateSuccess _ _ _) => some .mfaPrimaryAuthenticate
  | .mfa .recoveryCodeAuthenticateSuccess
  | .mfa (.recoveryCodeAuthenticateError _) => some .mfaRecoveryCodeAuthenticate
  | .mfa .smsOtpAuthenticateSuccess
  | .mfa (.smsOtpAuthenticateError _) => some .mfaSmsOtpAuthenticate
  | .mfa (.smsOtpSendSuccess _ _ _) | .mfa (.smsOtpSendError _) => some .mfaSmsOtpSend
  | .mfa .totpAuthenticateSuccess | .mfa (.totpAuthenticateError _) => some .mfaTotpAuthenticate
  | .passwords (.strengthCheckSuccess _)
  | .passwords (.strengthCheckError _) => some .passwordsStrengthCheck
  | .passwords .authenticateSuccess
  | .passwords (.authenticateError _) => some .passwordsAuthenticate
  | .passwords .resetByEmailStartSuccess
  | .passwords (.resetByEmailStartError _) => some .passwordsResetByEmailStart
  | .passwords .resetByEmailSuccess
  | .passwords (.resetByEmailError _) => some .passwordsResetByEmail
  | .passwords .resetBySessionSuccess
  | .passwords (.resetBySessionError _) => some .passwordsResetBySession
  | .passwords .discoveryResetByEmailStartSuccess
  | .passwords (.discoveryResetByEmailStartError _) => some .passwordsDiscoveryResetByEmailStart
  | .passwords .discoveryResetByEmailSuccess
  | .passwords (.discoveryResetByEmailError _) => some .passwordsDiscoveryResetByEmail
  | .passwords .discoveryAuthenticateSuccess
  | .passwords (.discoveryAuthenticateError _) => some .passwordsDiscoveryAuthenticate
  | .magicLinks .authenticateSuccess
  | .magicLinks (.authenticateError _) => some .magicLinksAuthenticate
  | .magicLinks .discoveryAuthenticateSuccess
  | .magicLinks (.discoveryAuthenticateError _) => some .magicLinksDiscoveryAuthenticate
  | .magicLinks .emailLoginOrSignupSuccess
  | .magicLinks (.emailLoginOrSignupError _) => some .magicLinksEmailLoginOrSignup
  | .magicLinks .emailDiscoverySendSuccess
  | .magicLinks (.emailDiscoverySendError _) => some .magicLinksEmailDiscoverySend
  | .emailOTP .authenticateSuccess
  | .emailOTP (.authenticateError _) => some .emailOTPAuthenticate
  | .emailOTP .discoveryAuthenticateSuccess
  | .emailOTP (.discoveryAuthenticateError _) => some .emailOTPDiscoveryAuthenticate
  | .emailOTP .emailLoginOrSignupSuccess
  | .emailOTP (.emailLoginOrSignupError _) => some .emailOTPEmailLoginOrSignup
  | .emailOTP .emailDiscoverySendSuccess
  | .emailOTP (.emailDiscoverySendError _) => some .emailOTPEmailDiscoverySend
  | .oauth .startSuccess | .oauth (.startError _) => some .oauthStart
  | .oauth .authenticateSuccess | .oauth (.authenticateError _) => some .oauthAuthenticate
  | .oauth .discoveryAuthenticateSuccess
  | .oauth (.discoveryAuthenticateError _) => some .oauthDiscoveryAuthenticate
  | .sso .startSuccess | .sso (.startError _) => some .ssoStart
  | .sso .authenticateSuccess | .sso (.authenticateError _) => some .ssoAuthenticate
  | .sso (.discoverySuccess _) | .sso (.discoveryError _) => some .ssoDiscovery
  | .organization (.getBySlugSuccess _)
  | .organization (.getBySlugError _) => some .organizationGetBySlug
  | _ => none

/-- The action reports the end of a TOTP creation. -/
def completesTotpCreate : B2BUIAction → Bool
  | .mfa (.totpCreateSuccess _ _ _ _ _) | .mfa (.totpCreateError _) => true
  | _ => false

/-- The member of a response has no session yet and has to enroll. -/
def enrolls (response : AuthenticateResponseWithMFA) (resetTokenType : Option String) : Bool :=
  !response.memberSession && response.primaryRequired.isNone &&
    (entryMethod response (primaryInfo response resetTokenType)).isNone

/-- The ends of requests that leave `isSubmitting` as it is. -/
def leavesSubmitting : B2BUIAction → Bool
  | .passwords (.strengthCheckSuccess _) => true
  | .mfa (.primaryAuthenticateSuccess response _ resetTokenType) => enrolls response resetTokenType
  | _ => false

/-- The end of a TOTP creation that does not belong to the member who is enrolling. -/
def ofOtherMember (state : UIState) : B2BUIAction → Bool
  | .mfa (.totpCreateSuccess _ _ _ memberId organizationId) =>
      !state.mfaState.isEnrolling ||
        state.mfaState.primaryInfo.map PrimaryInfo.memberId ≠ some memberId ||
        state.mfaState.primaryInfo.map PrimaryInfo.organizationId ≠ some organizationId
  | _ => false

end B2BUIAction

/-! ## One action -/

section OneAction

variable (now : ℤ) (state : UIState) {action : B2BUIAction} {request : Request}

/-- A start sets the flag. -/
theorem isSubmitting_of_starts (h : action.starts = some request) :
    (GlobalReducer now state action).screenState.isSubmitting = true := by
  cases action with
  | errorClear => cases h
  | discovery a | deeplink a | mfa a | passwords a | magicLinks a | emailOTP a | oauth a | sso a
  | organization a | member a | authentication a | navigate a => cases a <;> first | rfl | cases h

theorem isSubmitting_primaryAuthenticateSuccess (response : AuthenticateResponseWithMFA)
    (includedMfaMethods : Option (List B2BMFAProducts)) (resetTokenType : Option String) :
    (primaryAuthenticateSuccess now state response includedMfaMethods
        resetTokenType).screenState.isSubmitting =
      (B2BUIAction.enrolls response resetTokenType && state.screenState.isSubmitting) := by
  unfold primaryAuthenticateSuccess B2BUIAction.enrolls
  cases response.memberSession with
  | true => rfl
  | false =>
    cases response.primaryRequired with
    | some required =>
      unfold primaryRequiredState
      dsimp only
      split_ifs <;> rfl
    | none =>
      dsimp only
      cases entryMethod response (primaryInfo response resetTokenType) with
      | none => rfl
      | some method => cases method <;> rfl

/-- An end clears the flag, unless it is one that leaves it. -/
theorem isSubmitting_of_completes (h : action.completes = some request) :
    (GlobalReducer now state action).screenState.isSubmitting =
      (action.leavesSubmitting && state.screenState.isSubmitting) := by
  cases action with
  | errorClear => cases h
  | mfa a =>
    cases a with
    | primaryAuthenticateSuccess response includedMfaMethods resetTokenType =>
      exact isSubmitting_primaryAuthenticateSuccess now state response _ resetTokenType
    | totpAuthenticateSuccess =>
      dsimp only [GlobalReducer, MFAReducer]
      split_ifs <;> rfl
    | _ => first | rfl | cases h
  | discovery a | deeplink a | passwords a | magicLinks a | emailOTP a | oauth a | sso a
  | organization a | member a | authentication a | navigate a => cases a <;> first | rfl | cases h

/-- Only a start sets the flag. -/
theorem starts_or_of_isSubmitting (action : B2BUIAction)
    (hs : (GlobalReducer now state action).screenState.isSubmitting = true) :
    action.starts.isSome = true ∨ state.screenState.isSubmitting = true := by
  cases action with
  | errorClear => exact Or.inr hs
  | mfa a =>
    cases a with
    | primaryAuthenticateSuccess response includedMfaMethods resetTokenType =>
      change (primaryAuthenticateSuccess now state response includedMfaMethods
        resetTokenType).screenState.isSubmitting = true at hs
      rw [isSubmitting_primaryAuthenticateSuccess, Bool.and_eq_true] at hs
      exact Or.inr hs.2
    | totpAuthenticateSuccess | totpCreate | totpCreateSuccess | totpShowCode =>
      dsimp only [GlobalReducer, MFAReducer] at hs
      split at hs <;> first | exact Or.inr hs | exact absurd hs Bool.false_ne_true
    | _ => first | exact Or.inr hs | exact Or.inl rfl | exact absurd hs Bool.false_ne_true
  | discovery a =>
    cases a with
    | selectDiscoveredOrganization organization =>
      dsimp only [GlobalReducer, UpdateDiscoveryStateReducer, selectDiscoveredOrganization] at hs
      split at hs <;> first | exact Or.inr hs
    | _ => first | exact Or.inr hs | exact Or.inl rfl | exact absurd hs Bool.false_ne_true
  | deeplink a | passwords a | magicLinks a | emailOTP a | oauth a | sso a | organization a
  | member a | authentication a | navigate a =>
    cases a <;> first | exact Or.inr hs | exact Or.inl rfl | exact absurd hs Bool.false_ne_true

/-- A creation that is started sets its flag. -/
theorem isCreating_totpCreate :
    (GlobalReducer now state (.mfa .totpCreate)).mfaState.totp.isCreating = true := by
  dsimp only [GlobalReducer, MFAReducer]
  split_ifs with h
  · exact h
  · rfl

theorem ofOtherMember_totpCreateSuccess (secret qrCode : String) (recoveryCodes : List String)
    (memberId organizationId : String) :
    B2BUIAction.ofOtherMember state
        (.mfa (.totpCreateSuccess secret qrCode recoveryCodes memberId organizationId)) = true ↔
      (!state.mfaState.isEnrolling) = true ∨
        state.mfaState.primaryInfo.map PrimaryInfo.memberId ≠ some memberId ∨
        state.mfaState.primaryInfo.map PrimaryInfo.organizationId ≠ some organizationId := by
  simp only [B2BUIAction.ofOtherMember, Bool.or_eq_true, decide_eq_true_eq, or_assoc]

/-- The end of a creation clears its flag, unless it belongs to another member. -/
theorem isCreating_of_completes (h : action.completesTotpCreate = true) :
    (GlobalReducer now state action).mfaState.totp.isCreating =
      (action.ofOtherMember state && state.mfaState.totp.isCreating) := by
  cases action with
  | mfa a =>
    cases a with
    | totpCreateError error => rfl
    | totpCreateSuccess secret qrCode recoveryCodes memberId organizationId =>
      have hg := ofOtherMember_totpCreateSuccess state secret qrCode recoveryCodes memberId
        organizationId
      dsimp only [GlobalReducer, MFAReducer]
      split_ifs with hc
      · rw [hg.2 hc, Bool.true_and]
      · rw [eq_false_of_ne_true fun ho => hc (hg.1 ho)]
        rfl
    | _ => cases h
  | _ => cases h

end OneAction

/-! ## Runs -/

/-- The state after the actions of a run, each with the time at which it is reduced. -/
def runActions (actions : List (ℤ × B2BUIAction)) : UIState :=
  actions.foldl (fun state entry => GlobalReducer entry.1 state entry.2) DEFAULT_UI_STATE

theorem runActions_concat (actions : List (ℤ × B2BUIAction)) (now : ℤ) (action : B2BUIAction) :
    runActions (actions ++ [(now, action)]) = GlobalReducer now (runActions actions) action := by
  rw [runActions, List.foldl_append]
  rfl

/-- A run in which a request was started. -/
def Started (request : Request) (actions : List (ℤ × B2BUIAction)) : Prop :=
  ∃ entry ∈ actions, entry.2.starts = some request

/-- A run in which a TOTP creation was started. -/
def TotpStarted (actions : List (ℤ × B2BUIAction)) : Prop :=
  ∃ now, (now, B2BUIAction.mfa .totpCreate) ∈ actions

/-- A form that is submitting has started a request. -/
theorem started_of_isSubmitting (actions : List (ℤ × B2BUIAction))
    (h : (runActions actions).screenState.isSubmitting = true) :
    ∃ request, Started request actions := by
  induction actions using List.reverseRecOn with
  | nil => cases h
  | append_singleton actions entry ih =>
    obtain ⟨now, action⟩ := entry
    rw [runActions_concat] at h
    rcases starts_or_of_isSubmitting now _ action h with hs | hs
    · obtain ⟨request, hr⟩ := Option.isSome_iff_exists.1 hs
      exact ⟨request, (now, action), List.mem_append_right _ List.mem_cons_self, hr⟩
    · obtain ⟨request, entry, hm, hr⟩ := ih hs
      exact ⟨request, entry, List.mem_append_left _ hm, hr⟩

/-- The next action of a run re-enables what the request it reports on had disabled. -/
structure Reenables (actions : List (ℤ × B2BUIAction)) (now : ℤ) (action : B2BUIAction) :
    Prop where
  /-- The end of a request that was started leaves a form that is not submitting. -/
  submitting : ∀ request, Started request actions → action.completes = some request →
    (GlobalReducer now (runActions actions) action).screenState.isSubmitting = false
  /-- The end of a TOTP creation that was started leaves none being created. -/
  creating : TotpStarted actions → action.completesTotpCreate = true →
    (GlobalReducer now (runActions actions) action).mfaState.totp.isCreating = false

/-- The condition on a run and its next action under which the end of a request re-enables the
form: no flag is on that the branch of the reducer leaves as it is. -/
structure NoFlagLeft (actions : List (ℤ × B2BUIAction)) (action : B2BUIAction) : Prop where
  submitting : ∀ request, Started request actions → action.completes = some request →
    action.leavesSubmitting = true → (runActions actions).screenState.isSubmitting = false
  creating : TotpStarted actions → action.completesTotpCreate = true →
    action.ofOtherMember (runActions actions) = true →
    (runActions actions).mfaState.totp.isCreating = false

/-- After every run the next action re-enables the form exactly when no flag is left. -/
theorem reenables_iff (actions : List (ℤ × B2BUIAction)) (now : ℤ) (action : B2BUIAction) :
    Reenables actions now action ↔ NoFlagLeft actions action := by
  constructor
  · intro h
    constructor
    · intro request hs hc hl
      have := h.submitting request hs hc
      rwa [isSubmitting_of_completes now _ hc, hl, Bool.true_and] at this
    · intro hs hc ho
      have := h.creating hs hc
      rwa [isCreating_of_completes now _ hc, ho, Bool.true_and] at this
  · intro h
    constructor
    · intro request hs hc
      rw [isSubmitting_of_completes now _ hc]
      cases hl : action.leavesSubmitting with
      | false => rfl
      | true => rw [h.submitting request hs hc hl]; rfl
    · intro hs hc
      rw [isCreating_of_completes now _ hc]
      cases ho : action.ofOtherMember (runActions actions) with
      | false => rfl
      | true => rw [h.creating hs hc ho]; rfl

/-- The form stays disabled after the check of the strength of a password. -/
theorem strengthCheck_leaves_submitting :
    ¬ Reenables [(0, .passwords .strengthCheck)] 1
      (.passwords (.strengthCheckSuccess .null)) := by
  intro h
  have := h.submitting .passwordsStrengthCheck
    ⟨(0, .passwords .strengthCheck), List.mem_cons_self, rfl⟩ rfl
  cases this

end StytchBrowser.ReactNative.B2B
