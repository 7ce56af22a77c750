import StytchBrowser.ReactNative.B2BUI.State

/-!
# The reducers of the React Native B2B screens

One inductive type for each group of actions and one reducer for each, under the names of the
source; `GlobalReducer` sends an action to its reducer. A payload that no reducer reads is left out.
`now` is the time of the clock when a reducer runs.
-/

namespace StytchBrowser.ReactNative.B2B

/-! ## Actions -/

/-- `member/..`. -/
inductive B2BUpdateMemberStateAction where
  | emailAddress (emailAddress : String) (isValid : Bool)
  | emailAddressDidFinish
  | phoneNumber (countryCode : String) (phoneNumber : Option String)
  | password (password : String)

/-- `discovery/..`. -/
inductive B2BUpdateDiscoveryStateAction where
  | setDiscoveredOrganizations (email : String)
      (discoveredOrganizations : List DiscoveredOrganization)
  | selectDiscoveredOrganization (organization : DiscoveredOrganization)
  | organizationsCreate
  | organizationsCreateSuccess
  | organizationsCreateError (error : Option ErrorResponse)
  | intermediateSessionsExchange
  | intermediateSessionsExchangeSuccess
  | intermediateSessionsExchangeError (error : Option ErrorResponse)

/-- `authentication/..`. -/
inductive B2BUpdateAuthenticationStateAction where
  | flowType (authFlowType : AuthFlowType)
  | methodId (methodId : String)
  | token (token : String)

/-- `navigate/..`. -/
inductive B2BNavigationAction where
  | goBack
  | to (screen : Screen) (error : Option ErrorResponse)
  | reset

/-- `deeplink/..`. -/
inductive B2BDeeplinkAction where
  | handlerRegistered
  | parse (url : String)
  | parseSuccess
  | parseError (error : Option ErrorResponse)
  | parseIgnored

/-- `mfa/..`. -/
inductive B2BMFAAction where
  | primaryAuthenticate
  | primaryAuthenticateSuccess (response : AuthenticateResponseWithMFA)
      (includedMfaMethods : Option (List B2BMFAProducts)) (resetTokenType : Option String)
  | recoveryCodeAuthenticate
  | recoveryCodeAuthenticateSuccess
  | recoveryCodeAuthenticateError (error : Option ErrorResponse)
  | recoveryCodeDownloadError (error : Option ErrorResponse)
  | recoveryCodeNavigateToEntry
  | recoveryCodeSaveAcknowledge
  | smsOtpAuthenticate
  | smsOtpAuthenticateSuccess
  | smsOtpAuthenticateError (error : Option ErrorResponse)
  | smsOtpNavigateToEntry
  | smsOtpSend
  | smsOtpSendSuccess (phoneNumber countryCode : String) (formattedPhoneNumber : Option String)
  | smsOtpSendError (error : Option ErrorResponse)
  | startEnrollment (method : B2BMFAProducts)
  | totpAuthenticate
  | totpAuthenticateSuccess
  | totpAuthenticateError (error : Option ErrorResponse)
  | totpCreate
  | totpCreateSuccess (secret qrCode : String) (recoveryCodes : List String)
      (memberId organizationId : String)
  | totpCreateError (error : Option ErrorResponse)
  | totpNavigateToEntry
  | totpShowCode (method : Option EnrollmentMethod)

/-- `passwords/..`. -/
inductive B2BPasswordAction where
  | strengthCheck
  | strengthCheckError (error : Option ErrorResponse)
  | strengthCheckSuccess (response : Json)
  | authenticateStart
  | authenticate
  | authenticateError (error : Option ErrorResponse)
  | authenticateSuccess
  | resetByEmailStart
  | resetByEmailStartError (error : Option ErrorResponse)
  | resetByEmailStartSuccess
  | resetByEmail
  | resetByEmailError (error : Option ErrorResponse)
  | resetByEmailSuccess
  | resetBySession
  | resetBySessionError (error : Option ErrorResponse)
  | resetBySessionSuccess
  | resetPassword (token tokenType : String)
  | resetPasswordSuccess
  | resetPasswordError (error : Option ErrorResponse)
  | discoveryResetByEmailStart
  | discoveryResetByEmailStartError (error : Option ErrorResponse)
  | discoveryResetByEmailStartSuccess
  | discoveryResetByEmail
  | discoveryResetByEmailError (error : Option ErrorResponse)
  | discoveryResetByEmailSuccess
  | discoveryAuthenticate
  | discoveryAuthenticateError (error : Option ErrorResponse)
  | discoveryAuthenticateSuccess

/-- `magicLinks/..`. -/
inductive B2BMagicLinksAction where
  | authenticate
  | authenticateSuccess
  | authenticateError (error : Option ErrorResponse)
  | discoveryAuthenticate
  | discoveryAuthenticateSuccess
  | discoveryAuthenticateError (error : Option ErrorResponse)
  | emailLoginOrSignup
  | emailLoginOrSignupSuccess
  | emailLoginOrSignupError (error : Option ErrorResponse)
  | emailDiscoverySend
  | emailDiscoverySendSuccess
  | emailDiscoverySendError (error : Option ErrorResponse)

/-- `emailOTP/..`. -/
inductive B2BEmailOTPAction where
  | authenticate
  | authenticateSuccess
  | authenticateError (error : Option ErrorResponse)
  | discoveryAuthenticate
  | discoveryAuthenticateSuccess
  | discoveryAuthenticateError (error : Option ErrorResponse)
  | emailLoginOrSignup
  | emailLoginOrSignupSuccess
  | emailLoginOrSignupError (error : Option ErrorResponse)
  | emailDiscoverySend
  | emailDiscoverySendSuccess
  | emailDiscoverySendError (error : Option ErrorResponse)

/-- `oauth/..`. -/
inductive B2BOAuthAction where
  | authenticate
  | authenticateSuccess
  | authenticateError (error : Option ErrorResponse)
  | discoveryAuthenticate
  | discoveryAuthenticateSuccess
  | discoveryAuthenticateError (error : Option ErrorResponse)
  | start
  | startSuccess
  | startError (error : Option ErrorResponse)

/-- `sso/..`. -/
inductive B2BSSOAction where
  | start
  | startSuccess
  | startError (error : Option ErrorResponse)
  | authenticate
  | authenticateSuccess
  | authenticateError (error : Option ErrorResponse)
  | discovery
  | discoverySuccess (connections : List Json)
  | discoveryError (error : Option ErrorResponse)

/-- `organization/..`. -/
inductive B2BOrganizationAction where
  | getBySlug
  | getBySlugSuccess (organization : Option Organization)
  | getBySlugError (error : Option ErrorResponse)

inductive B2BUIAction where
  | member (action : B2BUpdateMemberStateAction)
  | discovery (action : B2BUpdateDiscoveryStateAction)
  | authentication (action : B2BUpdateAuthenticationStateAction)
  /-- `error/clear`. -/
  | errorClear
  | navigate (action : B2BNavigationAction)
  | deeplink (action : B2BDeeplinkAction)
  | mfa (action : B2BMFAAction)
  | passwords (action : B2BPasswordAction)
  | magicLinks (action : B2BMagicLinksAction)
  | oauth (action : B2BOAuthAction)
  | sso (action : B2BSSOAction)
  | organization (action : B2BOrganizationAction)
  | emailOTP (action : B2BEmailOTPAction)

/-! ## The MFA reducer -/

def apiMfaMethodToProduct (method : String) : Option B2BMFAProducts :=
  if method = "totp" then some .totp else if method = "sms_otp" then some .smsOtp else none

/-- `getEnabledMethods`, the set being a list without repetitions. -/
def getEnabledMethods {α : Type} [DecidableEq α] (allMethods orgSupportedMethods : List α)
    (uiIncludedMethods : Option (List α)) : List α :=
  if orgSupportedMethods ≠ [] then orgSupportedMethods.dedup
  else
    match uiIncludedMethods with
    | some (method :: methods) => (method :: methods).dedup
    | _ => allMethods.dedup

/-- `getSmsOtpCodeExpiration`. -/
def getSmsOtpCodeExpiration (now : ℤ) : ℤ := now + 1000 * 60 * 2

/-- `postAuthScreen` of a primary authentication. -/
def postAuthScreen (resetTokenType : Option String) : Screen :=
  if resetTokenType = some "multi_tenant_magic_links" then .PasswordResetForm else .Success

/-- `primaryInfo` of a primary authentication. -/
def primaryInfo (response : AuthenticateResponseWithMFA) (resetTokenType : Option String) :
    PrimaryInfo where
  enrolledMfaMethods :=
    (if response.member.totpRegistrationId ≠ "" then [.totp] else []) ++
      (if response.member.mfaPhoneNumberVerified then [.smsOtp] else [])
  memberId := response.memberId
  memberPhoneNumber := response.member.mfaPhoneNumber
  organizationId := response.organization.organizationId
  organizationMfaOptionsSupported :=
    if response.organization.mfaMethods = "RESTRICTED" then
      (response.organization.allowedMfaMethods.getD []).filterMap apiMfaMethodToProduct
    else []
  postAuthScreen := postAuthScreen resetTokenType

def PrimaryInfo.organizationSupportsMethod (info : PrimaryInfo) (method : B2BMFAProducts) : Bool :=
  info.organizationMfaOptionsSupported.isEmpty ||
    info.organizationMfaOptionsSupported.contains method

/-- `getDefaultMethod`. -/
def PrimaryInfo.getDefaultMethod (info : PrimaryInfo) (defaultMfaMethod : String) :
    Option B2BMFAProducts :=
  (apiMfaMethodToProduct defaultMfaMethod).filter fun method =>
    info.organizationSupportsMethod method && info.enrolledMfaMethods.contains method

/-- The code was sent along with the response. -/
def smsImplicitlySent (response : AuthenticateResponseWithMFA) : Bool :=
  response.mfaRequired.join = some "sms_otp"

/-- `entryMethod`. -/
def entryMethod (response : AuthenticateResponseWithMFA) (info : PrimaryInfo) :
    Option B2BMFAProducts :=
  if smsImplicitlySent response then some .smsOtp
  else
    (info.getDefaultMethod response.member.defaultMfaMethod).or
      (info.enrolledMfaMethods.find? info.organizationSupportsMethod)

/-- `getNextEnrollmentScreen`. -/
def getNextEnrollmentScreen (enabledMethods : List B2BMFAProducts) : Screen :=
  if enabledMethods.length = 1 then
    if enabledMethods.contains .totp then .TOTPEnrollmentManual
    else if enabledMethods.contains .smsOtp then .SMSOTPEnrollment
    else .MFAEnrollmentSelection
  else .MFAEnrollmentSelection

/-- `mfa/primaryAuthenticate/success` where `primary_required` is set. -/
def primaryRequiredState (state : UIState) (response : AuthenticateResponseWithMFA)
    (required : PrimaryRequired) : UIState :=
  let newBaseState := ({ state with
    authenticationState := { state.authenticationState with
      authFlowType := .Organization
      organization := some response.organization }
    memberState.emailAddress.emailAddress := some response.member.emailAddress
    primaryAuthState := ⟨some required.allowedAuthMethods, some response.member.emailAddress,
      some response.member.emailAddressVerified⟩ } : UIState)
  if required.allowedAuthMethods = [] then
    (newBaseState.goTo .Error).submittedWith
      (some (withInternalError none "CannotJoinOrgDueToAuthPolicy"))
  else (newBaseState.goTo .Main).submitted

/-- `mfa/primaryAuthenticate/success`. -/
def primaryAuthenticateSuccess (now : ℤ) (state : UIState) (response : AuthenticateResponseWithMFA)
    (includedMfaMethods : Option (List B2BMFAProducts)) (resetTokenType : Option String) :
    UIState :=
  if response.memberSession then
    ({ state with
      mfaState := DEFAULT_MFA_STATE
      primaryAuthState := ⟨none, none, none⟩ }.goTo (postAuthScreen resetTokenType)).submitted
  else
    match response.primaryRequired with
    | some required => primaryRequiredState state response required
    | none =>
        let info := primaryInfo response resetTokenType
        let base := ({ state with
          mfaState := { DEFAULT_MFA_STATE with primaryInfo := some info }
          primaryAuthState := ⟨none, none, none⟩ } : UIState)
        match entryMethod response info with
        | some .smsOtp =>
            ({ base with
              mfaState.smsOtp.codeExpiration :=
                if smsImplicitlySent response then some (getSmsOtpCodeExpiration now)
                else none }.goTo .SMSOTPEntry).submitted
        | some .totp => (base.goTo .TOTPEntry).submitted
        | none =>
            -- the member has to enroll; `screenState` stays as it is
            { base with mfaState.isEnrolling := true }.goTo (getNextEnrollmentScreen
              (getEnabledMethods B2B_MFA_METHODS info.organizationMfaOptionsSupported
                includedMfaMethods))

/-- The screen after a second factor was checked. -/
def MfaState.postAuthScreen (mfaState : MfaState) : Screen :=
  (mfaState.primaryInfo.map PrimaryInfo.postAuthScreen).getD .Success

/-- The end of a second factor: the MFA state is reset. -/
def finishMfa (state : UIState) : UIState :=
  ({ state with mfaState := DEFAULT_MFA_STATE }.goTo state.mfaState.postAuthScreen).submitted

def MFAReducer (now : ℤ) (state : UIState) : B2BMFAAction → UIState
  | .primaryAuthenticate | .recoveryCodeAuthenticate | .smsOtpAuthenticate | .totpAuthenticate =>
      state.submitting
  | .primaryAuthenticateSuccess response includedMfaMethods resetTokenType =>
      primaryAuthenticateSuccess now state response includedMfaMethods resetTokenType
  | .recoveryCodeAuthenticateSuccess | .recoveryCodeSaveAcknowledge | .smsOtpAuthenticateSuccess =>
      finishMfa state
  | .recoveryCodeAuthenticateError error | .smsOtpAuthenticateError error
  | .totpAuthenticateError error => state.submittedWith error
  | .recoveryCodeNavigateToEntry => (state.goTo .RecoveryCodeEntry).submitted
  | .smsOtpNavigateToEntry => (state.goTo .SMSOTPEntry).submitted
  | .smsOtpSend =>
      { state with
        mfaState.smsOtp := { state.mfaState.smsOtp with isSending := true, sendError := none }
        screenState := { state.screenState with isSubmitting := true } }
  | .smsOtpSendSuccess phoneNumber countryCode formattedPhoneNumber =>
      ({ state with
        mfaState.smsOtp := {
          isSending := false
          sendError := none
          codeExpiration := some (getSmsOtpCodeExpiration now)
          formattedDestination :=
            formattedPhoneNumber.or state.mfaState.smsOtp.formattedDestination
          enrolledNumber :=
            if phoneNumber ≠ "" then some ⟨some phoneNumber, countryCode⟩ else none } }.goTo
        .SMSOTPEntry).submitted
  | .smsOtpSendError error =>
      { state with
        mfaState.smsOtp := { state.mfaState.smsOtp with
          isSending := false
          sendError := error
          codeExpiration := state.mfaState.smsOtp.codeExpiration.or (some (now - 1000)) } }.submitted
  | .startEnrollment method =>
      (state.goTo (if method = .smsOtp then .SMSOTPEnrollment else .TOTPEnrollmentManual)).submitted
  | .totpAuthenticateSuccess =>
      if state.mfaState.isEnrolling then (state.goTo .RecoveryCodeSave).submitted
      else finishMfa state
  | .totpCreate =>
      if state.mfaState.totp.isCreating then state
      else
        { state with
          mfaState.totp := { state.mfaState.totp with isCreating := true, createError := none } }
  | .totpCreateSuccess secret qrCode recoveryCodes memberId organizationId =>
      if !state.mfaState.isEnrolling ∨
          state.mfaState.primaryInfo.map PrimaryInfo.memberId ≠ some memberId ∨
          state.mfaState.primaryInfo.map PrimaryInfo.organizationId ≠ some organizationId then state
      else
        { state with
          mfaState.totp := {
            createError := none
            isCreating := false
            enrollment := some { secret, qrCode, recoveryCodes, method :=
              (state.mfaState.totp.enrollment.map TotpEnrollment.method).getD .qr } } }.submitted
  | .totpCreateError error =>
      { state with
        mfaState.totp := { state.mfaState.totp with
          isCreating := false
          createError := error } }.submitted
  | .totpNavigateToEntry => state.goTo .TOTPEntry
  | .totpShowCode method =>
      match state.mfaState.isEnrolling, state.mfaState.totp.enrollment with
      | true, some enrollment =>
          { state with
            mfaState.totp.enrollment := some { enrollment with
              method := method.getD enrollment.method } }.goTo .TOTPEnrollmentManual
      | _, _ => state
  | .recoveryCodeDownloadError error => state.withError error

/-! ## The other reducers -/

def UpdateMemberStateReducer (state : UIState) : B2BUpdateMemberStateAction → UIState
  | .emailAddress emailAddress isValid =>
      { state with
        memberState.emailAddress := { state.memberState.emailAddress with
          emailAddress := some emailAddress
          isValid := some isValid } }.withError none
  | .emailAddressDidFinish => { state with memberState.emailAddress.didFinish := true }
  | .phoneNumber countryCode phoneNumber =>
      { state with
        mfaState.smsOtp.enrolledNumber := some { countryCode, phoneNumber } }.withError none
  | .password password =>
      { state with memberState.password.password := some password }.withError none

/-- `discovery/selectDiscoveredOrganization`. -/
def selectDiscoveredOrganization (state : UIState) (discovered : DiscoveredOrganization) :
    UIState :=
  let primaryAuthMethods := discovered.primaryRequired.map PrimaryRequired.allowedAuthMethods
  let newBaseState := ({ state with
    authenticationState := { state.authenticationState with
      authFlowType := .Organization
      organization := some discovered.organization }
    primaryAuthState := {
      primaryAuthMethods
      email := (discovered.member.map Prod.fst).or state.memberState.emailAddress.emailAddress
      emailVerified := discovered.member.map Prod.snd }
    screen := .Main } : UIState)
  if primaryAuthMethods = some [] then
    { newBaseState with
      screen := .Error
      history := state.history ++ [state.screen] }.withError
      (some (withInternalError none "CannotJoinOrgDueToAuthPolicy"))
  else newBaseState

/-- The error that a failed creation or exchange shows. -/
def discoveryError (error : Option ErrorResponse) : Option ErrorResponse :=
  if error.bind ErrorResponse.apiError = some "action_not_allowed_email_domain_is_claimed" then
    some (withInternalError error "OrganizationDiscoveryClaimedDomain")
  else error

def UpdateDiscoveryStateReducer (state : UIState) : B2BUpdateDiscoveryStateAction → UIState
  | .organizationsCreate | .intermediateSessionsExchange => state.submitting
  | .setDiscoveredOrganizations email discoveredOrganizations =>
      { state with discoveryState := { email, discoveredOrganizations }, screen := .Discovery }
  | .selectDiscoveredOrganization organization => selectDiscoveredOrganization state organization
  | .intermediateSessionsExchangeSuccess | .organizationsCreateSuccess => state.submitted
  | .intermediateSessionsExchangeError error | .organizationsCreateError error =>
      (state.submittedWith (discoveryError error)).goTo .Error

def UpdateAuthenticationStateReducer (state : UIState) :
    B2BUpdateAuthenticationStateAction → UIState
  | .methodId methodId =>
      { state with authenticationState.methodId := some methodId }.withError none
  | .token token => { state with authenticationState.token := some token }.withError none
  | .flowType authFlowType => { state with authenticationState.authFlowType := authFlowType }

/-- `error/clear`. -/
def UpdateScreenStateReducer (state : UIState) : UIState := state.withError none

def NavigationReducer (state : UIState) : B2BNavigationAction → UIState
  | .goBack =>
      { state with
        screen := state.history.getLast?.getD .Main
        history := state.history.dropLast }.withError none
  | .to screen error => (state.goTo screen).withError error
  | .reset =>
      { state with
        history := []
        screen := .Main
        screenState := DEFAULT_UI_STATE.screenState
        memberState := DEFAULT_UI_STATE.memberState
        discoveryState := DEFAULT_UI_STATE.discoveryState
        primaryAuthState := DEFAULT_UI_STATE.primaryAuthState
        ssoConnections := DEFAULT_UI_STATE.ssoConnections }

def DeeplinkReducer (state : UIState) : B2BDeeplinkAction → UIState
  | .handlerRegistered => { state with deeplinkState.handlerRegistered := true }
  | .parse url =>
      { state with
        screenState := { state.screenState with isSubmitting := true }
        deeplinkState := { state.deeplinkState with
          isParsingDeeplink := true
          deeplinksHandled := state.deeplinkState.deeplinksHandled ++ [url] } }
  | .parseIgnored | .parseSuccess =>
      { state with deeplinkState.isParsingDeeplink := false }.submitted
  | .parseError error =>
      { state with deeplinkState.isParsingDeeplink := false }.submittedWith error

def PasswordStateReducer (state : UIState) : B2BPasswordAction → UIState
  | .strengthCheck | .authenticate | .resetByEmail | .resetByEmailStart | .resetBySession
  | .discoveryResetByEmailStart | .discoveryResetByEmail | .discoveryAuthenticate =>
      state.submitting
  | .authenticateStart => (state.goTo .PasswordAuthenticate).submitted
  | .authenticateSuccess | .resetByEmailSuccess | .resetByEmailStartSuccess | .resetPasswordSuccess
  | .discoveryResetByEmailSuccess | .discoveryAuthenticateSuccess => state.submitted
  | .resetPassword token tokenType =>
      ({ state with
        authenticationState := { state.authenticationState with
          token := some token
          tokenType := some tokenType } }.goTo .PasswordResetForm).submitted
  | .resetBySessionSuccess => (state.goTo .Success).submitted
  | .strengthCheckSuccess response =>
      { state with memberState.password.passwordStrengthCheckResponse := some response }
  | .strengthCheckError error | .authenticateError error | .resetByEmailError error
  | .resetByEmailStartError error | .resetBySessionError error | .resetPasswordError error
  | .discoveryResetByEmailStartError error | .discoveryResetByEmailError error
  | .discoveryAuthenticateError error => state.submittedWith error
  | .discoveryResetByEmailStartSuccess => (state.goTo .PasswordSetNewConfirmation).submitted

def MagicLinksReducer (state : UIState) : B2BMagicLinksAction → UIState
  | .authenticate | .discoveryAuthenticate | .emailLoginOrSignup | .emailDiscoverySend =>
      state.submitting
  | .authenticateSuccess | .discoveryAuthenticateSuccess => state.submittedWith none
  | .emailDiscoverySendSuccess | .emailLoginOrSignupSuccess =>
      (state.goTo .EmailConfirmation).submitted
  | .authenticateError error =>
      (state.goTo .Error).submittedWith (some (withInternalError error "EmailMagicLink"))
  | .discoveryAuthenticateError error =>
      (state.goTo .Error).submittedWith (some (withInternalError error "DiscoveryEmailMagicLink"))
  | .emailLoginOrSignupError error | .emailDiscoverySendError error => state.submittedWith error

def EmailOTPReducer (state : UIState) : B2BEmailOTPAction → UIState
  | .authenticate | .discoveryAuthenticate | .emailLoginOrSignup | .emailDiscoverySend =>
      state.submitting
  | .authenticateSuccess | .discoveryAuthenticateSuccess => state.submittedWith none
  | .emailDiscoverySendSuccess | .emailLoginOrSignupSuccess => (state.goTo .EmailOTPEntry).submitted
  | .authenticateError error | .discoveryAuthenticateError error | .emailLoginOrSignupError error
  | .emailDiscoverySendError error => state.submittedWith error

def OAuthReducer (state : UIState) : B2BOAuthAction → UIState
  | .start | .authenticate | .discoveryAuthenticate => state.submitting
  | .startSuccess | .authenticateSuccess | .discoveryAuthenticateSuccess => state.submittedWith none
  | .startError error | .authenticateError error | .discoveryAuthenticateError error =>
      state.submittedWith error

def SSOReducer (state : UIState) : B2BSSOAction → UIState
  | .start | .authenticate | .discovery => state.submitting
  | .startSuccess | .authenticateSuccess => state.submittedWith none
  | .startError error | .authenticateError error | .discoveryError error =>
      state.submittedWith error
  | .discoverySuccess connections =>
      ({ state with ssoConnections := connections }.goTo
        (if connections = [] then .SSODiscoveryFallback else .SSODiscoveryMenu)).submittedWith none

def OrganizationReducer (state : UIState) : B2BOrganizationAction → UIState
  | .getBySlug => state.submitting
  | .getBySlugSuccess organization =>
      { state with
        authenticationState := { state.authenticationState with
          authFlowType := .Organization
          organization } }.submitted
  | .getBySlugError error => state.submittedWith error

/-- `GlobalReducer`. -/
def GlobalReducer (now : ℤ) (state : UIState) : B2BUIAction → UIState
  | .member action => UpdateMemberStateReducer state action
  | .discovery action => UpdateDiscoveryStateReducer state action
  | .authentication action => UpdateAuthenticationStateReducer state action
  | .errorClear => UpdateScreenStateReducer state
  | .navigate action => NavigationReducer state action
  | .deeplink action => DeeplinkReducer state action
  | .mfa action => MFAReducer now state action
  | .passwords action => PasswordStateReducer state action
  | .magicLinks action => MagicLinksReducer state action
  | .oauth action => OAuthReducer state action
  | .sso action => SSOReducer state action
  | .organization action => OrganizationReducer state action
  | .emailOTP action => EmailOTPReducer state action

/-! ## The deeplink state

Only the actions of its own group change it: a flow that starts over, a step back and the end of an
authentication leave it as it is.
-/

section DeeplinkState

variable (now : ℤ) (state : UIState)

theorem primaryAuthenticateSuccess_deeplinkState (response : AuthenticateResponseWithMFA)
    (includedMfaMethods : Option (List B2BMFAProducts)) (resetTokenType : Option String) :
    (primaryAuthenticateSuccess now state response includedMfaMethods resetTokenType).deeplinkState =
      state.deeplinkState := by
  unfold primaryAuthenticateSuccess
  split
  · rfl
  · split
    · unfold primaryRequiredState
      dsimp only
      split <;> rfl
    · dsimp only
      split <;> rfl

theorem MFAReducer_deeplinkState (action : B2BMFAAction) :
    (MFAReducer now state action).deeplinkState = state.deeplinkState := by
  cases action with
  | primaryAuthenticateSuccess response includedMfaMethods resetTokenType =>
    exact primaryAuthenticateSuccess_deeplinkState now state _ _ _
  | totpAuthenticateSuccess | totpCreate | totpCreateSuccess | totpShowCode =>
    dsimp only [MFAReducer]
    split <;> rfl
  | _ => rfl

theorem UpdateDiscoveryStateReducer_deeplinkState (action : B2BUpdateDiscoveryStateAction) :
    (UpdateDiscoveryStateReducer state action).deeplinkState = state.deeplinkState := by
  cases action with
  | selectDiscoveredOrganization =>
    unfold UpdateDiscoveryStateReducer selectDiscoveredOrganization
    dsimp only
    split <;> rfl
  | _ => rfl

theorem GlobalReducer_deeplinkState {action : B2BUIAction} (h : ∀ a, action ≠ .deeplink a) :
    (GlobalReducer now state action).deeplinkState = state.deeplinkState := by
  cases action with
  | deeplink a => exact absurd rfl (h a)
  | mfa a => exact MFAReducer_deeplinkState now state a
  | discovery a => exact UpdateDiscoveryStateReducer_deeplinkState state a
  | errorClear => rfl
  | member a | authentication a | navigate a | passwords a | magicLinks a | oauth a | sso a
  | organization a | emailOTP a => cases a <;> rfl

end DeeplinkState

end StytchBrowser.ReactNative.B2B
