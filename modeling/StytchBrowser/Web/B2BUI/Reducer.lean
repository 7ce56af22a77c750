import StytchBrowser.Web.B2BUI.AppState

/-!
# The reducer of the web B2B screens

`reducer` and `mfaReducer`. A payload that the reducer does not read is left out. `now` is the time of
the clock when the reducer runs.
-/

namespace StytchBrowser.Web.B2B

open ReactNative.B2B (AuthenticateResponseWithMFA B2BMFAProducts DiscoveredOrganization
  EnrollmentMethod Organization PrimaryAuthState PrimaryRequired TotpEnrollment)

/-! ## Actions -/

/-- The number an SMS was sent to. -/
structure SmsDestination where
  phoneNumber : String
  countryCode : String
  formattedPhoneNumber : String

inductive MfaAction where
  | primaryAuthenticateSuccess (response : AuthenticateResponseWithMFA)
      (includedMfaMethods : Option (List B2BMFAProducts)) (resetTokenType : Option String)
  | recoveryCodeAuthenticateSuccess
  | recoveryCodeSaveAcknowledge
  | smsOtpAuthenticateSuccess
  | smsOtpSend
  | smsOtpSendSuccess (destination : Option SmsDestination)
  | smsOtpSendError (error : Option Json)
  | smsOtpFormatDestination (formattedPhoneNumber : String)
  | totpAuthenticateSuccess
  | totpCreateSuccess (secret qrCode : String) (recoveryCodes : List String)
      (memberId organizationId : String)
  | totpShowCode (method : Option EnrollmentMethod)

/-- `Action`; `push` of a transition is `history: 'push'`. -/
inductive Action where
  | transition (screen : AppScreens) (push : Bool)
  | navigateBack
  | setErrorMessageAndTransition (errorType : ErrorType) (canGoBack : Bool)
  | setUserSuppliedEmail (email : String)
  | setOrganization (organization : Organization)
  | setPasswordState (email : String)
  | setDiscoveryState (email : String) (discoveredOrganizations : List DiscoveredOrganization)
  | selectDiscoveredOrganization (discoveredOrganization : DiscoveredOrganization)
  | sendEmailOtp (codeExpiration : ℤ)
  | setSsoDiscoveryState (connections : List Json)
  | usePasswordAuth (email : String)
  | mfa (action : MfaAction)

/-! ## The MFA reducer -/

def apiMfaMethodToProduct (method : String) : Option B2BMFAProducts :=
  if method = "totp" then some .totp
  else if method = "sms_otp" then some .smsOtp
  else none

def B2B_MFA_METHODS : List B2BMFAProducts := [.totp, .smsOtp]

/-- `getEnabledMethods`, the set being a list without repetitions. -/
def getEnabledMethods {α : Type} [DecidableEq α] (allMethods orgSupportedMethods : List α)
    (uiIncludedMethods : Option (List α)) : List α :=
  if orgSupportedMethods.length ≠ 0 then orgSupportedMethods.dedup
  else if (uiIncludedMethods.getD []).length ≠ 0 then (uiIncludedMethods.getD []).dedup
  else allMethods.dedup

def getNextEnrollmentScreen (enabledMethods : List B2BMFAProducts) : AppScreens :=
  if enabledMethods.length = 1 then
    if .totp ∈ enabledMethods then .TOTPEnrollmentQRCode
    else if .smsOtp ∈ enabledMethods then .SMSOTPEnrollment
    else .MFAEnrollmentSelection
  else .MFAEnrollmentSelection

/-- `getSmsOtpCodeExpiration`. -/
def getSmsOtpCodeExpiration (now : ℤ) : ℤ := now + 1000 * 60 * 2

/-- `postAuthScreen` of a primary authentication. -/
def postAuthScreen (resetTokenType : Option String) : AppScreens :=
  if resetTokenType = some "multi_tenant_magic_links" then .PasswordResetForm else .LoggedIn

/-- `primaryInfo` of a primary authentication. -/
def primaryInfo (response : AuthenticateResponseWithMFA) (resetTokenType : Option String) :
    PrimaryInfo where
  enrolledMfaMethods :=
    (if response.member.totpRegistrationId ≠ "" then [.totp] else []) ++
      (if response.member.mfaPhoneNumberVerified then [.smsOtp] else [])
  memberId := response.memberId
  memberPhoneNumber := response.member.mfaPhoneNumber
  organizationId := response.organization.organizationId
  organizationMfaOptionsSupported :=
    if response.organization.mfaMethods = "RESTRICTED" then
      (response.organization.allowedMfaMethods.map (·.filterMap apiMfaMethodToProduct)).getD []
    else []
  postAuthScreen := postAuthScreen resetTokenType

def PrimaryInfo.organizationSupportsMethod (info : PrimaryInfo) (method : B2BMFAProducts) : Bool :=
  info.organizationMfaOptionsSupported.length = 0 || method ∈ info.organizationMfaOptionsSupported

/-- `getDefaultMethod`. -/
def PrimaryInfo.getDefaultMethod (info : PrimaryInfo) (defaultMfaMethod : String) :
    Option B2BMFAProducts :=
  match apiMfaMethodToProduct defaultMfaMethod with
  | some defaultMethod =>
      if info.organizationSupportsMethod defaultMethod ∧ defaultMethod ∈ info.enrolledMfaMethods then
        some defaultMethod
      else none
  | none => none

/-- `smsImplicitlySent`. -/
def smsImplicitlySent (response : AuthenticateResponseWithMFA) : Bool :=
  response.mfaRequired.join = some "sms_otp"

/-- `entryMethod`. -/
def entryMethod (response : AuthenticateResponseWithMFA) (info : PrimaryInfo) :
    Option B2BMFAProducts :=
  if smsImplicitlySent response then some .smsOtp
  else
    match info.getDefaultMethod response.member.defaultMfaMethod with
    | some method => some method
    | none => info.enrolledMfaMethods.find? info.organizationSupportsMethod

/-- `primary_authenticate_success` where `primary_required` is set. -/
def primaryRequiredState (state : AppState) (response : AuthenticateResponseWithMFA)
    (required : PrimaryRequired) : AppState :=
  let newBaseState := ({ state with
    flowState := ⟨.Organization, some response.organization⟩
    formState.passwordEmail := response.member.emailAddress
    primary := ⟨some required.allowedAuthMethods, some response.member.emailAddress,
      some response.member.emailAddressVerified⟩ } : AppState)
  if required.allowedAuthMethods.length = 0 then
    replaceHistory .Error { newBaseState with error := ⟨.CannotJoinOrgDueToAuthPolicy, false⟩ }
  else replaceHistory .Main newBaseState

/-- `primary_authenticate_success`. -/
def primaryAuthenticateSuccess (now : ℤ) (state : AppState) (response : AuthenticateResponseWithMFA)
    (includedMfaMethods : Option (List B2BMFAProducts)) (resetTokenType : Option String) :
    AppState :=
  if response.memberSession then
    replaceHistory (postAuthScreen resetTokenType)
      { state with mfa := DEFAULT_MFA_STATE, primary := ⟨none, none, none⟩ }
  else
    match response.primaryRequired with
    | some required => primaryRequiredState state response required
    | none =>
        let info := primaryInfo response resetTokenType
        let base := ({ state with
          mfa := { DEFAULT_MFA_STATE with primaryInfo := some info }
          primary := ⟨none, none, none⟩ } : AppState)
        match entryMethod response info with
        | some .totp => replaceHistory .TOTPEntry base
        | some .smsOtp =>
            let nextState := { base with
              mfa.smsOtp.codeExpiration :=
                if smsImplicitlySent response then some (getSmsOtpCodeExpiration now) else none }
            if response.member.mfaPhoneNumberVerified then replaceHistory .SMSOTPEntry nextState
            -- a number that is not verified can be changed by going back to enrollment
            else { nextState with screen := .SMSOTPEntry, screenHistory := [.SMSOTPEnrollment] }
        | none =>
            replaceHistory (getNextEnrollmentScreen (getEnabledMethods B2B_MFA_METHODS
                info.organizationMfaOptionsSupported includedMfaMethods))
              { base with mfa.isEnrolling := true }

/-- `state.mfa.primaryInfo?.postAuthScreen ?? AppScreens.LoggedIn`. -/
def MfaState.postAuthScreen (mfa : MfaState) : AppScreens :=
  (mfa.primaryInfo.map PrimaryInfo.postAuthScreen).getD .LoggedIn

/-- The code that `totp/show_code` shows. -/
def shownMethod (enrollment : TotpEnrollment) (method : Option EnrollmentMethod) :
    EnrollmentMethod :=
  method.getD enrollment.method

def shownScreen (method : EnrollmentMethod) : AppScreens :=
  if method = .manual then .TOTPEnrollmentManual else .TOTPEnrollmentQRCode

def mfaReducer (now : ℤ) (state : AppState) : MfaAction → AppState
  | .primaryAuthenticateSuccess response includedMfaMethods resetTokenType =>
      primaryAuthenticateSuccess now state response includedMfaMethods resetTokenType
  | .smsOtpSend =>
      { state with mfa.smsOtp := { state.mfa.smsOtp with isSending := true, sendError := none } }
  | .smsOtpSendSuccess destination =>
      pushHistory .SMSOTPEntry { state with
        mfa.smsOtp := {
          isSending := false
          sendError := none
          codeExpiration := some (getSmsOtpCodeExpiration now)
          formattedDestination := (destination.map SmsDestination.formattedPhoneNumber).or
            state.mfa.smsOtp.formattedDestination
          enrolledNumber := (destination.filter (·.phoneNumber ≠ "")).map fun d =>
            ⟨d.phoneNumber, d.countryCode⟩ } }
  | .smsOtpSendError error =>
      { state with
        mfa.smsOtp := { state.mfa.smsOtp with
          isSending := false
          sendError := error
          codeExpiration := state.mfa.smsOtp.codeExpiration.or (some (now - 1000)) } }
  | .smsOtpFormatDestination formattedPhoneNumber =>
      { state with mfa.smsOtp.formattedDestination := some formattedPhoneNumber }
  | .smsOtpAuthenticateSuccess | .recoveryCodeAuthenticateSuccess | .recoveryCodeSaveAcknowledge =>
      replaceHistory state.mfa.postAuthScreen { state with mfa := DEFAULT_MFA_STATE }
  | .totpAuthenticateSuccess =>
      replaceHistory
        (if state.mfa.isEnrolling then .RecoveryCodeSave else state.mfa.postAuthScreen)
        { state with mfa := if state.mfa.isEnrolling then state.mfa else DEFAULT_MFA_STATE }
  | .totpCreateSuccess secret qrCode recoveryCodes memberId organizationId =>
      if !state.mfa.isEnrolling ∨
          state.mfa.primaryInfo.map PrimaryInfo.memberId ≠ some memberId ∨
          state.mfa.primaryInfo.map PrimaryInfo.organizationId ≠ some organizationId then state
      else
        { state with
          mfa.totpEnrollment := some { secret, qrCode, recoveryCodes, method :=
            (state.mfa.totpEnrollment.map TotpEnrollment.method).getD .qr } }
  | .totpShowCode method =>
      match state.mfa.isEnrolling, state.mfa.totpEnrollment with
      | true, some enrollment =>
          pushHistory (shownScreen (shownMethod enrollment method)) { state with
            mfa.totpEnrollment := some { enrollment with
              method := shownMethod enrollment method } }
      | _, _ => state

/-! ## The reducer -/

/-- `select_discovered_organization`. -/
def selectDiscoveredOrganization (state : AppState) (discovered : DiscoveredOrganization) :
    AppState :=
  let email := (discovered.member.map Prod.fst).getD state.formState.discoveryState.email
  let primaryAuthMethods := discovered.primaryRequired.map PrimaryRequired.allowedAuthMethods
  let newBaseState := ({ state with
    flowState := ⟨.Organization, some discovered.organization⟩
    formState.passwordEmail := email
    primary := ⟨primaryAuthMethods, some email, discovered.member.map Prod.snd⟩
    screen := .Main } : AppState)
  if primaryAuthMethods.map List.length = some 0 then
    { newBaseState with screen := .Error, error := ⟨.CannotJoinOrgDueToAuthPolicy, true⟩ }
  else newBaseState

def reducer (now : ℤ) (state : AppState) : Action → AppState
  | .transition screen push =>
      if push then pushHistory screen state else replaceHistory screen state
  | .navigateBack => navigateBack state
  | .setErrorMessageAndTransition errorType canGoBack =>
      { state with screen := .Error, error := ⟨errorType, canGoBack⟩ }
  | .setUserSuppliedEmail email =>
      { state with
        formState := { state.formState with userSuppliedEmail := email, passwordEmail := email } }
  | .setOrganization organization =>
      { state with flowState := ⟨.Organization, some organization⟩ }
  | .setDiscoveryState email discoveredOrganizations =>
      { state with
        formState.discoveryState := ⟨email, discoveredOrganizations⟩
        screen := .Discovery }
  | .selectDiscoveredOrganization discovered => selectDiscoveredOrganization state discovered
  | .setPasswordState email => { state with formState.passwordEmail := email }
  | .sendEmailOtp codeExpiration =>
      pushHistory .EmailOTPEntry
        { state with formState.otpCodeExpiration := some codeExpiration }
  | .setSsoDiscoveryState connections =>
      if connections.length = 0 then pushHistory .SSODiscoveryFallback state
      else
        pushHistory .SSODiscoveryMenu { state with formState.ssoConnections := connections }
  | .usePasswordAuth email =>
      pushHistory .PasswordAuthenticate { state with formState.passwordEmail := email }
  | .mfa action => mfaReducer now state action

end StytchBrowser.Web.B2B
