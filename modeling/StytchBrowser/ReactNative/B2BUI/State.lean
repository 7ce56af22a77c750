import Mathlib.Data.List.Dedup
import StytchBrowser.JsUtils.Json

/-!
# The state of the React Native B2B screens

`UIState` and the parts it is made of. What the reducers only store is kept as `Json`, and of the
responses of the API they have the fields that they read. Times are in milliseconds.
-/

namespace StytchBrowser.ReactNative.B2B

/-- `Screen`. -/
inductive Screen where
  | Main
  | EmailConfirmation
  | Success
  | Discovery
  | Error
  | PasswordAuthenticate
  | PasswordResetForm
  | PasswordResetVerifyConfirmation
  | PasswordForgotForm
  | PasswordSetNew
  | PasswordSetNewConfirmation
  | MFAEnrollmentSelection
  | RecoveryCodeEntry
  | RecoveryCodeSave
  | SMSOTPEnrollment
  | SMSOTPEntry
  | TOTPEnrollmentManual
  | TOTPEntry
  | EmailOTPEntry
  | EmailMethodSelection
  | SSODiscoveryEmail
  | SSODiscoveryFallback
  | SSODiscoveryMenu
  deriving DecidableEq

inductive AuthFlowType where
  | Discovery
  | Organization
  | PasswordReset
  deriving DecidableEq

inductive B2BMFAProducts where
  | smsOtp
  | totp
  deriving DecidableEq

def B2B_MFA_METHODS : List B2BMFAProducts := [.totp, .smsOtp]

/-- What `qr` and `manual` stand for. -/
inductive EnrollmentMethod where
  | qr
  | manual
  deriving DecidableEq

/-! ## Errors -/

structure ErrorResponse where
  sdkError : Option String
  /-- The `error_type` of the API error. -/
  apiError : Option String
  internalError : Option String
  deriving DecidableEq

/-- `{ ...error, internalError }`. -/
def withInternalError (error : Option ErrorResponse) (internalError : String) : ErrorResponse :=
  { error.getD ⟨none, none, none⟩ with internalError := some internalError }

/-! ## What the API answers with -/

/-- An organization, with the fields that the reducers read. -/
structure Organization where
  organizationId : String
  mfaMethods : String
  allowedMfaMethods : Option (List String)
  deriving DecidableEq

structure PrimaryRequired where
  allowedAuthMethods : List String

/-- The member of a response. -/
structure Member where
  emailAddress : String
  emailAddressVerified : Bool
  mfaPhoneNumber : String
  mfaPhoneNumberVerified : Bool
  totpRegistrationId : String
  defaultMfaMethod : String

/-- `B2BAuthenticateResponseWithMFA`. -/
structure AuthenticateResponseWithMFA where
  memberId : String
  member : Member
  organization : Organization
  /-- There is a `member_session`. -/
  memberSession : Bool
  primaryRequired : Option PrimaryRequired
  /-- `mfa_required`, with its `secondary_auth_initiated`. -/
  mfaRequired : Option (Option String)

/-- `DiscoveredOrganization`, with the email address of the member of its membership. -/
structure DiscoveredOrganization where
  member : Option (String × Bool)
  organization : Organization
  primaryRequired : Option PrimaryRequired

/-! ## The state -/

structure ScreenState where
  isSubmitting : Bool
  error : Option ErrorResponse

structure EmailAddressState where
  emailAddress : Option String
  isValid : Option Bool
  didFinish : Bool

structure PasswordState where
  password : Option String
  passwordStrengthCheckResponse : Option Json

structure MemberState where
  emailAddress : EmailAddressState
  password : PasswordState

structure AuthenticationState where
  authFlowType : AuthFlowType
  methodId : Option String
  token : Option String
  tokenType : Option String
  organization : Option Organization

structure DiscoveryState where
  email : String
  discoveredOrganizations : List DiscoveredOrganization

structure PrimaryInfo where
  enrolledMfaMethods : List B2BMFAProducts
  memberId : String
  memberPhoneNumber : String
  organizationId : String
  organizationMfaOptionsSupported : List B2BMFAProducts
  postAuthScreen : Screen
  deriving DecidableEq

structure EnrolledNumber where
  phoneNumber : Option String
  countryCode : String

structure SmsOtpState where
  isSending : Bool
  sendError : Option ErrorResponse
  codeExpiration : Option ℤ
  formattedDestination : Option String
  enrolledNumber : Option EnrolledNumber

structure TotpEnrollment where
  secret : String
  qrCode : String
  recoveryCodes : List String
  method : EnrollmentMethod

structure TotpState where
  isCreating : Bool
  createError : Option ErrorResponse
  enrollment : Option TotpEnrollment

structure MfaState where
  primaryInfo : Option PrimaryInfo
  isEnrolling : Bool
  smsOtp : SmsOtpState
  totp : TotpState

def DEFAULT_MFA_STATE : MfaState where
  primaryInfo := none
  isEnrolling := false
  smsOtp := ⟨false, none, none, none, some ⟨none, "+1"⟩⟩
  totp := ⟨false, none, none⟩

structure PrimaryAuthState where
  primaryAuthMethods : Option (List String)
  email : Option String
  emailVerified : Option Bool

structure DeeplinkState where
  handlerRegistered : Bool
  isParsingDeeplink : Bool
  deeplinksHandled : List String
  deriving DecidableEq

structure UIState where
  screen : Screen
  history : List Screen
  screenState : ScreenState
  memberState : MemberState
  discoveryState : DiscoveryState
  authenticationState : AuthenticationState
  mfaState : MfaState
  primaryAuthState : PrimaryAuthState
  deeplinkState : DeeplinkState
  /-- The connections of `ssoDiscoveryState`. -/
  ssoConnections : List Json

def DEFAULT_UI_STATE : UIState where
  history := []
  screen := .Main
  screenState := ⟨false, none⟩
  memberState := ⟨⟨none, none, false⟩, ⟨none, none⟩⟩
  discoveryState := ⟨"", []⟩
  authenticationState := ⟨.Organization, none, none, none, none⟩
  mfaState := DEFAULT_MFA_STATE
  primaryAuthState := ⟨none, none, none⟩
  deeplinkState := ⟨false, false, []⟩
  ssoConnections := []

namespace UIState

/-- `{ ...state.screenState, isSubmitting: true, error: undefined }`. -/
def submitting (state : UIState) : UIState := { state with screenState := ⟨true, none⟩ }

/-- `{ ...state.screenState, isSubmitting: false }`. -/
def submitted (state : UIState) : UIState :=
  { state with screenState := { state.screenState with isSubmitting := false } }

/-- `{ ...state.screenState, isSubmitting: false, error }`. -/
def submittedWith (state : UIState) (error : Option ErrorResponse) : UIState :=
  { state with screenState := ⟨false, error⟩ }

/-- `{ ...state.screenState, error }`. -/
def withError (state : UIState) (error : Option ErrorResponse) : UIState :=
  { state with screenState := { state.screenState with error } }

/-- The state on another screen, the last one being added to the history. -/
def goTo (state : UIState) (screen : Screen) : UIState :=
  { state with history := state.history ++ [state.screen], screen }

end UIState

end StytchBrowser.ReactNative.B2B
