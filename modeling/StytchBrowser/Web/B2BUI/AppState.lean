import StytchBrowser.ReactNative.B2BUI.State

/-!
# The state of the web B2B screens

`AppState`, the parts it is made of, and its navigation helpers. What the API answers with is shared
with the React Native screens. What the reducer only stores is kept as `Json`; times are in
milliseconds.
-/

namespace StytchBrowser.Web.B2B

open ReactNative.B2B (AuthFlowType B2BMFAProducts DiscoveredOrganization Organization
  PrimaryAuthState TotpEnrollment)

inductive AppScreens where
  | Main
  | EmailConfirmation
  | LoggedIn
  | Discovery
  | Error
  | PasswordEmailForm
  | PasswordAuthenticate
  | PasswordResetForm
  | PasswordResetVerifyConfirmation
  | PasswordForgotForm
  | PasswordSetNewConfirmation
  | MFAEnrollmentSelection
  | RecoveryCodeEntry
  | RecoveryCodeSave
  | SMSOTPEnrollment
  | SMSOTPEntry
  | TOTPEnrollmentManual
  | TOTPEnrollmentQRCode
  | TOTPEntry
  | EmailMethodSelection
  | EmailOTPEntry
  | SSODiscoveryEmail
  | SSODiscoveryFallback
  | SSODiscoveryMenu
  deriving DecidableEq

inductive ErrorType where
  | Default
  | EmailMagicLink
  | Organization
  | CannotJoinOrgDueToAuthPolicy
  | AdBlockerDetected
  | OrganizationDiscoveryClaimedDomain
  deriving DecidableEq

/-! ## `MfaState` -/

structure PrimaryInfo where
  enrolledMfaMethods : List B2BMFAProducts
  memberId : String
  memberPhoneNumber : String
  organizationId : String
  organizationMfaOptionsSupported : List B2BMFAProducts
  postAuthScreen : AppScreens

structure EnrolledNumber where
  phoneNumber : String
  countryCode : String

structure SmsOtpState where
  isSending : Bool
  sendError : Option Json
  codeExpiration : Option ℤ
  formattedDestination : Option String
  enrolledNumber : Option EnrolledNumber

structure MfaState where
  primaryInfo : Option PrimaryInfo
  isEnrolling : Bool
  smsOtp : SmsOtpState
  /-- The enrollment of `totp`. -/
  totpEnrollment : Option TotpEnrollment

def DEFAULT_MFA_STATE : MfaState where
  primaryInfo := none
  isEnrolling := false
  smsOtp := ⟨false, none, none, none, none⟩
  totpEnrollment := none

/-! ## `AppState` -/

structure DiscoveryState where
  email : String
  discoveredOrganizations : List DiscoveredOrganization

/-- `FormState`, its parts with one field being that field. -/
structure FormState where
  userSuppliedEmail : String
  discoveryState : DiscoveryState
  passwordEmail : String
  otpCodeExpiration : Option ℤ
  ssoConnections : List Json

structure FlowState where
  type : AuthFlowType
  organization : Option Organization

structure ErrorState where
  type : ErrorType
  canGoBack : Bool

structure AppState where
  screen : AppScreens
  screenHistory : List AppScreens
  formState : FormState
  flowState : FlowState
  mfa : MfaState
  primary : PrimaryAuthState
  error : ErrorState

def DEFAULT_STATE : AppState where
  screen := .Main
  screenHistory := []
  formState := ⟨"", ⟨"", []⟩, "", none, []⟩
  flowState := ⟨.Organization, none⟩
  mfa := DEFAULT_MFA_STATE
  primary := ⟨none, none, none⟩
  error := ⟨.Default, false⟩

/-! ## Navigation -/

/-- `pushHistory`. -/
def pushHistory (screen : AppScreens) (state : AppState) : AppState :=
  if state.screen = screen then state
  else { state with screen, screenHistory := state.screenHistory ++ [state.screen] }

/-- `replaceHistory`. -/
def replaceHistory (screen : AppScreens) (state : AppState) : AppState :=
  if state.screen = screen then state else { state with screen, screenHistory := [] }

/-- `navigate_back`. -/
def navigateBack (state : AppState) : AppState :=
  match state.screenHistory.getLast? with
  | none => state
  | some screen => { state with screen, screenHistory := state.screenHistory.dropLast }

@[simp] theorem screen_pushHistory (screen : AppScreens) (state : AppState) :
    (pushHistory screen state).screen = screen := by
  unfold pushHistory
  split_ifs with h
  · exact h
  · rfl

@[simp] theorem screen_replaceHistory (screen : AppScreens) (state : AppState) :
    (replaceHistory screen state).screen = screen := by
  unfold replaceHistory
  split_ifs with h
  · exact h
  · rfl

@[simp] theorem mfa_replaceHistory (screen : AppScreens) (state : AppState) :
    (replaceHistory screen state).mfa = state.mfa := by
  unfold replaceHistory
  split_ifs <;> rfl

/-- The history is empty after it was replaced exactly when it was before or the screen changed. -/
theorem screenHistory_replaceHistory_iff (screen : AppScreens) (state : AppState) :
    (replaceHistory screen state).screenHistory = [] ↔
      state.screen ≠ screen ∨ state.screenHistory = [] := by
  unfold replaceHistory
  split_ifs with h
  · simp [h]
  · simp [h]

theorem navigateBack_of_nil {state : AppState} (h : state.screenHistory = []) :
    navigateBack state = state := by
  rw [navigateBack, h]
  rfl

/-- A step back undoes the push of another screen. -/
theorem navigateBack_pushHistory {screen : AppScreens} {state : AppState}
    (h : state.screen ≠ screen) : navigateBack (pushHistory screen state) = state := by
  rw [pushHistory, if_neg h, navigateBack]
  simp

end StytchBrowser.Web.B2B
