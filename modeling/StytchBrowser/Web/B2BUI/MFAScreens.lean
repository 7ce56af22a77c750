import Mathlib.Logic.Function.Basic
import StytchBrowser.Lib.Machine
import StytchBrowser.Web.B2BUI.BackNavigation

/-!
# The screens of an MFA

The screens that take a member through a second factor, what they ask the API for and what they do
with the answers, which may come when another screen is shown. The other screens of the UI dispatch
what they like at any time (`Action.ofOtherScreens`).

The flags of the hooks that make the requests are not kept, nor is the countdown of the button that
sends a code again: a screen here may ask more often than it does. Events and translations are left
out.
-/

namespace StytchBrowser.Web.B2B

open ReactNative.B2B (AuthenticateResponseWithMFA B2BMFAProducts TotpEnrollment)

/-- What the screens are configured with, the calling codes of the countries (`COUNTRIES_LIST`), and
the texts for errors. -/
structure MFAConfig where
  sessionDurationMinutes : ℕ
  locale : Option String
  mfaProductInclude : Option (List B2BMFAProducts)
  mfaProductOrder : Option (List B2BMFAProducts)
  callingCode : String → String
  getTranslatedError : Json → Option Json

/-! ## Requests -/

inductive MFARequest where
  /-- The number that `SMSOTPEnrollScreen` sends a code to. -/
  | parsePhoneNumber (phoneNumber countryCode memberId organizationId : String)
  /-- The number that `SMSOTPEntryScreen` shows. -/
  | formatNumber (phoneNumber : String)
  /-- `otps.sms.send` of `SMSOTPEnrollScreen`. -/
  | smsEnroll (mfaPhoneNumber memberId organizationId : String) (locale : Option String)
      (destination : SmsDestination)
  /-- `otps.sms.send` of `SMSOTPEntryScreen`. -/
  | smsSend (memberId organizationId : String) (locale : Option String)
  | smsAuthenticate (code memberId organizationId : String) (sessionDurationMinutes : ℕ)
  | totpCreate (memberId organizationId : String)
  | totpAuthenticate (code memberId organizationId : String) (sessionDurationMinutes : ℕ)
  | recover (recoveryCode memberId organizationId : String) (sessionDurationMinutes : ℕ)

/-- The response of `totp.create`. -/
structure TotpCreated where
  secret : String
  qrCode : String
  recoveryCodes : List String
  deriving DecidableEq

structure ParsedPhoneNumber where
  isValid : Bool
  number : String
  national : String

inductive MFAAnswer where
  | ok
  | created (response : TotpCreated)
  /-- `none` when the parser failed or took too long, with what the form holds by then. -/
  | parsed (response : Option ParsedPhoneNumber) (phoneNumber countryCode : String)
  | error (error : Json)

/-! ## The state -/

/-- The action replaces the MFA state. -/
def Action.replacesMfa (state : AppState) : Action → Bool
  | .mfa (.primaryAuthenticateSuccess response _ _) =>
      response.memberSession || response.primaryRequired.isNone
  | .mfa .smsOtpAuthenticateSuccess | .mfa .recoveryCodeAuthenticateSuccess
  | .mfa .recoveryCodeSaveAcknowledge => true
  | .mfa .totpAuthenticateSuccess => !state.mfa.isEnrolling
  | _ => false

structure MFAFlow where
  app : AppState
  /-- The data that `useSWR` has for `stytch.totp.create`, a member and an organization. It outlives
  the UI. -/
  created : String × String → Option TotpCreated
  /-- The requests under way, with the MFA each was made in. -/
  pending : List (ℕ × MFARequest)
  /-- How often the MFA state was replaced. -/
  mfaNumber : ℕ

namespace MFAFlow

def dispatch (now : ℤ) (s : MFAFlow) (action : Action) : MFAFlow :=
  { s with
    app := reducer now s.app action
    mfaNumber := if action.replacesMfa s.app then s.mfaNumber + 1 else s.mfaNumber }

def ask (s : MFAFlow) (request : MFARequest) : MFAFlow :=
  { s with pending := s.pending ++ [(s.mfaNumber, request)] }

end MFAFlow

/-- What the user does on a screen, by the handlers of the source, and the effects of a screen. -/
inductive ScreenEvent where
  | handleNavigate (option : B2BMFAProducts)
  | handleShowManualCode
  | handleContinue
  | handleBack
  | handleSubmit (code : String)
  | handleSubmitNumber (phoneNumber countryCode : String)
  | handleSwitchToRecoveryCode
  | handleSwitchToSms
  | handleSwitchToTotp
  | create
  | sendSms
  | formatDestination

/-! ## The screens -/

section Screens

variable (config : MFAConfig) (now : ℤ) (s : MFAFlow) (info : PrimaryInfo)

/-- The screen of an option of `MFAEnrollmentSelectionScreen`. -/
def mfaOptions : B2BMFAProducts → AppScreens
  | .totp => .TOTPEnrollmentQRCode
  | .smsOtp => .SMSOTPEnrollment

/-- Move an option from the options that are left to the result. -/
def displayOption (r : List B2BMFAProducts × List B2BMFAProducts) (option : B2BMFAProducts) :
    List B2BMFAProducts × List B2BMFAProducts :=
  if option ∈ r.2 then (r.1 ++ [option], r.2.erase option) else r

def displayOptions : List B2BMFAProducts :=
  let optionsToDisplay := getEnabledMethods B2B_MFA_METHODS info.organizationMfaOptionsSupported
    config.mfaProductInclude
  let r := (config.mfaProductOrder.getD B2B_MFA_METHODS).foldl displayOption ([], optionsToDisplay)
  r.1 ++ r.2

def MFAEnrollmentSelectionScreen : ScreenEvent → Option MFAFlow
  | .handleNavigate option =>
      if option ∈ displayOptions config info then
        some (s.dispatch now (.transition (mfaOptions option) true))
      else none
  | _ => none

/-- A fetch is made when there is no data. -/
def TOTPEnrollQRScreen : ScreenEvent → Option MFAFlow
  | .create =>
      if s.created (info.memberId, info.organizationId) = none then
        some (s.ask (.totpCreate info.memberId info.organizationId))
      else none
  | .handleShowManualCode =>
      if (s.created (info.memberId, info.organizationId)).isSome then
        some (s.dispatch now (.mfa (.totpShowCode (some .manual))))
      else none
  | .handleContinue =>
      if (s.created (info.memberId, info.organizationId)).isSome then
        some (s.dispatch now (.transition .TOTPEntry true))
      else none
  | _ => none

def TOTPEnrollManualScreen : ScreenEvent → Option MFAFlow
  | .handleBack => some (s.dispatch now .navigateBack)
  | .handleContinue => some (s.dispatch now (.transition .TOTPEntry true))
  | _ => none

/-- `isSmsOtpAvailable` and `isTotpAvailable`. -/
def isAvailable (isEnrolling : Bool) (method : B2BMFAProducts) : Bool :=
  !isEnrolling && method ∈ info.enrolledMfaMethods &&
    (info.organizationMfaOptionsSupported.length = 0 ||
      method ∈ info.organizationMfaOptionsSupported)

def TOTPEntryScreen : ScreenEvent → Option MFAFlow
  | .handleSubmit otp =>
      some (s.ask (.totpAuthenticate otp info.memberId info.organizationId
        config.sessionDurationMinutes))
  | .handleSwitchToSms =>
      if isAvailable info s.app.mfa.isEnrolling .smsOtp then
        some (s.dispatch now (.transition .SMSOTPEntry true))
      else none
  | .handleSwitchToRecoveryCode =>
      if s.app.mfa.isEnrolling then none
      else some (s.dispatch now (.transition .RecoveryCodeEntry true))
  | .handleBack => if s.app.mfa.isEnrolling then some (s.dispatch now .navigateBack) else none
  | _ => none

def SMSOTPEnrollScreen : ScreenEvent → Option MFAFlow
  | .handleSubmitNumber phoneNumber countryCode =>
      if phoneNumber = "" ∨ s.app.mfa.smsOtp.isSending = true then none
      else
        some ((s.dispatch now (.mfa .smsOtpSend)).ask
          (.parsePhoneNumber phoneNumber countryCode info.memberId info.organizationId))
  | .handleBack =>
      if s.app.screenHistory.length > 0 then some (s.dispatch now .navigateBack) else none
  | _ => none

/-- `canGoBack` of `SMSOTPEntryScreen`. -/
def smsCanGoBack (isEnrolling : Bool) : Bool :=
  isEnrolling || info.enrolledMfaMethods.length = 0 ||
    (info.organizationMfaOptionsSupported.length > 0 &&
      !info.enrolledMfaMethods.any (· ∈ info.organizationMfaOptionsSupported))

/-- A code is sent by the effect when there is none, and by the button; it can be entered when one
was sent. -/
def SMSOTPEntryScreen : ScreenEvent → Option MFAFlow
  | .sendSms =>
      some ((s.dispatch now (.mfa .smsOtpSend)).ask
        (.smsSend info.memberId info.organizationId config.locale))
  | .formatDestination =>
      if (s.app.mfa.smsOtp.formattedDestination.getD "" = "") ∧ info.memberPhoneNumber ≠ "" then
        some (s.ask (.formatNumber info.memberPhoneNumber))
      else none
  | .handleSubmit otp =>
      if s.app.mfa.smsOtp.codeExpiration.isSome then
        some (s.ask (.smsAuthenticate otp info.memberId info.organizationId
          config.sessionDurationMinutes))
      else none
  | .handleSwitchToTotp =>
      if isAvailable info s.app.mfa.isEnrolling .totp then
        some (s.dispatch now (.transition .TOTPEntry true))
      else none
  | .handleBack =>
      if smsCanGoBack info s.app.mfa.isEnrolling then some (s.dispatch now .navigateBack) else none
  | _ => none

def RecoveryCodeEntryScreen : ScreenEvent → Option MFAFlow
  | .handleSubmit recoveryCode =>
      if recoveryCode = "" then none
      else
        some (s.ask (.recover recoveryCode info.memberId info.organizationId
          config.sessionDurationMinutes))
  | .handleBack => some (s.dispatch now .navigateBack)
  | _ => none

def RecoveryCodeSaveScreen : ScreenEvent → Option MFAFlow
  | .handleContinue => some (s.dispatch now (.mfa .recoveryCodeSaveAcknowledge))
  | _ => none

/-- The screen that is shown. One that reads `primaryInfo!` or `enrollment!` where there is none
throws and can do nothing. -/
def onScreen (event : ScreenEvent) : Option MFAFlow :=
  match s.app.screen with
  | .MFAEnrollmentSelection =>
      s.app.mfa.primaryInfo.bind fun info => MFAEnrollmentSelectionScreen config now s info event
  | .TOTPEnrollmentQRCode =>
      s.app.mfa.primaryInfo.bind fun info => TOTPEnrollQRScreen now s info event
  | .TOTPEnrollmentManual =>
      s.app.mfa.totpEnrollment.bind fun _ => TOTPEnrollManualScreen now s event
  | .TOTPEntry => s.app.mfa.primaryInfo.bind fun info => TOTPEntryScreen config now s info event
  | .SMSOTPEnrollment => s.app.mfa.primaryInfo.bind fun info => SMSOTPEnrollScreen now s info event
  | .SMSOTPEntry => s.app.mfa.primaryInfo.bind fun info => SMSOTPEntryScreen config now s info event
  | .RecoveryCodeEntry =>
      s.app.mfa.primaryInfo.bind fun info => RecoveryCodeEntryScreen config now s info event
  | .RecoveryCodeSave =>
      s.app.mfa.totpEnrollment.bind fun _ => RecoveryCodeSaveScreen now s event
  | _ => none

end Screens

/-! ## The answers -/

section Answers

variable (config : MFAConfig) (now : ℤ) (s : MFAFlow)

def InvalidPhoneNumberError : Json :=
  .obj [("name", .str "InvalidPhoneNumberError"), ("message", .str "Invalid phone number")]

/-- `formatNumberToIncludeCountryCode`. -/
def formatNumberToIncludeCountryCode (response : Option ParsedPhoneNumber)
    (phoneNumber country : String) : Bool × String :=
  match response with
  | some parsed => (parsed.isValid, parsed.number)
  | none => (true, "+" ++ config.callingCode country ++ phoneNumber)

/-- What the screen that made a request does with its answer. -/
def answered : MFARequest → MFAAnswer → Option MFAFlow
  | .parsePhoneNumber phoneNumber country memberId organizationId,
      .parsed response phoneNumber' countryCode =>
      let parsedNumber := formatNumberToIncludeCountryCode config response phoneNumber country
      if parsedNumber.1 then
        some (s.ask (.smsEnroll parsedNumber.2 memberId organizationId config.locale
          { phoneNumber := phoneNumber', countryCode
            formattedPhoneNumber := "+" ++ config.callingCode countryCode ++ " " ++ phoneNumber' }))
      else some (s.dispatch now (.mfa (.smsOtpSendError (some InvalidPhoneNumberError))))
  | .formatNumber phoneNumber, .parsed response _ _ =>
      some (s.dispatch now (.mfa (.smsOtpFormatDestination
        ((response.map ParsedPhoneNumber.national).getD phoneNumber))))
  | .smsEnroll _ _ _ _ destination, .ok =>
      some (s.dispatch now (.mfa (.smsOtpSendSuccess (some destination))))
  | .smsEnroll _ _ _ _ _, .error error =>
      some (s.dispatch now (.mfa (.smsOtpSendError (some error))))
  | .smsSend _ _ _, .ok => some (s.dispatch now (.mfa (.smsOtpSendSuccess none)))
  | .smsSend _ _ _, .error error =>
      some (s.dispatch now (.mfa (.smsOtpSendError (config.getTranslatedError error))))
  | .smsAuthenticate _ _ _ _, .ok => some (s.dispatch now (.mfa .smsOtpAuthenticateSuccess))
  | .totpCreate memberId organizationId, .created response =>
      some ({ s with
          created := Function.update s.created (memberId, organizationId) (some response) }.dispatch
        now (.mfa (.totpCreateSuccess response.secret response.qrCode response.recoveryCodes
          memberId organizationId)))
  | .totpAuthenticate _ _ _ _, .ok => some (s.dispatch now (.mfa .totpAuthenticateSuccess))
  | .recover _ _ _ _, .ok => some (s.dispatch now (.mfa .recoveryCodeAuthenticateSuccess))
  | .smsAuthenticate _ _ _ _, .error _ | .totpCreate _ _, .error _
  | .totpAuthenticate _ _ _ _, .error _ | .recover _ _ _ _, .error _ => some s
  | _, _ => none

end Answers

/-! ## The other screens -/

/-- What the screens outside of an MFA dispatch. Most of it follows a request and may come at any
time; a step back is taken on the screen that offers it. -/
def Action.ofOtherScreens (state : AppState) : Action → Bool
  | .transition screen push =>
      if push then screen ∈ [.SSODiscoveryEmail, .EmailMethodSelection]
      else
        screen ∈ [.Main, .LoggedIn, .Discovery, .Error, .EmailConfirmation, .PasswordForgotForm,
          .PasswordResetVerifyConfirmation, .PasswordSetNewConfirmation]
  | .navigateBack =>
      state.screen ∈ [.EmailMethodSelection, .EmailOTPEntry, .SSODiscoveryEmail,
        .SSODiscoveryFallback, .SSODiscoveryMenu]
  | .mfa (.primaryAuthenticateSuccess _ _ _) => true
  | .mfa _ => false
  | _ => true

inductive MFAEvent where
  | onScreen (event : ScreenEvent)
  | answer (i : ℕ) (answer : MFAAnswer)
  | other (action : Action)

/-- An event at a time of the clock. -/
def MFAFlow.next (config : MFAConfig) (s : MFAFlow) : ℤ × MFAEvent → Option MFAFlow
  | (now, .onScreen event) => onScreen config now s event
  | (now, .answer i answer) =>
      s.pending[i]?.bind fun r =>
        answered config now { s with pending := s.pending.eraseIdx i } r.2 answer
  | (now, .other action) =>
      if action.ofOtherScreens s.app then some (s.dispatch now action) else none

/-- The UI comes up without an MFA, on its first screen. What was fetched before may still be
there. -/
def mfaFlow (config : MFAConfig) : Machine MFAFlow (ℤ × MFAEvent) where
  init s := s.app.screenHistory = [] ∧ (s.app.screen = .Main ∨ s.app.screen = .PasswordResetForm) ∧
    s.app.mfa = DEFAULT_MFA_STATE ∧ s.pending = []
  next := MFAFlow.next config

end StytchBrowser.Web.B2B
