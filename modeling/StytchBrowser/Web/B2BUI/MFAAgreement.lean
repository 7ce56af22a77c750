import StytchBrowser.ReactNative.B2BUI.Reducers
import StytchBrowser.Web.B2BUI.Reducer

/-!
# The MFA reducers of web and React Native

Both reducers decide on their own what follows a primary authentication. They decide alike: the next
screen, whether the member is enrolling, the primary info that is kept and whether a code counts as
sent are the same, up to the names of two screens (`SameScreen`).
-/

namespace StytchBrowser.Web.B2B

open ReactNative.B2B (AuthenticateResponseWithMFA B2BMFAProducts PrimaryRequired Screen UIState)

/-- The React Native screen for a web screen. There is no code to scan on a phone. -/
def AppScreens.native : AppScreens → Option Screen
  | .Main => some .Main
  | .EmailConfirmation => some .EmailConfirmation
  | .LoggedIn => some .Success
  | .Discovery => some .Discovery
  | .Error => some .Error
  | .PasswordEmailForm => none
  | .PasswordAuthenticate => some .PasswordAuthenticate
  | .PasswordResetForm => some .PasswordResetForm
  | .PasswordResetVerifyConfirmation => some .PasswordResetVerifyConfirmation
  | .PasswordForgotForm => some .PasswordForgotForm
  | .PasswordSetNewConfirmation => some .PasswordSetNewConfirmation
  | .MFAEnrollmentSelection => some .MFAEnrollmentSelection
  | .RecoveryCodeEntry => some .RecoveryCodeEntry
  | .RecoveryCodeSave => some .RecoveryCodeSave
  | .SMSOTPEnrollment => some .SMSOTPEnrollment
  | .SMSOTPEntry => some .SMSOTPEntry
  | .TOTPEnrollmentManual => some .TOTPEnrollmentManual
  | .TOTPEnrollmentQRCode => some .TOTPEnrollmentManual
  | .TOTPEntry => some .TOTPEntry
  | .EmailMethodSelection => some .EmailMethodSelection
  | .EmailOTPEntry => some .EmailOTPEntry
  | .SSODiscoveryEmail => some .SSODiscoveryEmail
  | .SSODiscoveryFallback => some .SSODiscoveryFallback
  | .SSODiscoveryMenu => some .SSODiscoveryMenu

/-- A screen of the web and one of React Native that stand for each other. -/
def SameScreen (w : AppScreens) (r : Screen) : Prop := w.native = some r

/-- The primary infos are the same. -/
structure PrimaryInfo.Same (w : PrimaryInfo) (r : ReactNative.B2B.PrimaryInfo) : Prop where
  enrolledMfaMethods : w.enrolledMfaMethods = r.enrolledMfaMethods
  memberId : w.memberId = r.memberId
  memberPhoneNumber : w.memberPhoneNumber = r.memberPhoneNumber
  organizationId : w.organizationId = r.organizationId
  organizationMfaOptionsSupported :
    w.organizationMfaOptionsSupported = r.organizationMfaOptionsSupported
  postAuthScreen : SameScreen w.postAuthScreen r.postAuthScreen

/-- The MFA states agree on the primary info, on whether the member is enrolling and on whether a
code counts as sent. -/
structure MfaState.Same (w : MfaState) (r : ReactNative.B2B.MfaState) : Prop where
  primaryInfo : Option.Rel PrimaryInfo.Same w.primaryInfo r.primaryInfo
  isEnrolling : w.isEnrolling = r.isEnrolling
  codeSent : w.smsOtp.codeExpiration.isSome = r.smsOtp.codeExpiration.isSome

/-! ## The parts of the decision -/

theorem same_DEFAULT_MFA_STATE : MfaState.Same DEFAULT_MFA_STATE ReactNative.B2B.DEFAULT_MFA_STATE :=
  ⟨.none, rfl, rfl⟩

theorem sameScreen_postAuthScreen (resetTokenType : Option String) :
    SameScreen (postAuthScreen resetTokenType) (ReactNative.B2B.postAuthScreen resetTokenType) := by
  unfold postAuthScreen ReactNative.B2B.postAuthScreen
  split_ifs <;> rfl

theorem apiMfaMethodToProduct_eq (method : String) :
    apiMfaMethodToProduct method = ReactNative.B2B.apiMfaMethodToProduct method := rfl

theorem smsImplicitlySent_eq (response : AuthenticateResponseWithMFA) :
    smsImplicitlySent response = ReactNative.B2B.smsImplicitlySent response := rfl

theorem same_primaryInfo (response : AuthenticateResponseWithMFA)
    (resetTokenType : Option String) :
    (primaryInfo response resetTokenType).Same
      (ReactNative.B2B.primaryInfo response resetTokenType) := by
  refine ⟨rfl, rfl, rfl, rfl, ?_, sameScreen_postAuthScreen resetTokenType⟩
  unfold primaryInfo ReactNative.B2B.primaryInfo
  dsimp only
  split_ifs
  · cases response.organization.allowedMfaMethods <;> rfl
  · rfl

section Entry

variable {w : PrimaryInfo} {r : ReactNative.B2B.PrimaryInfo}

theorem PrimaryInfo.Same.organizationSupportsMethod (h : w.Same r) (method : B2BMFAProducts) :
    w.organizationSupportsMethod method = r.organizationSupportsMethod method := by
  unfold PrimaryInfo.organizationSupportsMethod ReactNative.B2B.PrimaryInfo.organizationSupportsMethod
  rw [h.organizationMfaOptionsSupported]
  cases r.organizationMfaOptionsSupported <;> simp

theorem PrimaryInfo.Same.getDefaultMethod (h : w.Same r) (method : String) :
    w.getDefaultMethod method = r.getDefaultMethod method := by
  unfold PrimaryInfo.getDefaultMethod ReactNative.B2B.PrimaryInfo.getDefaultMethod
  rw [apiMfaMethodToProduct_eq]
  cases ReactNative.B2B.apiMfaMethodToProduct method with
  | none => rfl
  | some product =>
    simp [h.organizationSupportsMethod, h.enrolledMfaMethods, Option.filter]

theorem PrimaryInfo.Same.entryMethod (h : w.Same r) (response : AuthenticateResponseWithMFA) :
    entryMethod response w = ReactNative.B2B.entryMethod response r := by
  have hsupports : w.organizationSupportsMethod = r.organizationSupportsMethod :=
    funext h.organizationSupportsMethod
  unfold B2B.entryMethod ReactNative.B2B.entryMethod
  rw [h.getDefaultMethod, h.enrolledMfaMethods, hsupports, smsImplicitlySent_eq]
  split_ifs
  · rfl
  · cases r.getDefaultMethod response.member.defaultMfaMethod <;> rfl

end Entry

theorem getEnabledMethods_eq (allMethods orgSupportedMethods : List B2BMFAProducts)
    (uiIncludedMethods : Option (List B2BMFAProducts)) :
    getEnabledMethods allMethods orgSupportedMethods uiIncludedMethods =
      ReactNative.B2B.getEnabledMethods allMethods orgSupportedMethods uiIncludedMethods := by
  unfold getEnabledMethods ReactNative.B2B.getEnabledMethods
  cases orgSupportedMethods with
  | cons method methods => simp
  | nil =>
    match uiIncludedMethods with
    | none => simp
    | some [] => simp
    | some (method :: methods) => simp

theorem sameScreen_getNextEnrollmentScreen (enabledMethods : List B2BMFAProducts) :
    SameScreen (getNextEnrollmentScreen enabledMethods)
      (ReactNative.B2B.getNextEnrollmentScreen enabledMethods) := by
  unfold getNextEnrollmentScreen ReactNative.B2B.getNextEnrollmentScreen
  simp only [List.contains_iff_mem]
  split_ifs <;> rfl

/-! ## After a primary authentication -/

/-- The states agree on the screen and on MFA. -/
structure Agree (w : AppState) (r : UIState) : Prop where
  screen : SameScreen w.screen r.screen
  mfa : w.mfa.Same r.mfaState

/-- A web state that starts a new history agrees where its screen and its MFA state do. -/
theorem Agree.replaceHistory {screen : AppScreens} {w : AppState} {r : UIState}
    (hscreen : SameScreen screen r.screen) (hmfa : w.mfa.Same r.mfaState) :
    Agree (replaceHistory screen w) r :=
  ⟨(screen_replaceHistory screen w).symm ▸ hscreen, (mfa_replaceHistory screen w).symm ▸ hmfa⟩

theorem agree_primaryRequiredState {w : AppState} {r : UIState} (hprior : w.mfa.Same r.mfaState)
    (response : AuthenticateResponseWithMFA) (required : PrimaryRequired) :
    Agree (primaryRequiredState w response required)
      (ReactNative.B2B.primaryRequiredState r response required) := by
  unfold primaryRequiredState ReactNative.B2B.primaryRequiredState
  dsimp only
  have hnil : required.allowedAuthMethods.length = 0 ↔ required.allowedAuthMethods = [] :=
    List.length_eq_zero_iff
  by_cases hempty : required.allowedAuthMethods = []
  · rw [if_pos (hnil.2 hempty), if_pos hempty]
    exact .replaceHistory rfl hprior
  · rw [if_neg (hnil.not.2 hempty), if_neg hempty]
    exact .replaceHistory rfl hprior

/-- From MFA states that agree, a primary authentication leads both reducers to states that agree,
for every response and every list of included methods. -/
theorem mfa_reducers_agree {w : AppState} {r : UIState} (hprior : w.mfa.Same r.mfaState)
    (now now' : ℤ) (response : AuthenticateResponseWithMFA)
    (includedMfaMethods : Option (List B2BMFAProducts)) (resetTokenType : Option String) :
    Agree
      (mfaReducer now w
        (.primaryAuthenticateSuccess response includedMfaMethods resetTokenType))
      (ReactNative.B2B.MFAReducer now' r
        (.primaryAuthenticateSuccess response includedMfaMethods resetTokenType)) := by
  have hinfo := same_primaryInfo response resetTokenType
  simp only [mfaReducer, ReactNative.B2B.MFAReducer, primaryAuthenticateSuccess,
    ReactNative.B2B.primaryAuthenticateSuccess, hinfo.entryMethod, smsImplicitlySent_eq]
  cases response.memberSession with
  | true =>
    rw [if_pos rfl, if_pos rfl]
    exact .replaceHistory (sameScreen_postAuthScreen resetTokenType) same_DEFAULT_MFA_STATE
  | false =>
    cases response.primaryRequired with
    | some required => exact agree_primaryRequiredState hprior response required
    | none =>
      rw [if_neg Bool.false_ne_true, if_neg Bool.false_ne_true]
      have hkept : Option.Rel PrimaryInfo.Same (some (primaryInfo response resetTokenType))
          (some (ReactNative.B2B.primaryInfo response resetTokenType)) := .some hinfo
      dsimp only
      cases ReactNative.B2B.entryMethod response
          (ReactNative.B2B.primaryInfo response resetTokenType) with
      | none =>
        rw [getEnabledMethods_eq, hinfo.organizationMfaOptionsSupported]
        exact .replaceHistory (sameScreen_getNextEnrollmentScreen _) ⟨hkept, rfl, rfl⟩
      | some method =>
        cases method with
        | totp =>
          exact .replaceHistory rfl ⟨hkept, rfl, rfl⟩
        | smsOtp =>
          have hsent : (if ReactNative.B2B.smsImplicitlySent response then
                some (getSmsOtpCodeExpiration now) else none).isSome =
              (if ReactNative.B2B.smsImplicitlySent response then
                some (ReactNative.B2B.getSmsOtpCodeExpiration now') else none).isSome := by
            split_ifs <;> rfl
          dsimp only
          by_cases hverified : response.member.mfaPhoneNumberVerified = true
          · rw [if_pos hverified]
            exact .replaceHistory rfl ⟨hkept, rfl, hsent⟩
          · rw [if_neg hverified]
            exact ⟨rfl, hkept, rfl, hsent⟩

/-- A response that sent a code to a number that is not verified. -/
def smsResponse : AuthenticateResponseWithMFA where
  memberId := "member"
  member := ⟨"", false, "+15005550006", false, "", ""⟩
  organization := ⟨"organization", "RESTRICTED", some ["sms_otp"]⟩
  memberSession := false
  primaryRequired := none
  mfaRequired := some (some "sms_otp")

theorem mfa_reducers_agree_sms :
    Agree (mfaReducer 0 DEFAULT_STATE (.primaryAuthenticateSuccess smsResponse none none))
        (ReactNative.B2B.MFAReducer 5 ReactNative.B2B.DEFAULT_UI_STATE
          (.primaryAuthenticateSuccess smsResponse none none)) ∧
      (mfaReducer 0 DEFAULT_STATE (.primaryAuthenticateSuccess smsResponse none none)).screen =
        .SMSOTPEntry :=
  ⟨mfa_reducers_agree same_DEFAULT_MFA_STATE 0 5 smsResponse none none, by decide⟩

end StytchBrowser.Web.B2B
