import StytchBrowser.Web.B2BUI.Reducer

/-!
# Going back

`pushed` and `replaced` say to which screen an action moves by adding to the history of screens and
by starting a new one. A step back undoes every push of another screen. A new history is empty when
the screen changes; `replaceHistory` keeps the old one when it is handed the screen that is shown,
and an MFA that starts with an SMS to a number that is not verified leaves the enrollment of a number
in it.
-/

namespace StytchBrowser.Web.B2B

open ReactNative.B2B (AuthenticateResponseWithMFA B2BMFAProducts)

/-- The screen after a primary authentication. -/
def primaryAuthenticateScreen (response : AuthenticateResponseWithMFA)
    (includedMfaMethods : Option (List B2BMFAProducts)) (resetTokenType : Option String) :
    AppScreens :=
  if response.memberSession then postAuthScreen resetTokenType
  else
    match response.primaryRequired with
    | some required => if required.allowedAuthMethods.length = 0 then .Error else .Main
    | none =>
        let info := primaryInfo response resetTokenType
        match entryMethod response info with
        | some .totp => .TOTPEntry
        | some .smsOtp => .SMSOTPEntry
        | none => getNextEnrollmentScreen (getEnabledMethods B2B_MFA_METHODS
            info.organizationMfaOptionsSupported includedMfaMethods)

/-- The MFA starts with an SMS to a number that is not verified. -/
def unverifiedStart (response : AuthenticateResponseWithMFA) (resetTokenType : Option String) :
    Bool :=
  !response.memberSession && response.primaryRequired.isNone &&
    entryMethod response (primaryInfo response resetTokenType) = some .smsOtp &&
    !response.member.mfaPhoneNumberVerified

/-- The screen an action starts a new history with. -/
def replaced (state : AppState) : Action → Option AppScreens
  | .transition screen push => if push then none else some screen
  | .mfa (.primaryAuthenticateSuccess response includedMfaMethods resetTokenType) =>
      some (primaryAuthenticateScreen response includedMfaMethods resetTokenType)
  | .mfa .smsOtpAuthenticateSuccess | .mfa .recoveryCodeAuthenticateSuccess
  | .mfa .recoveryCodeSaveAcknowledge => some state.mfa.postAuthScreen
  | .mfa .totpAuthenticateSuccess =>
      some (if state.mfa.isEnrolling then .RecoveryCodeSave else state.mfa.postAuthScreen)
  | _ => none

/-- The screen an action pushes. -/
def pushed (state : AppState) : Action → Option AppScreens
  | .transition screen push => if push then some screen else none
  | .sendEmailOtp _ => some .EmailOTPEntry
  | .setSsoDiscoveryState connections =>
      some (if connections.length = 0 then .SSODiscoveryFallback else .SSODiscoveryMenu)
  | .usePasswordAuth _ => some .PasswordAuthenticate
  | .mfa (.smsOtpSendSuccess _) => some .SMSOTPEntry
  | .mfa (.totpShowCode method) =>
      if state.mfa.isEnrolling then
        state.mfa.totpEnrollment.map fun enrollment => shownScreen (shownMethod enrollment method)
      else none
  | _ => none

/-- The MFA starts with an SMS to a number that is not verified. -/
def Action.unverifiedStart : Action → Bool
  | .mfa (.primaryAuthenticateSuccess response _ resetTokenType) =>
      B2B.unverifiedStart response resetTokenType
  | _ => false

/-- Two states on one screen with one history. -/
structure SamePlace (s t : AppState) : Prop where
  screen : s.screen = t.screen
  screenHistory : s.screenHistory = t.screenHistory

variable (now : ℤ) {s : AppState} {a : Action} {screen : AppScreens}

theorem reducer_of_pushed (h : pushed s a = some screen) :
    ∃ t, reducer now s a = pushHistory screen t ∧ SamePlace t s := by
  cases a with
  | transition screen' push =>
    simp only [pushed] at h
    split_ifs at h with hpush
    cases h
    exact ⟨s, by simp [reducer, hpush], rfl, rfl⟩
  | sendEmailOtp codeExpiration => cases h; exact ⟨_, rfl, rfl, rfl⟩
  | usePasswordAuth email => cases h; exact ⟨_, rfl, rfl, rfl⟩
  | setSsoDiscoveryState connections =>
    cases h
    by_cases hnil : connections.length = 0
    · rw [reducer, if_pos hnil, if_pos hnil]
      exact ⟨_, rfl, rfl, rfl⟩
    · rw [reducer, if_neg hnil, if_neg hnil]
      exact ⟨_, rfl, rfl, rfl⟩
  | mfa action =>
    cases action with
    | smsOtpSendSuccess destination => cases h; exact ⟨_, rfl, rfl, rfl⟩
    | totpShowCode method =>
      simp only [pushed] at h
      split_ifs at h with henrolling
      obtain ⟨enrollment, henrollment, rfl⟩ := Option.map_eq_some_iff.1 h
      simp only [reducer, mfaReducer, henrolling, henrollment]
      exact ⟨_, rfl, rfl, rfl⟩
    | _ => cases h
  | _ => cases h

theorem primaryAuthenticateSuccess_eq_replaceHistory (s : AppState)
    {response : AuthenticateResponseWithMFA} (includedMfaMethods : Option (List B2BMFAProducts))
    {resetTokenType : Option String} (h : unverifiedStart response resetTokenType = false) :
    ∃ t, primaryAuthenticateSuccess now s response includedMfaMethods resetTokenType =
        replaceHistory (primaryAuthenticateScreen response includedMfaMethods resetTokenType) t ∧
      SamePlace t s := by
  unfold primaryAuthenticateSuccess primaryAuthenticateScreen
  cases hsession : response.memberSession with
  | true => exact ⟨_, rfl, rfl, rfl⟩
  | false =>
    cases hrequired : response.primaryRequired with
    | some required =>
      dsimp only [primaryRequiredState]
      rw [if_neg Bool.false_ne_true, if_neg Bool.false_ne_true]
      split_ifs
      · exact ⟨_, rfl, rfl, rfl⟩
      · exact ⟨_, rfl, rfl, rfl⟩
    | none =>
      dsimp only
      cases hentry : entryMethod response (primaryInfo response resetTokenType) with
      | none => exact ⟨_, rfl, rfl, rfl⟩
      | some method =>
        cases method with
        | totp => exact ⟨_, rfl, rfl, rfl⟩
        | smsOtp =>
          have hverified : response.member.mfaPhoneNumberVerified = true := by
            simpa [unverifiedStart, hsession, hrequired, hentry] using h
          rw [if_neg Bool.false_ne_true, if_neg Bool.false_ne_true]
          dsimp only
          rw [if_pos hverified]
          exact ⟨_, rfl, rfl, rfl⟩

theorem reducer_of_replaced (h : replaced s a = some screen) (hverified : a.unverifiedStart = false) :
    ∃ t, reducer now s a = replaceHistory screen t ∧ SamePlace t s := by
  cases a with
  | transition screen' push =>
    simp only [replaced] at h
    split_ifs at h with hpush
    cases h
    exact ⟨s, by simp [reducer, hpush], rfl, rfl⟩
  | mfa action =>
    cases action with
    | primaryAuthenticateSuccess response includedMfaMethods resetTokenType =>
      cases h
      exact primaryAuthenticateSuccess_eq_replaceHistory now s includedMfaMethods hverified
    | smsOtpAuthenticateSuccess => cases h; exact ⟨_, rfl, rfl, rfl⟩
    | recoveryCodeAuthenticateSuccess => cases h; exact ⟨_, rfl, rfl, rfl⟩
    | recoveryCodeSaveAcknowledge => cases h; exact ⟨_, rfl, rfl, rfl⟩
    | totpAuthenticateSuccess => cases h; exact ⟨_, rfl, rfl, rfl⟩
    | _ => cases h
  | _ => cases h

theorem screenHistory_unverifiedStart (s : AppState) (h : a.unverifiedStart = true) :
    (reducer now s a).screenHistory = [.SMSOTPEnrollment] := by
  cases a with
  | mfa action =>
    cases action with
    | primaryAuthenticateSuccess response includedMfaMethods resetTokenType =>
      simp only [Action.unverifiedStart, unverifiedStart, Bool.and_eq_true, Bool.not_eq_true',
        Option.isNone_iff_eq_none, decide_eq_true_eq] at h
      obtain ⟨⟨⟨hsession, hrequired⟩, hentry⟩, hverified⟩ := h
      simp [reducer, mfaReducer, primaryAuthenticateSuccess, hsession, hrequired, hentry, hverified]
    | _ => cases h
  | _ => cases h

/-- Any other action leaves the history alone. -/
theorem screenHistory_of_other (hpushed : pushed s a = none) (hreplaced : replaced s a = none)
    (hback : a ≠ .navigateBack) : (reducer now s a).screenHistory = s.screenHistory := by
  cases a with
  | transition screen push => cases push <;> simp [pushed, replaced] at hpushed hreplaced
  | navigateBack => exact absurd rfl hback
  | selectDiscoveredOrganization discovered =>
    simp only [reducer, selectDiscoveredOrganization]
    split_ifs <;> rfl
  | mfa action =>
    cases action with
    | totpCreateSuccess secret qrCode recoveryCodes memberId organizationId =>
      simp only [reducer, mfaReducer]
      split_ifs <;> rfl
    | totpShowCode method =>
      simp only [pushed, ite_eq_right_iff, Option.map_eq_none_iff] at hpushed
      simp only [reducer, mfaReducer]
      split
      · next henrolling henrollment =>
        rw [hpushed henrolling] at henrollment
        cases henrollment
      · rfl
    | smsOtpSend | smsOtpSendError | smsOtpFormatDestination => rfl
    | _ => simp [pushed, replaced] at hpushed hreplaced
  | setErrorMessageAndTransition | setUserSuppliedEmail | setOrganization | setPasswordState
  | setDiscoveryState => rfl
  | _ => simp [pushed] at hpushed

/-! ## Runs -/

/-- The state after a run of the reducer. -/
def run (actions : List (ℤ × Action)) : AppState :=
  actions.foldl (fun state action => reducer action.1 state action.2) DEFAULT_STATE

/-- What is expected of a step back after an action: it goes nowhere after a new history was started,
and to where the screens were before another screen was pushed. -/
structure GoesBack (now : ℤ) (s : AppState) (a : Action) : Prop where
  replaced : ∀ screen, replaced s a = some screen →
    (reducer now s a).screen = screen ∧ (reducer now s a).screenHistory = [] ∧
      SamePlace (reducer now (reducer now s a) .navigateBack) (reducer now s a)
  pushed : ∀ screen, pushed s a = some screen → s.screen ≠ screen →
    (reducer now s a).screen = screen ∧
      SamePlace (reducer now (reducer now s a) .navigateBack) s

/-- In every state reached, a step back does what is expected exactly when the action does not start
a new history at the screen that is shown, with a history behind it, and does not start MFA with an
SMS to a number that is not verified. -/
theorem goesBack_iff (actions : List (ℤ × Action)) (now : ℤ) (a : Action) :
    GoesBack now (run actions) a ↔ ∀ screen, replaced (run actions) a = some screen →
      a.unverifiedStart = false ∧
        ((run actions).screen ≠ screen ∨ (run actions).screenHistory = []) := by
  generalize run actions = s
  constructor
  · intro h screen hscreen
    obtain ⟨-, hnil, -⟩ := h.replaced screen hscreen
    have hverified : a.unverifiedStart = false := by
      by_contra hstart
      rw [screenHistory_unverifiedStart now s (by simpa using hstart)] at hnil
      cases hnil
    refine ⟨hverified, ?_⟩
    obtain ⟨t, ht, hplace⟩ := reducer_of_replaced now hscreen hverified
    rw [ht, screenHistory_replaceHistory_iff] at hnil
    rwa [← hplace.screen, ← hplace.screenHistory]
  · intro h
    refine ⟨fun screen hscreen => ?_, fun screen hscreen hne => ?_⟩
    · obtain ⟨hverified, hmoves⟩ := h screen hscreen
      obtain ⟨t, ht, hplace⟩ := reducer_of_replaced now hscreen hverified
      have hnil : (reducer now s a).screenHistory = [] := by
        rw [ht, screenHistory_replaceHistory_iff, hplace.screen, hplace.screenHistory]
        exact hmoves
      have hback : reducer now (reducer now s a) .navigateBack = reducer now s a :=
        navigateBack_of_nil hnil
      refine ⟨?_, hnil, ?_⟩
      · rw [ht, screen_replaceHistory]
      · rw [hback]
        exact ⟨rfl, rfl⟩
    · obtain ⟨t, ht, hplace⟩ := reducer_of_pushed now hscreen
      have hback : reducer now (reducer now s a) .navigateBack = t := by
        rw [ht]
        exact navigateBack_pushHistory (hplace.screen ▸ hne)
      refine ⟨?_, ?_⟩
      · rw [ht, screen_pushHistory]
      · rw [hback]
        exact hplace

/-- A response that asks an enrolled member for a code. -/
def totpResponse : AuthenticateResponseWithMFA where
  memberId := "member"
  member := ⟨"", false, "", false, "totp", "totp"⟩
  organization := ⟨"organization", "ALL_ALLOWED", none⟩
  memberSession := false
  primaryRequired := none
  mfaRequired := none

/-- MFA that starts on the screen that is shown leaves the history behind it. -/
theorem replaceHistory_keeps_history :
    ¬ ∀ actions now a, GoesBack now (run actions) a := by
  intro hall
  obtain ⟨-, hnil, -⟩ := (hall [(0, .transition .TOTPEntry true)] 0
    (.mfa (.primaryAuthenticateSuccess totpResponse none none))).replaced _ rfl
  revert hnil
  decide

end StytchBrowser.Web.B2B
