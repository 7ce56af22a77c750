import StytchBrowser.Web.B2BUI.MFAScreens

/-!
# The steps of an MFA

What one step does to the stack of screens and to the MFA state. `Within` says which screens a step
may put on the stack, `MfaState.Keeps` that it goes on with the MFA, `Started` how an MFA starts, and
`Handled` and `within_other` what the screens of an MFA and the other screens can do.
-/

namespace StytchBrowser.Web.B2B

open ReactNative.B2B (AuthenticateResponseWithMFA B2BMFAProducts TotpEnrollment)

/-! ## The stack of screens -/

/-- The screens that can be gone back to, and the one that is shown. -/
def AppState.stack (s : AppState) : List AppScreens := s.screenHistory ++ [s.screen]

def AppScreens.isMfa : AppScreens → Bool
  | .MFAEnrollmentSelection | .RecoveryCodeEntry | .RecoveryCodeSave | .SMSOTPEnrollment
  | .SMSOTPEntry | .TOTPEnrollmentManual | .TOTPEnrollmentQRCode | .TOTPEntry => true
  | _ => false

/-- The screens that an MFA ends on. -/
def AppScreens.isPostAuth : AppScreens → Bool
  | .LoggedIn | .PasswordResetForm => true
  | _ => false

/-- The screens of `s'` are screens of `s` or `screen`; a screen that an MFA ends on is not put above
others. -/
structure Within (s s' : AppState) (screen : AppScreens) : Prop where
  stack : ∀ sc ∈ s'.stack, sc ∈ s.stack ∨ sc = screen
  above : ∀ sc ∈ s'.stack.tail, sc ∈ s.stack.tail ∨ sc = screen ∧ screen.isPostAuth = false

section Stack

variable {s s' t : AppState} {screen : AppScreens}

theorem screen_mem_stack (s : AppState) : s.screen ∈ s.stack :=
  List.mem_append_right _ (List.mem_singleton_self _)

theorem SamePlace.stack (h : SamePlace s t) : s.stack = t.stack := by
  rw [AppState.stack, AppState.stack, h.screen, h.screenHistory]

theorem Within.of_place (hw : Within t s' screen) (h : SamePlace t s) : Within s s' screen :=
  ⟨fun sc hsc => h.stack ▸ hw.stack sc hsc, fun sc hsc => h.stack ▸ hw.above sc hsc⟩

theorem SamePlace.within (h : SamePlace s' s) (screen : AppScreens) : Within s s' screen :=
  ⟨fun _ hsc => .inl (h.stack ▸ hsc), fun _ hsc => .inl (h.stack ▸ hsc)⟩

theorem mem_tail_concat {l : List AppScreens} {sc : AppScreens} (h : sc ∈ (l ++ [screen]).tail) :
    sc ∈ l.tail ∨ sc = screen := by
  cases l with
  | nil => cases h
  | cons x l => simpa using h

theorem tail_history_subset (s : AppState) {sc : AppScreens} (h : sc ∈ s.screenHistory.tail) :
    sc ∈ s.stack.tail := by
  unfold AppState.stack
  cases hh : s.screenHistory with
  | nil =>
    rw [hh] at h
    cases h
  | cons x l =>
    rw [hh] at h
    exact List.mem_append_left _ h

/-- Another screen in the place of the one that is shown. -/
theorem within_of_screen (hhistory : s'.screenHistory = s.screenHistory)
    (hscreen : s'.screen.isPostAuth = false) : Within s s' s'.screen := by
  constructor
  · intro sc hsc
    rw [AppState.stack, hhistory, List.mem_append, List.mem_singleton] at hsc
    exact hsc.imp_left (List.mem_append_left _)
  · intro sc hsc
    rw [AppState.stack, hhistory] at hsc
    rcases mem_tail_concat hsc with hsc | rfl
    · exact .inl (tail_history_subset s hsc)
    · exact .inr ⟨rfl, hscreen⟩

/-- A screen on top of the stack. -/
theorem within_of_concat (hstack : s'.stack = s.stack ++ [screen]) (h : screen.isPostAuth = false) :
    Within s s' screen := by
  constructor
  · intro sc hsc
    rwa [hstack, List.mem_append, List.mem_singleton] at hsc
  · intro sc hsc
    rw [hstack] at hsc
    exact (mem_tail_concat hsc).imp_right (⟨·, h⟩)

/-- A screen on its own. -/
theorem within_of_singleton (hstack : s'.stack = [screen]) : Within s s' screen := by
  constructor
  · intro sc hsc
    rw [hstack] at hsc
    exact .inr (List.mem_singleton.1 hsc)
  · intro sc hsc
    rw [hstack] at hsc
    cases hsc

theorem within_pushHistory (s : AppState) (h : screen.isPostAuth = false) :
    Within s (pushHistory screen s) screen := by
  unfold pushHistory
  split_ifs
  · exact SamePlace.within ⟨rfl, rfl⟩ screen
  · exact within_of_concat rfl h

theorem within_replaceHistory (screen : AppScreens) (s : AppState) :
    Within s (replaceHistory screen s) screen := by
  unfold replaceHistory
  split_ifs
  · exact SamePlace.within ⟨rfl, rfl⟩ screen
  · exact within_of_singleton rfl

theorem within_navigateBack (s : AppState) (screen : AppScreens) :
    Within s (navigateBack s) screen := by
  by_cases hnil : s.screenHistory = []
  · rw [navigateBack_of_nil hnil]
    exact SamePlace.within ⟨rfl, rfl⟩ screen
  · have hstack : (navigateBack s).stack = s.screenHistory := by
      unfold navigateBack
      rw [List.getLast?_eq_some_getLast hnil]
      exact List.dropLast_append_getLast hnil
    constructor
    · intro sc hsc
      exact .inl (List.mem_append_left _ (hstack ▸ hsc))
    · intro sc hsc
      exact .inl (tail_history_subset s (hstack ▸ hsc))

end Stack

/-! ## What an action does to the MFA state -/

/-- The response that the enrollment comes from. -/
def MfaState.codes (mfa : MfaState) : Option TotpCreated :=
  mfa.totpEnrollment.map fun e => ⟨e.secret, e.qrCode, e.recoveryCodes⟩

/-- What an action enrolls with. -/
def Action.enrolled (state : AppState) : Action → Option TotpCreated
  | .mfa (.totpCreateSuccess secret qrCode recoveryCodes memberId organizationId) =>
      if state.mfa.isEnrolling ∧ state.mfa.primaryInfo.map PrimaryInfo.memberId = some memberId ∧
          state.mfa.primaryInfo.map PrimaryInfo.organizationId = some organizationId then
        some ⟨secret, qrCode, recoveryCodes⟩
      else none
  | _ => none

/-- The MFA goes on, perhaps with the enrollment of `enrolled`. -/
structure MfaState.Keeps (enrolled : Option TotpCreated) (mfa mfa' : MfaState) : Prop where
  primaryInfo : mfa'.primaryInfo = mfa.primaryInfo
  isEnrolling : mfa'.isEnrolling = mfa.isEnrolling
  codes : mfa'.codes = enrolled.or mfa.codes

@[simp] theorem mfa_pushHistory (screen : AppScreens) (s : AppState) :
    (pushHistory screen s).mfa = s.mfa := by
  unfold pushHistory
  split_ifs <;> rfl

@[simp] theorem mfa_navigateBack (s : AppState) : (navigateBack s).mfa = s.mfa := by
  unfold navigateBack
  split <;> rfl

theorem MfaState.Keeps.of_eq {mfa mfa' : MfaState} (h : mfa' = mfa) : Keeps none mfa mfa' := by
  subst h
  exact ⟨rfl, rfl, rfl⟩

/-- An action that does not replace the MFA state keeps it. -/
theorem keeps_reducer (now : ℤ) (s : AppState) {a : Action} (h : a.replacesMfa s = false) :
    MfaState.Keeps (a.enrolled s) s.mfa (reducer now s a).mfa := by
  cases a with
  | transition screen push => cases push <;> exact .of_eq (by simp [reducer])
  | navigateBack => exact .of_eq (mfa_navigateBack s)
  | sendEmailOtp codeExpiration => exact .of_eq (mfa_pushHistory _ _)
  | usePasswordAuth email => exact .of_eq (mfa_pushHistory _ _)
  | setSsoDiscoveryState connections =>
    refine .of_eq ?_
    simp only [reducer]
    split_ifs
    · exact mfa_pushHistory _ _
    · exact mfa_pushHistory _ _
  | selectDiscoveredOrganization discovered =>
    refine .of_eq ?_
    simp only [reducer, selectDiscoveredOrganization]
    split_ifs
    · rfl
    · rfl
  | mfa action =>
    cases action with
    | primaryAuthenticateSuccess response includedMfaMethods resetTokenType =>
      simp only [Action.replacesMfa, Bool.or_eq_false_iff, Option.isNone_eq_false_iff,
        Option.isSome_iff_exists] at h
      obtain ⟨hsession, required, hrequired⟩ := h
      refine .of_eq ?_
      simp only [reducer, mfaReducer, primaryAuthenticateSuccess, hsession, hrequired,
        primaryRequiredState, Bool.false_eq_true, if_false]
      split_ifs
      · exact mfa_replaceHistory _ _
      · exact mfa_replaceHistory _ _
    | totpAuthenticateSuccess =>
      have henrolling : s.mfa.isEnrolling = true := by simpa [Action.replacesMfa] using h
      exact .of_eq (by simp [reducer, mfaReducer, henrolling])
    | totpCreateSuccess secret qrCode recoveryCodes memberId organizationId =>
      simp only [reducer, mfaReducer, Action.enrolled]
      by_cases hmember : s.mfa.isEnrolling ∧
          s.mfa.primaryInfo.map PrimaryInfo.memberId = some memberId ∧
          s.mfa.primaryInfo.map PrimaryInfo.organizationId = some organizationId
      · rw [if_pos hmember, if_neg (by simpa using hmember)]
        exact ⟨rfl, rfl, rfl⟩
      · rw [if_neg hmember, if_pos (by simpa [imp_iff_not_or] using hmember)]
        exact .of_eq rfl
    | totpShowCode method =>
      simp only [reducer, mfaReducer]
      split
      · next enrollment henrolling henrollment =>
        rw [mfa_pushHistory]
        exact ⟨rfl, rfl, by rw [MfaState.codes, MfaState.codes, henrollment]; rfl⟩
      · exact .of_eq rfl
    | smsOtpSend => exact ⟨rfl, rfl, rfl⟩
    | smsOtpSendSuccess destination =>
      rw [reducer, mfaReducer, mfa_pushHistory]
      exact ⟨rfl, rfl, rfl⟩
    | smsOtpSendError error => exact ⟨rfl, rfl, rfl⟩
    | smsOtpFormatDestination formattedPhoneNumber => exact ⟨rfl, rfl, rfl⟩
    | _ => cases h
  | _ => exact .of_eq rfl

/-! ## What the screens read -/

/-- What a screen of an MFA reads, and what the code that it asks for needs, is there. -/
def MfaState.Supplies (mfa : MfaState) : AppScreens → Prop
  | .MFAEnrollmentSelection | .TOTPEnrollmentQRCode =>
      mfa.primaryInfo.isSome = true ∧ mfa.isEnrolling = true
  | .TOTPEnrollmentManual | .RecoveryCodeSave =>
      mfa.primaryInfo.isSome = true ∧ mfa.codes.isSome = true
  | .TOTPEntry =>
      mfa.primaryInfo.isSome = true ∧ (mfa.isEnrolling = true → mfa.codes.isSome = true)
  | .SMSOTPEnrollment | .SMSOTPEntry | .RecoveryCodeEntry => mfa.primaryInfo.isSome = true
  | _ => True

/-- The stack of screens goes with the MFA state. -/
structure Sound (s : AppState) : Prop where
  supplied : ∀ sc ∈ s.stack, s.mfa.Supplies sc
  above : ∀ sc ∈ s.stack.tail, sc.isPostAuth = false
  postAuth : ∀ info, s.mfa.primaryInfo = some info → info.postAuthScreen.isPostAuth = true

section Sound

variable {s s' t : AppState} {screen : AppScreens} {enrolled : Option TotpCreated}

theorem MfaState.Keeps.supplies {mfa mfa' : MfaState} (h : mfa.Keeps enrolled mfa')
    (hs : mfa.Supplies screen) : mfa'.Supplies screen := by
  have hcodes : mfa.codes.isSome = true → mfa'.codes.isSome = true := fun hsome => by
    rw [h.codes, Option.isSome_or, hsome, Bool.or_true]
  cases screen <;>
    simp only [MfaState.Supplies, h.primaryInfo, h.isEnrolling] at hs ⊢ <;> grind

theorem supplies_of_not_isMfa (mfa : MfaState) (h : screen.isMfa = false) : mfa.Supplies screen := by
  cases screen <;> trivial

theorem not_isPostAuth_of_isMfa (h : screen.isMfa = true) : screen.isPostAuth = false := by
  cases screen <;> first | rfl | cases h

theorem isMfa_of_isPostAuth (h : screen.isPostAuth = true) : screen.isMfa = false := by
  cases screen <;> first | rfl | cases h

theorem postAuthScreen_isPostAuth (resetTokenType : Option String) :
    (postAuthScreen resetTokenType).isPostAuth = true := by
  unfold postAuthScreen
  split_ifs <;> rfl

/-- A move within an MFA, to a screen that has what it reads. -/
theorem Sound.within (h : Sound s) (hw : Within s s' screen) (hk : s.mfa.Keeps enrolled s'.mfa)
    (hs : s'.mfa.Supplies screen) : Sound s' := by
  refine ⟨fun sc hsc => ?_, fun sc hsc => ?_, fun info hinfo => ?_⟩
  · rcases hw.stack sc hsc with hsc | rfl
    · exact hk.supplies (h.supplied sc hsc)
    · exact hs
  · rcases hw.above sc hsc with hsc | ⟨rfl, hsc⟩
    · exact h.above sc hsc
    · exact hsc
  · exact h.postAuth info (hk.primaryInfo ▸ hinfo)

/-- The screen that an MFA ends on is on its own: it was not above another screen before. -/
theorem Sound.stack_replaceHistory (h : Sound s) (hplace : SamePlace t s)
    (hpost : screen.isPostAuth = true) : (replaceHistory screen t).stack = [screen] := by
  unfold replaceHistory
  split_ifs with hsame
  · cases hhistory : t.screenHistory with
    | nil => rw [AppState.stack, hhistory, hsame]; rfl
    | cons first rest =>
      have htop : screen ∈ s.stack.tail := by
        rw [← hplace.stack, AppState.stack, hhistory, hsame]
        exact List.mem_append_right _ (List.mem_singleton_self _)
      rw [h.above screen htop] at hpost
      cases hpost
  · rfl

/-- The end of an MFA. -/
theorem Sound.ended (h : Sound s) (hplace : SamePlace t s) (hpost : screen.isPostAuth = true)
    (hnone : t.mfa.primaryInfo = none) : Sound (replaceHistory screen t) := by
  have hstack := h.stack_replaceHistory hplace hpost
  refine ⟨fun sc hsc => ?_, fun sc hsc => ?_, fun info hinfo => ?_⟩
  · rw [hstack, List.mem_singleton] at hsc
    subst hsc
    exact supplies_of_not_isMfa _ (isMfa_of_isPostAuth hpost)
  · rw [hstack] at hsc
    cases hsc
  · rw [mfa_replaceHistory, hnone] at hinfo
    cases hinfo

end Sound

/-! ## The start of an MFA -/

/-- The response of a primary authentication that an MFA follows. -/
def Starts (response : AuthenticateResponseWithMFA) : Prop :=
  response.memberSession = false ∧ response.primaryRequired = none

/-- The answer that starts an MFA does not find the screen that it leads to above others. -/
def AppState.Anew (s : AppState) (response : AuthenticateResponseWithMFA)
    (includedMfaMethods : Option (List B2BMFAProducts)) (resetTokenType : Option String) : Prop :=
  s.screenHistory = [] ∨
    s.screen ≠ primaryAuthenticateScreen response includedMfaMethods resetTokenType

theorem stack_replaceHistory_of_anew {s t : AppState} {screen : AppScreens} (hplace : SamePlace t s)
    (h : s.screenHistory = [] ∨ s.screen ≠ screen) : (replaceHistory screen t).stack = [screen] := by
  unfold replaceHistory
  split_ifs with hsame
  · have hnil := h.resolve_right (fun hne => hne (hplace.screen ▸ hsame))
    rw [AppState.stack, hplace.screenHistory, hnil, hsame]
    rfl
  · rfl

theorem of_eq_false {b : Bool} {p : Prop} (h : b = false) (htrue : b = true) : p := by
  rw [h] at htrue
  cases htrue

theorem getNextEnrollmentScreen_cases (enabledMethods : List B2BMFAProducts) :
    getNextEnrollmentScreen enabledMethods = .TOTPEnrollmentQRCode ∨
      getNextEnrollmentScreen enabledMethods = .SMSOTPEnrollment ∨
      getNextEnrollmentScreen enabledMethods = .MFAEnrollmentSelection := by
  unfold getNextEnrollmentScreen
  split_ifs
  · exact .inl rfl
  · exact .inr (.inl rfl)
  · exact .inr (.inr rfl)
  · exact .inr (.inr rfl)

/-- The state that an MFA starts in. -/
structure Started (s : AppState) (response : AuthenticateResponseWithMFA)
    (resetTokenType : Option String) : Prop where
  primaryInfo : s.mfa.primaryInfo = some (primaryInfo response resetTokenType)
  isEnrolling : s.mfa.isEnrolling = true →
    entryMethod response (B2B.primaryInfo response resetTokenType) = none
  codes : s.mfa.codes = none
  stack : ∀ sc ∈ s.stack, s.mfa.Supplies sc ∧ sc.isMfa = true ∧ sc ≠ .RecoveryCodeSave

theorem Started.of_replaceHistory {s t : AppState} {screen : AppScreens}
    {response : AuthenticateResponseWithMFA} {resetTokenType : Option String} (hplace : SamePlace t s)
    (hanew : s.screenHistory = [] ∨ s.screen ≠ screen)
    (hinfo : t.mfa.primaryInfo = some (B2B.primaryInfo response resetTokenType))
    (henrolling : t.mfa.isEnrolling = true →
      entryMethod response (B2B.primaryInfo response resetTokenType) = none)
    (hcodes : t.mfa.codes = none)
    (hscreen : t.mfa.Supplies screen ∧ screen.isMfa = true ∧ screen ≠ .RecoveryCodeSave) :
    Started (replaceHistory screen t) response resetTokenType := by
  refine ⟨?_, ?_, ?_, fun sc hsc => ?_⟩
  · rwa [mfa_replaceHistory]
  · rwa [mfa_replaceHistory]
  · rwa [mfa_replaceHistory]
  · rw [stack_replaceHistory_of_anew hplace hanew, List.mem_singleton] at hsc
    subst hsc
    rwa [mfa_replaceHistory]

theorem started (now : ℤ) {s : AppState} {response : AuthenticateResponseWithMFA}
    {includedMfaMethods : Option (List B2BMFAProducts)} {resetTokenType : Option String}
    (hstarts : Starts response) (hanew : s.Anew response includedMfaMethods resetTokenType) :
    Started (primaryAuthenticateSuccess now s response includedMfaMethods resetTokenType) response
      resetTokenType := by
  obtain ⟨hsession, hrequired⟩ := hstarts
  unfold AppState.Anew primaryAuthenticateScreen at hanew
  unfold primaryAuthenticateSuccess
  simp only [hsession, hrequired, Bool.false_eq_true, if_false] at hanew ⊢
  cases hentry : entryMethod response (primaryInfo response resetTokenType) with
  | none =>
    rw [hentry] at hanew
    refine .of_replaceHistory ⟨rfl, rfl⟩ hanew rfl (fun _ => hentry) rfl ?_
    rcases getNextEnrollmentScreen_cases (getEnabledMethods B2B_MFA_METHODS
      (primaryInfo response resetTokenType).organizationMfaOptionsSupported includedMfaMethods) with
      h | h | h
    · rw [h]
      exact ⟨⟨rfl, rfl⟩, rfl, by decide⟩
    · rw [h]
      exact ⟨rfl, rfl, by decide⟩
    · rw [h]
      exact ⟨⟨rfl, rfl⟩, rfl, by decide⟩
  | some method =>
    rw [hentry] at hanew
    cases method with
    | totp =>
      exact .of_replaceHistory ⟨rfl, rfl⟩ hanew rfl (of_eq_false rfl) rfl
        ⟨⟨rfl, of_eq_false rfl⟩, rfl, by decide⟩
    | smsOtp =>
      dsimp only
      by_cases hverified : response.member.mfaPhoneNumberVerified = true
      · rw [if_pos hverified]
        exact .of_replaceHistory ⟨rfl, rfl⟩ hanew rfl (of_eq_false rfl) rfl ⟨rfl, rfl, by decide⟩
      · rw [if_neg hverified]
        refine ⟨rfl, of_eq_false rfl, rfl, fun sc hsc => ?_⟩
        rcases List.mem_cons.1 hsc with rfl | hsc
        · exact ⟨rfl, rfl, by decide⟩
        · obtain rfl := List.mem_singleton.1 hsc
          exact ⟨rfl, rfl, (by decide : AppScreens.SMSOTPEntry ≠ .RecoveryCodeSave)⟩

/-! ## What an event can do -/

/-- The screen that makes a request. -/
def MFARequest.screen : MFARequest → AppScreens
  | .parsePhoneNumber _ _ _ _ | .smsEnroll _ _ _ _ _ => .SMSOTPEnrollment
  | .formatNumber _ | .smsSend _ _ _ | .smsAuthenticate _ _ _ _ => .SMSOTPEntry
  | .totpCreate _ _ => .TOTPEnrollmentQRCode
  | .totpAuthenticate _ _ _ _ => .TOTPEntry
  | .recover _ _ _ _ => .RecoveryCodeEntry

/-- What the handlers and the effects of the screens of an MFA come to. -/
inductive Handled (now : ℤ) (s : MFAFlow) : MFAFlow → Prop where
  | asked (request : MFARequest) : s.app.screen = request.screen → Handled now s (s.ask request)
  | sent (request : MFARequest) : s.app.screen = request.screen →
      Handled now s ((s.dispatch now (.mfa .smsOtpSend)).ask request)
  | selected (option : B2BMFAProducts) : s.app.screen = .MFAEnrollmentSelection →
      Handled now s (s.dispatch now (.transition (mfaOptions option) true))
  | scanned {info : PrimaryInfo} : s.app.screen = .TOTPEnrollmentQRCode →
      s.app.mfa.primaryInfo = some info →
      (s.created (info.memberId, info.organizationId)).isSome = true →
      Handled now s (s.dispatch now (.transition .TOTPEntry true))
  | copied : s.app.screen = .TOTPEnrollmentManual →
      Handled now s (s.dispatch now (.transition .TOTPEntry true))
  | switched {info : PrimaryInfo} (screen : AppScreens) : s.app.mfa.primaryInfo = some info →
      s.app.mfa.isEnrolling = false →
      screen = .SMSOTPEntry ∨ screen = .RecoveryCodeEntry ∨ screen = .TOTPEntry →
      Handled now s (s.dispatch now (.transition screen true))
  | shown : s.app.screen = .TOTPEnrollmentQRCode →
      Handled now s (s.dispatch now (.mfa (.totpShowCode (some .manual))))
  | back : Handled now s (s.dispatch now .navigateBack)
  | acknowledged : s.app.screen = .RecoveryCodeSave →
      Handled now s (s.dispatch now (.mfa .recoveryCodeSaveAcknowledge))

theorem isEnrolling_of_isAvailable {info : PrimaryInfo} {isEnrolling : Bool} {method : B2BMFAProducts}
    (h : isAvailable info isEnrolling method = true) : isEnrolling = false := by
  simp only [isAvailable, Bool.and_eq_true, Bool.not_eq_true'] at h
  exact h.1.1

section Handled

variable {config : MFAConfig} {now : ℤ} {s s' : MFAFlow} {info : PrimaryInfo} {event : ScreenEvent}

theorem handled_selection (hscreen : s.app.screen = .MFAEnrollmentSelection)
    (h : MFAEnrollmentSelectionScreen config now s info event = some s') : Handled now s s' := by
  unfold MFAEnrollmentSelectionScreen at h
  split at h
  · split_ifs at h
    obtain rfl := Option.some.inj h
    exact .selected _ hscreen
  · cases h

theorem handled_qr (hscreen : s.app.screen = .TOTPEnrollmentQRCode)
    (hinfo : s.app.mfa.primaryInfo = some info)
    (h : TOTPEnrollQRScreen now s info event = some s') : Handled now s s' := by
  unfold TOTPEnrollQRScreen at h
  split at h
  · split_ifs at h
    obtain rfl := Option.some.inj h
    exact .asked _ hscreen
  · split_ifs at h
    obtain rfl := Option.some.inj h
    exact .shown hscreen
  · split_ifs at h with hcreated
    obtain rfl := Option.some.inj h
    exact .scanned hscreen hinfo hcreated
  · cases h

theorem handled_manual (hscreen : s.app.screen = .TOTPEnrollmentManual)
    (h : TOTPEnrollManualScreen now s event = some s') : Handled now s s' := by
  unfold TOTPEnrollManualScreen at h
  split at h
  · obtain rfl := Option.some.inj h
    exact .back
  · obtain rfl := Option.some.inj h
    exact .copied hscreen
  · cases h

theorem handled_totpEntry (hscreen : s.app.screen = .TOTPEntry)
    (hinfo : s.app.mfa.primaryInfo = some info)
    (h : TOTPEntryScreen config now s info event = some s') : Handled now s s' := by
  unfold TOTPEntryScreen at h
  split at h
  · obtain rfl := Option.some.inj h
    exact .asked _ hscreen
  · split_ifs at h with havailable
    obtain rfl := Option.some.inj h
    exact .switched _ hinfo (isEnrolling_of_isAvailable havailable) (.inl rfl)
  · split_ifs at h with henrolling
    obtain rfl := Option.some.inj h
    exact .switched _ hinfo (Bool.eq_false_iff.2 henrolling) (.inr (.inl rfl))
  · split_ifs at h
    obtain rfl := Option.some.inj h
    exact .back
  · cases h

theorem handled_smsEnroll (hscreen : s.app.screen = .SMSOTPEnrollment)
    (h : SMSOTPEnrollScreen now s info event = some s') : Handled now s s' := by
  unfold SMSOTPEnrollScreen at h
  split at h
  · split_ifs at h
    obtain rfl := Option.some.inj h
    exact .sent _ hscreen
  · split_ifs at h
    obtain rfl := Option.some.inj h
    exact .back
  · cases h

theorem handled_smsEntry (hscreen : s.app.screen = .SMSOTPEntry)
    (hinfo : s.app.mfa.primaryInfo = some info)
    (h : SMSOTPEntryScreen config now s info event = some s') : Handled now s s' := by
  unfold SMSOTPEntryScreen at h
  split at h
  · obtain rfl := Option.some.inj h
    exact .sent _ hscreen
  · split_ifs at h
    obtain rfl := Option.some.inj h
    exact .asked _ hscreen
  · split_ifs at h
    obtain rfl := Option.some.inj h
    exact .asked _ hscreen
  · split_ifs at h with havailable
    obtain rfl := Option.some.inj h
    exact .switched _ hinfo (isEnrolling_of_isAvailable havailable) (.inr (.inr rfl))
  · split_ifs at h
    obtain rfl := Option.some.inj h
    exact .back
  · cases h

theorem handled_recoveryCodeEntry (hscreen : s.app.screen = .RecoveryCodeEntry)
    (h : RecoveryCodeEntryScreen config now s info event = some s') : Handled now s s' := by
  unfold RecoveryCodeEntryScreen at h
  split at h
  · split_ifs at h
    obtain rfl := Option.some.inj h
    exact .asked _ hscreen
  · obtain rfl := Option.some.inj h
    exact .back
  · cases h

theorem handled_recoveryCodeSave (hscreen : s.app.screen = .RecoveryCodeSave)
    (h : RecoveryCodeSaveScreen now s event = some s') : Handled now s s' := by
  unfold RecoveryCodeSaveScreen at h
  split at h
  · obtain rfl := Option.some.inj h
    exact .acknowledged hscreen
  · cases h

theorem handled (h : onScreen config now s event = some s') : Handled now s s' := by
  unfold onScreen at h
  split at h
  case h_9 => cases h
  all_goals
    next hscreen =>
    obtain ⟨info, hinfo, h⟩ := Option.bind_eq_some_iff.1 h
    first
      | exact handled_selection hscreen h
      | exact handled_qr hscreen hinfo h
      | exact handled_manual hscreen h
      | exact handled_totpEntry hscreen hinfo h
      | exact handled_smsEnroll hscreen h
      | exact handled_smsEntry hscreen hinfo h
      | exact handled_recoveryCodeEntry hscreen h
      | exact handled_recoveryCodeSave hscreen h

end Handled

/-- The other screens move to screens outside of an MFA, to the one it ends on after a password was
reset in a session. -/
theorem within_other (now : ℤ) {s : AppState} {a : Action} (h : a.ofOtherScreens s = true)
    (hkeeps : a.replacesMfa s = false) :
    ∃ screen, Within s (reducer now s a) screen ∧ screen.isMfa = false ∧
      (screen.isPostAuth = true → a = .transition .LoggedIn false) := by
  cases a with
  | transition screen push =>
    cases push with
    | true =>
      have hmem : screen ∈ [AppScreens.SSODiscoveryEmail, .EmailMethodSelection] := by
        simpa [Action.ofOtherScreens] using h
      have hplain : screen.isMfa = false ∧ screen.isPostAuth = false := by
        clear h hkeeps
        revert screen
        decide
      exact ⟨screen, within_pushHistory s hplain.2, hplain.1,
        of_eq_false hplain.2⟩
    | false =>
      have hmem : screen ∈ [AppScreens.Main, .LoggedIn, .Discovery, .Error, .EmailConfirmation,
          .PasswordForgotForm, .PasswordResetVerifyConfirmation, .PasswordSetNewConfirmation] := by
        simpa [Action.ofOtherScreens] using h
      have hplain : screen.isMfa = false ∧ (screen.isPostAuth = true → screen = .LoggedIn) := by
        clear h hkeeps
        revert screen
        decide
      exact ⟨screen, within_replaceHistory screen s, hplain.1, fun hpost => by rw [hplain.2 hpost]⟩
  | navigateBack => exact ⟨.Main, within_navigateBack s .Main, rfl, of_eq_false rfl⟩
  | setErrorMessageAndTransition errorType canGoBack =>
    exact ⟨.Error, within_of_screen rfl rfl, rfl, of_eq_false rfl⟩
  | setDiscoveryState email discoveredOrganizations =>
    exact ⟨.Discovery, within_of_screen rfl rfl, rfl, of_eq_false rfl⟩
  | selectDiscoveredOrganization discovered =>
    simp only [reducer, selectDiscoveredOrganization]
    split_ifs
    · exact ⟨.Error, within_of_screen rfl rfl, rfl, of_eq_false rfl⟩
    · exact ⟨.Main, within_of_screen rfl rfl, rfl, of_eq_false rfl⟩
  | sendEmailOtp codeExpiration =>
    exact ⟨.EmailOTPEntry, (within_pushHistory _ rfl).of_place ⟨rfl, rfl⟩, rfl, of_eq_false rfl⟩
  | usePasswordAuth email =>
    exact ⟨.PasswordAuthenticate, (within_pushHistory _ rfl).of_place ⟨rfl, rfl⟩, rfl, of_eq_false rfl⟩
  | setSsoDiscoveryState connections =>
    simp only [reducer]
    split_ifs
    · exact ⟨.SSODiscoveryFallback, within_pushHistory _ rfl, rfl, of_eq_false rfl⟩
    · exact ⟨.SSODiscoveryMenu, (within_pushHistory _ rfl).of_place ⟨rfl, rfl⟩, rfl, of_eq_false rfl⟩
  | mfa action =>
    cases action with
    | primaryAuthenticateSuccess response includedMfaMethods resetTokenType =>
      simp only [Action.replacesMfa, Bool.or_eq_false_iff, Option.isNone_eq_false_iff,
        Option.isSome_iff_exists] at hkeeps
      obtain ⟨hsession, required, hrequired⟩ := hkeeps
      simp only [reducer, mfaReducer, primaryAuthenticateSuccess, hsession, hrequired,
        primaryRequiredState, Bool.false_eq_true, if_false]
      split_ifs
      · exact ⟨.Error, (within_replaceHistory _ _).of_place ⟨rfl, rfl⟩, rfl, of_eq_false rfl⟩
      · exact ⟨.Main, (within_replaceHistory _ _).of_place ⟨rfl, rfl⟩, rfl, of_eq_false rfl⟩
    | _ => cases h
  | setUserSuppliedEmail email => exact ⟨.Main, ⟨fun _ => .inl, fun _ => .inl⟩, rfl, of_eq_false rfl⟩
  | setOrganization organization => exact ⟨.Main, ⟨fun _ => .inl, fun _ => .inl⟩, rfl, of_eq_false rfl⟩
  | setPasswordState email => exact ⟨.Main, ⟨fun _ => .inl, fun _ => .inl⟩, rfl, of_eq_false rfl⟩

theorem enrolled_of_other {s : AppState} {a : Action} (h : a.ofOtherScreens s = true) :
    a.enrolled s = none := by
  cases a with
  | mfa action =>
    cases action with
    | totpCreateSuccess secret qrCode recoveryCodes memberId organizationId => cases h
    | _ => rfl
  | _ => rfl

/-- Of the other screens, only a primary authentication replaces the MFA state. -/
theorem primary_of_replacesMfa {s : AppState} {a : Action} (h : a.ofOtherScreens s = true)
    (hreplaces : a.replacesMfa s = true) :
    ∃ response includedMfaMethods resetTokenType,
      a = .mfa (.primaryAuthenticateSuccess response includedMfaMethods resetTokenType) ∧
        (response.memberSession = true ∨ Starts response) := by
  cases a with
  | mfa action =>
    cases action with
    | primaryAuthenticateSuccess response includedMfaMethods resetTokenType =>
      refine ⟨response, includedMfaMethods, resetTokenType, rfl, ?_⟩
      simp only [Action.replacesMfa, Bool.or_eq_true, Option.isNone_iff_eq_none] at hreplaces
      cases hsession : response.memberSession with
      | true => exact .inl rfl
      | false => exact .inr ⟨hsession, hreplaces.resolve_left (by rw [hsession]; nofun)⟩
    | _ => cases h
  | _ => cases hreplaces

theorem within_showManualCode (now : ℤ) (s : AppState) :
    Within s (reducer now s (.mfa (.totpShowCode (some .manual)))) .TOTPEnrollmentManual := by
  simp only [reducer, mfaReducer]
  split
  · exact (within_pushHistory _ rfl).of_place ⟨rfl, rfl⟩
  · exact ⟨fun _ => .inl, fun _ => .inl⟩

theorem samePlace_totpCreateSuccess (now : ℤ) (s : AppState) (secret qrCode : String)
    (recoveryCodes : List String) (memberId organizationId : String) :
    SamePlace (reducer now s
      (.mfa (.totpCreateSuccess secret qrCode recoveryCodes memberId organizationId))) s := by
  simp only [reducer, mfaReducer]
  split_ifs
  · exact ⟨rfl, rfl⟩
  · exact ⟨rfl, rfl⟩

end StytchBrowser.Web.B2B
