import StytchBrowser.Web.B2BUI.MFASteps

/-!
# Runs through an MFA

What holds of the screens of an MFA whatever order the events and the answers come in.

* `screens_supplied`: as long as answers come in time (`Timely`), the screen that is shown and every
  screen behind it have what they read, and the recovery codes are those of the QR code.
* `mfa_not_bypassed`: since an MFA started, no screen behind it is shown or can be gone back to until
  a second factor is accepted or there is a session from elsewhere.
-/

namespace StytchBrowser.Web.B2B

open ReactNative.B2B (AuthenticateResponseWithMFA B2BMFAProducts)

/-! ## Answers in time -/

/-- An answer comes in the MFA that it was asked for in. An MFA starts on a stack of its own, and an
enrollment without data from before. -/
def Timely : Machine.Guard MFAFlow (ℤ × MFAEvent) := fun _ s a =>
  match a.2 with
  | .onScreen _ => True
  | .answer i _ => ∀ r, s.pending[i]? = some r → r.1 = s.mfaNumber
  | .other (.mfa (.primaryAuthenticateSuccess response includedMfaMethods resetTokenType)) =>
      Starts response → s.app.Anew response includedMfaMethods resetTokenType ∧
        (entryMethod response (primaryInfo response resetTokenType) = none →
          s.created (response.memberId, response.organization.organizationId) = none)
  | .other _ => True

/-- The invariant of runs whose answers come in time. -/
structure MFAFlow.Sound (s : MFAFlow) : Prop where
  app : B2B.Sound s.app
  /-- The code that is shown is the one that was enrolled with. -/
  agrees : ∀ info data, s.app.mfa.primaryInfo = some info → s.app.mfa.isEnrolling = true →
    s.created (info.memberId, info.organizationId) = some data → s.app.mfa.codes = some data
  asked : ∀ r ∈ s.pending, r.1 = s.mfaNumber → s.app.mfa.Supplies r.2.screen
  numbers : ∀ r ∈ s.pending, r.1 ≤ s.mfaNumber

namespace MFAFlow

variable {config : MFAConfig} {now : ℤ} {s s' : MFAFlow} {a : Action} {screen : AppScreens}

theorem Sound.ask (h : s.Sound) {request : MFARequest}
    (hs : s.app.mfa.Supplies request.screen) : (s.ask request).Sound where
  app := h.app
  agrees := h.agrees
  asked r hr hnow := by
    rcases List.mem_append.1 hr with hr | hr
    · exact h.asked r hr hnow
    · rw [List.mem_singleton.1 hr]
      exact hs
  numbers r hr := by
    rcases List.mem_append.1 hr with hr | hr
    · exact h.numbers r hr
    · rw [List.mem_singleton.1 hr]
      exact Nat.le_refl _

theorem Sound.answered (h : s.Sound) (i : ℕ) :
    ({ s with pending := s.pending.eraseIdx i } : MFAFlow).Sound where
  app := h.app
  agrees := h.agrees
  asked r hr := h.asked r (List.mem_of_mem_eraseIdx hr)
  numbers r hr := h.numbers r (List.mem_of_mem_eraseIdx hr)

/-- A move within an MFA. -/
theorem Sound.move (h : s.Sound) (hkeeps : a.replacesMfa s.app = false)
    (henrolled : a.enrolled s.app = none) (hw : Within s.app (reducer now s.app a) screen)
    (hs : s.app.mfa.Supplies screen) : (s.dispatch now a).Sound := by
  have hk := keeps_reducer now s.app hkeeps
  have hnumber : (s.dispatch now a).mfaNumber = s.mfaNumber := by
    rw [dispatch, hkeeps]
    rfl
  refine ⟨h.app.within hw hk (hk.supplies hs), ?_, ?_, ?_⟩
  · intro info data hinfo henrolling hdata
    have hcodes : (reducer now s.app a).mfa.codes = s.app.mfa.codes := by
      rw [hk.codes, henrolled]
      rfl
    exact hcodes.trans
      (h.agrees info data (hk.primaryInfo ▸ hinfo) (hk.isEnrolling ▸ henrolling) hdata)
  · intro r hr hnow
    exact hk.supplies (h.asked r hr (hnow.trans hnumber))
  · intro r hr
    exact hnumber.symm ▸ h.numbers r hr

/-- The MFA state is replaced. What was asked before is not of this MFA. -/
theorem Sound.replace (h : s.Sound) (hreplaces : a.replacesMfa s.app = true)
    (happ : B2B.Sound (reducer now s.app a))
    (hagrees : ∀ info data, (reducer now s.app a).mfa.primaryInfo = some info →
      (reducer now s.app a).mfa.isEnrolling = true →
      s.created (info.memberId, info.organizationId) = some data →
      (reducer now s.app a).mfa.codes = some data) : (s.dispatch now a).Sound := by
  have hnumber : (s.dispatch now a).mfaNumber = s.mfaNumber + 1 := by
    rw [dispatch, hreplaces]
    rfl
  refine ⟨happ, hagrees, ?_, ?_⟩
  · intro r hr hnow
    have hle := h.numbers r hr
    omega
  · intro r hr
    exact (h.numbers r hr).trans (hnumber ▸ Nat.le_succ _)

theorem Sound.stay (h : s.Sound) (hkeeps : a.replacesMfa s.app = false)
    (henrolled : a.enrolled s.app = none) (hplace : SamePlace (reducer now s.app a) s.app) :
    (s.dispatch now a).Sound :=
  h.move hkeeps henrolled (hplace.within .Main) trivial

theorem Sound.push (h : s.Sound) (hmfa : screen.isMfa = true) (hs : s.app.mfa.Supplies screen) :
    (s.dispatch now (.transition screen true)).Sound :=
  h.move rfl rfl (within_pushHistory s.app (not_isPostAuth_of_isMfa hmfa)) hs

/-- A second factor was accepted, or the recovery codes were saved. -/
theorem Sound.ended (h : s.Sound) (hreplaces : a.replacesMfa s.app = true)
    (happ : reducer now s.app a =
      replaceHistory s.app.mfa.postAuthScreen { s.app with mfa := DEFAULT_MFA_STATE }) :
    (s.dispatch now a).Sound := by
  have hpost : s.app.mfa.postAuthScreen.isPostAuth = true := by
    unfold MfaState.postAuthScreen
    cases hinfo : s.app.mfa.primaryInfo with
    | none => rfl
    | some info => exact h.app.postAuth info hinfo
  refine h.replace hreplaces (happ ▸ h.app.ended ⟨rfl, rfl⟩ hpost rfl) fun info data hinfo => ?_
  rw [happ, mfa_replaceHistory] at hinfo
  cases hinfo

/-- A response of `totp.create`, for this MFA or another. -/
theorem Sound.fetched (h : s.Sound) (memberId organizationId : String) (response : TotpCreated) :
    ({ s with
        created := Function.update s.created (memberId, organizationId) (some response) }.dispatch now
      (.mfa (.totpCreateSuccess response.secret response.qrCode response.recoveryCodes memberId
        organizationId))).Sound := by
  have hk := keeps_reducer now s.app (a := .mfa (.totpCreateSuccess response.secret response.qrCode
    response.recoveryCodes memberId organizationId)) rfl
  have hplace := samePlace_totpCreateSuccess now s.app response.secret response.qrCode
    response.recoveryCodes memberId organizationId
  refine ⟨h.app.within (hplace.within .Main) hk trivial, ?_, ?_, h.numbers⟩
  · intro info data hinfo henrolling hdata
    have hinfo : s.app.mfa.primaryInfo = some info := hk.primaryInfo ▸ hinfo
    have henrolling : s.app.mfa.isEnrolling = true := hk.isEnrolling ▸ henrolling
    have hcodes := hk.codes
    simp only [Action.enrolled, henrolling, hinfo, Option.map_some, Option.some.injEq,
      true_and] at hcodes
    simp only [dispatch, Function.update_apply, Prod.mk.injEq] at hdata
    split_ifs at hcodes hdata with hmember
    · exact hcodes.trans hdata
    · exact hcodes.trans (h.agrees info data hinfo henrolling hdata)
  · intro r hr hnow
    exact hk.supplies (h.asked r hr hnow)

theorem Sound.showManualCode (h : s.Sound) (hsome : s.app.mfa.primaryInfo.isSome = true) :
    (s.dispatch now (.mfa (.totpShowCode (some .manual)))).Sound := by
  by_cases hcode : s.app.mfa.isEnrolling = true ∧ s.app.mfa.codes.isSome = true
  · exact h.move rfl rfl (within_showManualCode now s.app) ⟨hsome, hcode.2⟩
  · refine h.stay rfl rfl ?_
    simp only [reducer, mfaReducer]
    split
    · next enrollment henrolling henrollment =>
      exact absurd ⟨henrolling, by rw [MfaState.codes, henrollment]; rfl⟩ hcode
    · exact ⟨rfl, rfl⟩

theorem Sound.handled (h : s.Sound) (hs : Handled now s s') : s'.Sound := by
  have hshown : s.app.mfa.Supplies s.app.screen := h.app.supplied _ (screen_mem_stack _)
  cases hs with
  | asked request hscreen => exact h.ask (hscreen ▸ hshown)
  | sent request hscreen =>
    exact (h.stay rfl rfl ⟨rfl, rfl⟩).ask (hscreen ▸ hshown)
  | selected option hscreen =>
    rw [hscreen] at hshown
    cases option with
    | totp => exact h.push rfl hshown
    | smsOtp => exact h.push rfl hshown.1
  | scanned hscreen hinfo hcreated =>
    rw [hscreen] at hshown
    obtain ⟨data, hdata⟩ := Option.isSome_iff_exists.1 hcreated
    exact h.push rfl ⟨hshown.1, fun _ => by rw [h.agrees _ _ hinfo hshown.2 hdata]; rfl⟩
  | copied hscreen =>
    rw [hscreen] at hshown
    exact h.push rfl ⟨hshown.1, fun _ => hshown.2⟩
  | switched screen hinfo henrolling hscreen =>
    have hsome : s.app.mfa.primaryInfo.isSome = true := by rw [hinfo]; rfl
    rcases hscreen with rfl | rfl | rfl
    · exact h.push rfl hsome
    · exact h.push rfl hsome
    · exact h.push rfl ⟨hsome, fun h => by rw [henrolling] at h; cases h⟩
  | shown hscreen =>
    rw [hscreen] at hshown
    exact h.showManualCode hshown.1
  | back => exact h.move rfl rfl (within_navigateBack s.app .Main) trivial
  | acknowledged hscreen => exact h.ended rfl rfl

/-- A code was accepted. One that was enrolled with leads to the recovery codes. -/
theorem Sound.totpAuthenticated (h : s.Sound) (hneeds : s.app.mfa.Supplies .TOTPEntry) :
    (s.dispatch now (.mfa .totpAuthenticateSuccess)).Sound := by
  by_cases henrolling : s.app.mfa.isEnrolling = true
  · have happ : reducer now s.app (.mfa .totpAuthenticateSuccess) =
        replaceHistory .RecoveryCodeSave s.app := by simp [reducer, mfaReducer, henrolling]
    have hw := within_replaceHistory .RecoveryCodeSave s.app
    have hs : s.app.mfa.Supplies .RecoveryCodeSave := ⟨hneeds.1, hneeds.2 henrolling⟩
    exact h.move (by simp [Action.replacesMfa, henrolling]) rfl (happ ▸ hw) hs
  · exact h.ended (by simp [Action.replacesMfa, henrolling])
      (by simp [reducer, mfaReducer, henrolling])

theorem Sound.answer (h : s.Sound) {request : MFARequest} {answer : MFAAnswer}
    (hneeds : s.app.mfa.Supplies request.screen)
    (hs : B2B.answered config now s request answer = some s') : s'.Sound := by
  have hsent : ∀ destination, s.app.mfa.primaryInfo.isSome = true →
      (s.dispatch now (.mfa (.smsOtpSendSuccess destination))).Sound := fun _ hsome =>
    h.move rfl rfl ((within_pushHistory _ rfl).of_place ⟨rfl, rfl⟩) hsome
  have herror : ∀ error, (s.dispatch now (.mfa (.smsOtpSendError error))).Sound := fun _ =>
    h.stay rfl rfl ⟨rfl, rfl⟩
  cases request with
  | parsePhoneNumber phoneNumber country memberId organizationId =>
    cases answer with
    | parsed response phoneNumber' countryCode =>
      simp only [B2B.answered] at hs
      split_ifs at hs
      · exact Option.some.inj hs ▸ h.ask hneeds
      · exact Option.some.inj hs ▸ herror _
    | _ => cases hs
  | formatNumber phoneNumber =>
    cases answer with
    | parsed response phoneNumber' countryCode =>
      exact Option.some.inj hs ▸ h.stay rfl rfl ⟨rfl, rfl⟩
    | _ => cases hs
  | smsEnroll mfaPhoneNumber memberId organizationId locale destination =>
    cases answer with
    | ok => exact Option.some.inj hs ▸ hsent _ hneeds
    | error error => exact Option.some.inj hs ▸ herror _
    | _ => cases hs
  | smsSend memberId organizationId locale =>
    cases answer with
    | ok => exact Option.some.inj hs ▸ hsent _ hneeds
    | error error => exact Option.some.inj hs ▸ herror _
    | _ => cases hs
  | smsAuthenticate code memberId organizationId sessionDurationMinutes =>
    cases answer with
    | ok => exact Option.some.inj hs ▸ h.ended rfl rfl
    | error error => exact Option.some.inj hs ▸ h
    | _ => cases hs
  | totpCreate memberId organizationId =>
    cases answer with
    | created response => exact Option.some.inj hs ▸ h.fetched memberId organizationId response
    | error error => exact Option.some.inj hs ▸ h
    | _ => cases hs
  | totpAuthenticate code memberId organizationId sessionDurationMinutes =>
    cases answer with
    | ok => exact Option.some.inj hs ▸ h.totpAuthenticated hneeds
    | error error => exact Option.some.inj hs ▸ h
    | _ => cases hs
  | recover recoveryCode memberId organizationId sessionDurationMinutes =>
    cases answer with
    | ok => exact Option.some.inj hs ▸ h.ended rfl rfl
    | error error => exact Option.some.inj hs ▸ h
    | _ => cases hs

theorem Sound.primary (h : s.Sound) {response : AuthenticateResponseWithMFA}
    {includedMfaMethods : Option (List B2BMFAProducts)} {resetTokenType : Option String}
    (hresponse : response.memberSession = true ∨ Starts response)
    (ht : Starts response → s.app.Anew response includedMfaMethods resetTokenType ∧
      (entryMethod response (primaryInfo response resetTokenType) = none →
        s.created (response.memberId, response.organization.organizationId) = none)) :
    (s.dispatch now
      (.mfa (.primaryAuthenticateSuccess response includedMfaMethods resetTokenType))).Sound := by
  rcases hresponse with hsession | hstarts
  · have happ : reducer now s.app
          (.mfa (.primaryAuthenticateSuccess response includedMfaMethods resetTokenType)) =
        replaceHistory (postAuthScreen resetTokenType)
          { s.app with mfa := DEFAULT_MFA_STATE, primary := ⟨none, none, none⟩ } := by
      rw [reducer, mfaReducer, primaryAuthenticateSuccess, if_pos hsession]
    refine h.replace (by simp [Action.replacesMfa, hsession])
      (happ ▸ h.app.ended ⟨rfl, rfl⟩ (postAuthScreen_isPostAuth resetTokenType) rfl)
      fun info data hinfo => ?_
    rw [happ, mfa_replaceHistory] at hinfo
    cases hinfo
  · obtain ⟨hanew, hnothing⟩ := ht hstarts
    have hs := started now hstarts hanew
    refine h.replace (by simp [Action.replacesMfa, hstarts.2]) ⟨?_, ?_, ?_⟩ ?_
    · exact fun sc hsc => (hs.stack sc hsc).1
    · exact fun sc hsc => not_isPostAuth_of_isMfa (hs.stack sc (List.mem_of_mem_tail hsc)).2.1
    · intro info hinfo
      obtain rfl := Option.some.inj (hs.primaryInfo.symm.trans hinfo)
      exact postAuthScreen_isPostAuth resetTokenType
    · intro info data hinfo henrolling hdata
      obtain rfl := Option.some.inj (hs.primaryInfo.symm.trans hinfo)
      cases (hnothing (hs.isEnrolling henrolling)).symm.trans hdata

theorem Sound.next (h : s.Sound) {history : List (ℤ × MFAEvent)} {a : ℤ × MFAEvent}
    (ht : Timely history s a) (hn : s.next config a = some s') : s'.Sound := by
  obtain ⟨now, event⟩ := a
  cases event with
  | onScreen event => exact h.handled (B2B.handled hn)
  | answer i answer =>
    obtain ⟨r, hr, hn⟩ := Option.bind_eq_some_iff.1 hn
    exact (h.answered i).answer (h.asked r (List.mem_of_getElem? hr) (ht r hr)) hn
  | other action =>
    simp only [MFAFlow.next] at hn
    split_ifs at hn with hother
    obtain rfl := Option.some.inj hn
    cases hreplaces : action.replacesMfa s.app with
    | false =>
      obtain ⟨screen, hw, hscreen, -⟩ := within_other now hother hreplaces
      exact h.move hreplaces (enrolled_of_other hother) hw (supplies_of_not_isMfa _ hscreen)
    | true =>
      obtain ⟨response, includedMfaMethods, resetTokenType, rfl, hresponse⟩ :=
        primary_of_replacesMfa hother hreplaces
      exact h.primary hresponse ht

end MFAFlow

/-- In every run whose answers come in time, the screen that is shown and the screens that can be
gone back to have what they read. The recovery codes to be saved are those that came with the code
that was shown. -/
theorem screens_supplied (config : MFAConfig) {history : List (ℤ × MFAEvent)} {s : MFAFlow}
    (hr : (mfaFlow config).Reach Timely history s) :
    (∀ screen ∈ s.app.stack, s.app.mfa.Supplies screen) ∧
      ∀ info data, s.app.mfa.primaryInfo = some info → s.app.mfa.isEnrolling = true →
        s.created (info.memberId, info.organizationId) = some data → s.app.mfa.codes = some data := by
  have hsound : s.Sound := by
    refine hr.invariant (I := fun _ s => s.Sound) (fun s h0 => ?_)
      fun h s a s' hs ht hn => hs.next ht hn
    obtain ⟨hhistory, hscreen, hmfa, hpending⟩ := h0
    have hstack : s.app.stack = [s.app.screen] := by rw [AppState.stack, hhistory]; rfl
    refine ⟨⟨fun sc hsc => ?_, fun sc hsc => ?_, fun info hinfo => ?_⟩, fun info data hinfo => ?_,
      fun r hr => ?_, fun r hr => ?_⟩
    · rw [hstack, List.mem_singleton] at hsc
      subst hsc
      rcases hscreen with h | h
      · exact supplies_of_not_isMfa _ (by rw [h]; rfl)
      · exact supplies_of_not_isMfa _ (by rw [h]; rfl)
    · rw [hstack] at hsc
      cases hsc
    · rw [hmfa] at hinfo
      cases hinfo
    · rw [hmfa] at hinfo
      cases hinfo
    · rw [hpending] at hr
      cases hr
    · rw [hpending] at hr
      cases hr
  exact ⟨hsound.app.supplied, hsound.agrees⟩

/-- A response of a member of an organization that wants a code of an authenticator app. -/
def enrollResponse : AuthenticateResponseWithMFA where
  memberId := "member"
  member := ⟨"", false, "", false, "", ""⟩
  organization := ⟨"organization", "RESTRICTED", some ["totp"]⟩
  memberSession := false
  primaryRequired := none
  mfaRequired := none

def exampleConfig : MFAConfig := ⟨60, none, none, none, fun _ => "1", fun _ => none⟩

/-- The UI as it comes up. -/
def MFAFlow.initial (created : String × String → Option TotpCreated) : MFAFlow :=
  ⟨DEFAULT_STATE, created, [], 0⟩

/-- A member enrolls: the code is fetched, scanned and accepted. -/
theorem screens_supplied_enrolled :
    ∃ history s, (mfaFlow exampleConfig).Reach Timely history s ∧
      s.app.screen = .RecoveryCodeSave ∧ s.app.mfa.Supplies .RecoveryCodeSave := by
  have hr := Machine.Reach.start (M := mfaFlow exampleConfig) (C := Timely)
    (s := .initial fun _ => none) ⟨rfl, .inl rfl, rfl, rfl⟩
  have hr := hr.step (a := (0, MFAEvent.other
      (.mfa (.primaryAuthenticateSuccess enrollResponse none none))))
    (fun _ => ⟨.inl rfl, fun _ => rfl⟩) rfl
  have hr := hr.step (a := (1, MFAEvent.onScreen .create)) trivial rfl
  have hr := hr.step (a := (2, MFAEvent.answer 0 (.created ⟨"secret", "qr", ["code"]⟩)))
    (fun _ h => Option.some.inj h ▸ rfl) rfl
  have hr := hr.step (a := (3, MFAEvent.onScreen .handleContinue)) trivial rfl
  have hr := hr.step (a := (4, MFAEvent.onScreen (.handleSubmit "123456"))) trivial rfl
  have hr := hr.step (a := (5, MFAEvent.answer 0 .ok)) (fun _ h => Option.some.inj h ▸ rfl) rfl
  exact ⟨_, _, hr, rfl, (screens_supplied exampleConfig hr).1 _ (screen_mem_stack _)⟩

/-- A code that was fetched before the UI came up is shown, but nothing is enrolled with it: there are
no recovery codes to save. -/
example : ∃ history s, (mfaFlow exampleConfig).Reach Machine.anyStep history s ∧
    s.app.screen = .RecoveryCodeSave ∧ s.app.mfa.codes = none := by
  have hr := Machine.Reach.start (M := mfaFlow exampleConfig) (C := Machine.anyStep)
    (s := .initial fun _ => some ⟨"secret", "qr", ["code"]⟩) ⟨rfl, .inl rfl, rfl, rfl⟩
  have hr := hr.step (a := (0, MFAEvent.other
    (.mfa (.primaryAuthenticateSuccess enrollResponse none none)))) trivial rfl
  have hr := hr.step (a := (1, MFAEvent.onScreen .handleContinue)) trivial rfl
  have hr := hr.step (a := (2, MFAEvent.onScreen (.handleSubmit "123456"))) trivial rfl
  have hr := hr.step (a := (3, MFAEvent.answer 0 .ok)) trivial rfl
  exact ⟨_, _, hr, rfl, rfl⟩

/-- A message that was still being sent when the code was accepted leads back to its screen, which
has nothing to read. -/
example : ∃ history s, (mfaFlow exampleConfig).Reach Machine.anyStep history s ∧
    s.app.screen = .SMSOTPEntry ∧ s.app.mfa.primaryInfo = none := by
  have hr := Machine.Reach.start (M := mfaFlow exampleConfig) (C := Machine.anyStep)
    (s := .initial fun _ => none) ⟨rfl, .inl rfl, rfl, rfl⟩
  have hr := hr.step (a := (0, MFAEvent.other (.mfa (.primaryAuthenticateSuccess
    { totpResponse with mfaRequired := some (some "sms_otp") } none none)))) trivial rfl
  have hr := hr.step (a := (1, MFAEvent.onScreen .sendSms)) trivial rfl
  have hr := hr.step (a := (2, MFAEvent.onScreen (.handleSubmit "123456"))) trivial rfl
  have hr := hr.step (a := (3, MFAEvent.answer 1 .ok)) trivial rfl
  have hr := hr.step (a := (4, MFAEvent.answer 0 .ok)) trivial rfl
  exact ⟨_, _, hr, rfl, rfl⟩

/-! ## No way around an MFA -/

/-- The screens behind a second factor. -/
def AppScreens.behindMfa : AppScreens → Bool
  | .LoggedIn | .PasswordResetForm | .RecoveryCodeSave => true
  | _ => false

/-- An MFA starts on a stack of its own. -/
def StartsAnew : Machine.Guard MFAFlow (ℤ × MFAEvent) := fun _ s a =>
  match a.2 with
  | .other (.mfa (.primaryAuthenticateSuccess response includedMfaMethods resetTokenType)) =>
      Starts response → s.app.Anew response includedMfaMethods resetTokenType
  | _ => True

def MFARequest.isFactor : MFARequest → Bool
  | .smsAuthenticate _ _ _ _ | .totpAuthenticate _ _ _ _ | .recover _ _ _ _ => true
  | _ => false

/-- A primary authentication starts an MFA. -/
def Begins (_ : MFAFlow) (a : ℤ × MFAEvent) : Prop :=
  ∃ response includedMfaMethods resetTokenType,
    a.2 = .other (.mfa (.primaryAuthenticateSuccess response includedMfaMethods resetTokenType)) ∧
      Starts response

/-- A second factor is accepted, or there is a session: a primary authentication came with one, or a
password was reset in one. -/
def Accepts (s : MFAFlow) (a : ℤ × MFAEvent) : Prop :=
  (∃ i r, a.2 = .answer i .ok ∧ s.pending[i]? = some r ∧ r.2.isFactor = true) ∨
    a.2 = .other (.transition .LoggedIn false) ∨
    ∃ response includedMfaMethods resetTokenType,
      a.2 = .other (.mfa (.primaryAuthenticateSuccess response includedMfaMethods resetTokenType)) ∧
        response.memberSession = true

/-- No screen behind the second factor can be seen or gone back to. -/
def MFAFlow.Before (s : MFAFlow) : Prop := ∀ screen ∈ s.app.stack, screen.behindMfa = false

theorem not_accepts_onScreen (s : MFAFlow) (now : ℤ) (event : ScreenEvent) :
    ¬ Accepts s (now, .onScreen event) := by
  rintro (⟨_, _, h, -⟩ | h | ⟨_, _, _, h, -⟩) <;> cases h

theorem not_accepts_error (s : MFAFlow) (now : ℤ) (i : ℕ) (error : Json) :
    ¬ Accepts s (now, .answer i (.error error)) := by
  rintro (⟨_, _, h, -⟩ | h | ⟨_, _, _, h, -⟩) <;> cases h

section Before

variable {config : MFAConfig} {now : ℤ} {s s' : MFAFlow} {screen : AppScreens}

theorem not_behindMfa (h : screen.isPostAuth = false) (hne : screen ≠ .RecoveryCodeSave) :
    screen.behindMfa = false := by
  cases screen <;> first | rfl | exact absurd rfl hne | cases h

theorem MFAFlow.Before.within (h : s.Before) (hw : Within s.app s'.app screen)
    (hscreen : screen.behindMfa = false) : s'.Before := fun sc hsc => by
  rcases hw.stack sc hsc with hsc | rfl
  · exact h sc hsc
  · exact hscreen

theorem MFAFlow.Before.handled (h : s.Before) (hs : Handled now s s') : s'.Before := by
  cases hs with
  | asked request hscreen => exact h
  | sent request hscreen => exact h
  | selected option hscreen =>
    cases option with
    | totp => exact h.within (within_pushHistory _ rfl) rfl
    | smsOtp => exact h.within (within_pushHistory _ rfl) rfl
  | scanned hscreen hinfo hcreated => exact h.within (within_pushHistory _ rfl) rfl
  | copied hscreen => exact h.within (within_pushHistory _ rfl) rfl
  | switched screen hinfo henrolling hscreen =>
    rcases hscreen with rfl | rfl | rfl
    · exact h.within (within_pushHistory _ rfl) rfl
    · exact h.within (within_pushHistory _ rfl) rfl
    · exact h.within (within_pushHistory _ rfl) rfl
  | shown hscreen => exact h.within (within_showManualCode now s.app) rfl
  | back => exact h.within (within_navigateBack s.app .Main) rfl
  | acknowledged hscreen =>
    have hbehind := h _ (screen_mem_stack _)
    rw [hscreen] at hbehind
    cases hbehind

theorem MFAFlow.Before.answer (h : s.Before) {request : MFARequest} {answer : MFAAnswer}
    (hs : answered config now s request answer = some s')
    (hnot : answer = .ok → request.isFactor = false) : s'.Before := by
  have hsent : ∀ destination, (s.dispatch now (.mfa (.smsOtpSendSuccess destination))).Before :=
    fun _ => h.within ((within_pushHistory _ rfl).of_place ⟨rfl, rfl⟩) rfl
  cases request with
  | parsePhoneNumber phoneNumber country memberId organizationId =>
    cases answer with
    | parsed response phoneNumber' countryCode =>
      simp only [answered] at hs
      split_ifs at hs
      · exact Option.some.inj hs ▸ h
      · exact Option.some.inj hs ▸ h
    | _ => cases hs
  | formatNumber phoneNumber =>
    cases answer with
    | parsed response phoneNumber' countryCode => exact Option.some.inj hs ▸ h
    | _ => cases hs
  | smsEnroll mfaPhoneNumber memberId organizationId locale destination =>
    cases answer with
    | ok => exact Option.some.inj hs ▸ hsent _
    | error error => exact Option.some.inj hs ▸ h
    | _ => cases hs
  | smsSend memberId organizationId locale =>
    cases answer with
    | ok => exact Option.some.inj hs ▸ hsent _
    | error error => exact Option.some.inj hs ▸ h
    | _ => cases hs
  | totpCreate memberId organizationId =>
    cases answer with
    | created response =>
      have hplace := samePlace_totpCreateSuccess now s.app response.secret response.qrCode
        response.recoveryCodes memberId organizationId
      exact Option.some.inj hs ▸ h.within (hplace.within .Main) rfl
    | error error => exact Option.some.inj hs ▸ h
    | _ => cases hs
  | smsAuthenticate code memberId organizationId sessionDurationMinutes =>
    cases answer with
    | ok => cases hnot rfl
    | error error => exact Option.some.inj hs ▸ h
    | _ => cases hs
  | totpAuthenticate code memberId organizationId sessionDurationMinutes =>
    cases answer with
    | ok => cases hnot rfl
    | error error => exact Option.some.inj hs ▸ h
    | _ => cases hs
  | recover recoveryCode memberId organizationId sessionDurationMinutes =>
    cases answer with
    | ok => cases hnot rfl
    | error error => exact Option.some.inj hs ▸ h
    | _ => cases hs

/-- An MFA starts with a screen that asks for a factor. -/
theorem MFAFlow.before_started {response : AuthenticateResponseWithMFA}
    {includedMfaMethods : Option (List B2BMFAProducts)} {resetTokenType : Option String}
    (hstarts : Starts response)
    (hanew : s.app.Anew response includedMfaMethods resetTokenType) :
    (s.dispatch now (.mfa
      (.primaryAuthenticateSuccess response includedMfaMethods resetTokenType))).Before := by
  intro sc hsc
  obtain ⟨-, hmfa, hne⟩ := (started now hstarts hanew).stack sc hsc
  exact not_behindMfa (not_isPostAuth_of_isMfa hmfa) hne

theorem MFAFlow.Before.next (h : s.Before) {history : List (ℤ × MFAEvent)} {a : ℤ × MFAEvent}
    (ht : StartsAnew history s a) (hn : s.next config a = some s') (hnot : ¬ Accepts s a) :
    s'.Before := by
  obtain ⟨now, event⟩ := a
  cases event with
  | onScreen event => exact h.handled (B2B.handled hn)
  | answer i answer =>
    obtain ⟨r, hr, hn⟩ := Option.bind_eq_some_iff.1 hn
    have herased : MFAFlow.Before { s with pending := s.pending.eraseIdx i } := h
    refine herased.answer hn fun hok => ?_
    by_contra hfactor
    exact hnot (.inl ⟨i, r, by rw [hok], hr, Bool.not_eq_false _ ▸ hfactor⟩)
  | other action =>
    simp only [MFAFlow.next] at hn
    split_ifs at hn with hother
    obtain rfl := Option.some.inj hn
    cases hreplaces : action.replacesMfa s.app with
    | false =>
      obtain ⟨screen, hw, hscreen, hpost⟩ := within_other now hother hreplaces
      refine h.within hw (not_behindMfa (Bool.eq_false_iff.2 fun htrue => ?_) ?_)
      · exact hnot (.inr (.inl (congrArg MFAEvent.other (hpost htrue))))
      · rintro rfl
        cases hscreen
    | true =>
      obtain ⟨response, includedMfaMethods, resetTokenType, rfl, hsession | hstarts⟩ :=
        primary_of_replacesMfa hother hreplaces
      · exact absurd (.inr (.inr ⟨response, includedMfaMethods, resetTokenType, rfl, hsession⟩)) hnot
      · exact MFAFlow.before_started hstarts (ht hstarts)

end Before

/-- Since an MFA started on a stack of its own, no screen behind the second factor is shown or can be
gone back to, until a second factor is accepted or there is a session from elsewhere. -/
theorem mfa_not_bypassed (config : MFAConfig) {history : List (ℤ × MFAEvent)} {s : MFAFlow}
    (hs : (mfaFlow config).Since StartsAnew Begins Accepts history s) : s.Before := by
  refine hs.invariant (J := MFAFlow.Before) ?_ ?_
  · rintro h s ⟨now, event⟩ s' - hc hn ⟨response, includedMfaMethods, resetTokenType, rfl, hstarts⟩
    obtain rfl := Option.some.inj hn
    exact MFAFlow.before_started hstarts (hc hstarts)
  · intro h s a s' _ hbefore hc hn hq
    exact hbefore.next hc hn hq

/-- A code that is not accepted. -/
theorem mfa_not_bypassed_totp :
    ∃ history s, (mfaFlow exampleConfig).Since StartsAnew Begins Accepts history s ∧
      s.app.stack = [.TOTPEntry] ∧ s.Before := by
  have hr := Machine.Reach.start (M := mfaFlow exampleConfig) (C := StartsAnew)
    (s := .initial fun _ => none) ⟨rfl, .inl rfl, rfl, rfl⟩
  have hs := Machine.Since.now (p := Begins) (q := Accepts) hr
    (a := (0, MFAEvent.other (.mfa (.primaryAuthenticateSuccess totpResponse none none))))
    (fun _ => .inl rfl) rfl ⟨_, _, _, rfl, rfl, rfl⟩
  have hs := hs.later (a := (1, MFAEvent.onScreen (.handleSubmit "123456"))) trivial rfl
    (not_accepts_onScreen _ _ _)
  have hs := hs.later (a := (2, MFAEvent.answer 0 (.error .null))) trivial rfl
    (not_accepts_error _ _ _ _)
  exact ⟨_, _, hs, rfl, mfa_not_bypassed exampleConfig hs⟩

end StytchBrowser.Web.B2B
