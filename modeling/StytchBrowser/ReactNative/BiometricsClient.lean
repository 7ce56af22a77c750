import Mathlib.Logic.Basic
import Mathlib.Tactic.SplitIfs
import StytchBrowser.ReactNative.NativeBiometrics

/-!
# Biometric registrations

`HeadlessBiometricsClient` runs on the native module of either platform, a `NativeBiometrics`:
`android` and `ios` are the two. `register` creates a key, starts a registration on the server,
signs its challenge and completes it; when one of these steps fails and a key is there, it calls
`removeRegistration` before it rejects.

`removeRegistration` deletes on the server whatever registration id the device has stored.
`leaves_no_trace_iff` says when a `register` that rejects has left no trace.

Errors are those of the steps; `errorToStytchError`, which gives them their class, is left out.
-/

namespace StytchBrowser.ReactNative

/-! ## The native modules -/

/-- The options of `register` that the native modules are given. -/
structure RegisterOptions where
  allowDeviceCredentials : Bool
  allowFallbackToCleartext : Bool

/-- A native module over devices `σ` on which a call of `createKeys` goes as a `κ` says. -/
structure NativeBiometrics (σ κ : Type) where
  biometricKeysExist : σ → Bool
  createKeys : RegisterOptions → κ → σ → Except BiometricError Unit × σ
  createSignature : String → Bool → σ → Except BiometricError Unit × σ
  getBiometricRegistrationId : σ → Except BiometricError (Option String)
  /-- `deleteKeys` where the system deletes the key when it is asked to. -/
  deleteKeys : σ → Bool × σ
  /-- The id in the preferences or the user defaults. -/
  storedId : σ → Option String
  /-- `createSignature` gets to storing the id. -/
  storesId : String → Bool → Bool
  /-- Whether asking for the id fails when none is stored. -/
  idRequired : Bool
  storedId_createKeys : ∀ o k d, storedId (createKeys o k d).2 = storedId d
  keys_createSignature : ∀ id signs d,
    biometricKeysExist (createSignature id signs d).2 = biometricKeysExist d
  storedId_createSignature : ∀ id signs d, biometricKeysExist d = true →
    storedId (createSignature id signs d).2 = if storesId id signs then some id else storedId d
  keys_of_missing : ∀ id signs d, (createSignature id signs d).1 = .error .MissingPublicKey →
    biometricKeysExist d = false
  getId_eq : ∀ d, getBiometricRegistrationId d =
    if idRequired && (storedId d).isNone then .error .NoBiometricsRegistration else .ok (storedId d)
  keys_deleteKeys : ∀ d, biometricKeysExist (deleteKeys d).2 = false

/-- How a call of `createKeys` goes on Android: what it meets up to its prompt, and what becomes of
the prompt. -/
structure Android.Creation where
  start : Android.Start
  sealing : Android.Sealing

/-- `createKeys` as it is awaited, its prompt included. -/
def Android.Device.awaitCreateKeys (o : RegisterOptions) (c : Android.Creation)
    (d : Android.Device) : Except BiometricError Unit × Android.Device :=
  match d.createKeys o.allowDeviceCredentials o.allowFallbackToCleartext c.start with
  | (.ok (), d) => d.finishCreateKeys c.sealing
  | (.error e, d) => (.error e, d)

namespace Android.Device

@[simp] theorem registrationId_getSecretKey (allow : Bool) (d : Device) :
    (d.getSecretKey allow).2.registrationId = d.registrationId := by
  unfold getSecretKey
  split <;> rfl

@[simp] theorem registrationId_initCipher (failure : Option (KeyFailure × Bool)) (c : Cipher)
    (d : Device) : (d.initCipher failure c).2.registrationId = d.registrationId := by
  unfold initCipher
  split <;> rfl

theorem registrationId_startSealing (allow : Bool) (start : Start) (d : Device) :
    (d.startSealing allow start).2.registrationId = d.registrationId := by
  have hinit := registrationId_initCipher start.initFailure
    ⟨.ENCRYPT_MODE, (d.getSecretKey allow).1, start.iv⟩ (d.getSecretKey allow).2
  rw [registrationId_getSecretKey] at hinit
  unfold startSealing
  cases start.keyFailure with
  | some failure => rfl
  | none =>
    dsimp only
    revert hinit
    rcases initCipher _ _ _ with ⟨_ | _, d'⟩ <;> intro hinit
    · exact hinit
    · dsimp only
      split_ifs
      · exact hinit
      · exact hinit

theorem registrationId_createKeys (allow fallback : Bool) (start : Start) (d : Device) :
    (d.createKeys allow fallback start).2.registrationId = d.registrationId := by
  unfold createKeys
  split
  · rfl
  · rw [registrationId_startSealing]
    split_ifs <;> rfl

theorem registrationId_finishCreateKeys (sealing : Sealing) (d : Device) :
    (d.finishCreateKeys sealing).2.registrationId = d.registrationId := by
  unfold finishCreateKeys
  dsimp only
  split <;> rfl

theorem registrationId_awaitCreateKeys (o : RegisterOptions) (c : Creation) (d : Device) :
    (d.awaitCreateKeys o c).2.registrationId = d.registrationId := by
  have hcreate := d.registrationId_createKeys o.allowDeviceCredentials o.allowFallbackToCleartext
    c.start
  unfold awaitCreateKeys
  revert hcreate
  rcases createKeys _ _ _ _ with ⟨_ | _, d'⟩ <;> intro hcreate
  · exact hcreate
  · exact (registrationId_finishCreateKeys _ _).trans hcreate

end Android.Device

/-- The Android module. -/
def android : NativeBiometrics Android.Device Android.Creation where
  biometricKeysExist := Android.Device.biometricKeyExists
  createKeys := Android.Device.awaitCreateKeys
  createSignature := Android.Device.createSignature
  getBiometricRegistrationId := Android.Device.getBiometricRegistrationId
  deleteKeys := Android.Device.deleteKeys
  storedId := Android.Device.registrationId
  storesId id signs := signs && !id.toList.all Android.isWhitespace
  idRequired := true
  storedId_createKeys o c d := d.registrationId_awaitCreateKeys o c
  keys_createSignature id signs d := by
    unfold Android.Device.createSignature
    split_ifs <;> rfl
  storedId_createSignature id signs d hkey := by
    unfold Android.Device.createSignature
    cases signs <;> cases hid : id.toList.all Android.isWhitespace <;> simp [hkey]
  keys_of_missing id signs d herr := by
    unfold Android.Device.createSignature at herr
    split_ifs at herr with hkey
    · simpa using hkey
    all_goals cases herr
  getId_eq d := by
    unfold Android.Device.getBiometricRegistrationId
    cases hid : d.registrationId <;> simp
  keys_deleteKeys d := by
    unfold Android.Device.deleteKeys
    split_ifs with hkey
    · rfl
    · simpa using hkey

/-- The iOS module. -/
def ios : NativeBiometrics IOS.Device IOS.Creation where
  biometricKeysExist d := d.biometricKey
  createKeys o := IOS.Device.createKeys o.allowDeviceCredentials
  createSignature := IOS.Device.createSignature
  getBiometricRegistrationId := IOS.Device.getBiometricRegistrationId
  deleteKeys := IOS.Device.deleteKeys true
  storedId := IOS.Device.biometricRegistrationId
  storesId id _ := !id.toList.all IOS.Device.isWhitespace
  idRequired := false
  storedId_createKeys o creation d := by
    cases creation with
    | policyFails e => rfl
    | accessControlFails => rfl
    | generated publicKey deleted added => cases publicKey <;> rfl
  keys_createSignature id signs d := by
    unfold IOS.Device.createSignature
    split_ifs <;> rfl
  storedId_createSignature id signs d _ := by
    unfold IOS.Device.createSignature
    cases id.toList.all IOS.Device.isWhitespace <;> rfl
  keys_of_missing id signs d herr := by
    unfold IOS.Device.createSignature at herr
    split_ifs at herr <;> cases herr
  getId_eq _ := rfl
  keys_deleteKeys d := by
    unfold IOS.Device.deleteKeys
    cases hkey : d.biometricKey
    · simpa using hkey
    · rfl

/-! ## The client -/

/-- What `register` needs of the session: when it expires, if that can be parsed. -/
structure Session where
  expiresAt : Option ℕ

def Session.expired (now : ℕ) (session : Session) : Bool :=
  session.expiresAt.any fun expiresAt => expiresAt < now

/-- What `register` and `removeRegistration` reject with; `ν` are the errors of the network. -/
inductive ClientError (ν : Type) where
  | BiometricsAlreadyEnrolled
  | NoCurrentSession
  | KeystoreUnavailable
  | NoBiometricsRegistration
  | native (e : BiometricError)
  | network (e : ν)

/-- A device, and the ids of the registrations that the server has. -/
structure World (σ : Type) where
  device : σ
  registrations : List String

/-- What a call of `register` meets. -/
structure Attempt (κ ν : Type) where
  session : Option Session
  now : ℕ
  isKeystoreAvailable : Bool
  createKeys : κ
  /-- The answer of `/biometrics/register/start`, with the id of the registration. -/
  start : Except ν String
  /-- The challenge can be signed. -/
  signs : Bool
  /-- The answer of `/biometrics/register`. -/
  complete : Except ν Unit
  /-- The session when a failed registration is removed. -/
  sessionAtCleanup : Option Session

variable {σ κ ν : Type}

/-- The checks of `register` before its first step. -/
def refusal (o : RegisterOptions) (a : Attempt κ ν) : Option (ClientError ν) :=
  if a.session.all (Session.expired a.now) then some .NoCurrentSession
  else if !a.isKeystoreAvailable && !o.allowFallbackToCleartext then some .KeystoreUnavailable
  else none

namespace NativeBiometrics

variable (native : NativeBiometrics σ κ)

/-- The four steps of `register`, the body of its `try`. -/
def attempt (o : RegisterOptions) (a : Attempt κ ν) (w : World σ) :
    Except (ClientError ν) Unit × World σ :=
  match native.createKeys o a.createKeys w.device with
  | (.error e, device) => (.error (.native e), { w with device })
  | (.ok (), device) =>
      match a.start with
      | .error e => (.error (.network e), { w with device })
      | .ok biometricRegistrationId =>
          let registrations := biometricRegistrationId :: w.registrations
          match native.createSignature biometricRegistrationId a.signs device with
          | (.error e, device) => (.error (.native e), ⟨device, registrations⟩)
          | (.ok (), device) => (a.complete.mapError .network, ⟨device, registrations⟩)

/-- `removeRegistration`; `answer` is that of the `DELETE` request, whose url takes an id that is
missing for `undefined`. -/
def removeRegistration (session : Option Session) (answer : Except ν Unit) (w : World σ) :
    Except (ClientError ν) Unit × World σ :=
  if !native.biometricKeysExist w.device then (.error .NoBiometricsRegistration, w)
  else if session.isNone then (.error .NoCurrentSession, w)
  else
    match native.getBiometricRegistrationId w.device with
    | .error e => (.error (.native e), w)
    | .ok biometricRegistrationId =>
        match answer with
        | .error e => (.error (.network e), w)
        | .ok () =>
            (.ok (), ⟨(native.deleteKeys w.device).2,
              w.registrations.filter (· ≠ biometricRegistrationId.getD "undefined")⟩)

/-- The `catch` of `register`, for the error of a failed step. -/
def catchError (session : Option Session) (answer : Except ν Unit) (e : ClientError ν)
    (w : World σ) : Except (ClientError ν) Unit × World σ :=
  if native.biometricKeysExist w.device then
    match native.removeRegistration session answer w with
    | (.error e', w) => (.error e', w)
    | (.ok (), w) => (.error e, w)
  else (.error e, w)

def register (o : RegisterOptions) (a : Attempt κ ν) (answer : Except ν Unit) (w : World σ) :
    Except (ClientError ν) Unit × World σ :=
  if native.biometricKeysExist w.device then (.error .BiometricsAlreadyEnrolled, w)
  else
    match refusal o a with
    | some e => (.error e, w)
    | none =>
        match native.attempt o a w with
        | (.ok (), w) => (.ok (), w)
        | (.error e, w) => native.catchError a.sessionAtCleanup answer e w

/-! ## What a failed registration leaves -/

/-- The error of the step that fails. -/
def stepError (o : RegisterOptions) (a : Attempt κ ν) (w : World σ) : Option (ClientError ν) :=
  (refusal o a).or
    (match (native.attempt o a w).1 with
    | .error e => some e
    | .ok () => none)

/-- The registration that the attempt starts on the server. -/
def startedId (o : RegisterOptions) (a : Attempt κ ν) (d : σ) : Option String :=
  match (native.createKeys o a.createKeys d).1 with
  | .ok () => a.start.toOption
  | .error _ => none

/-- A `register` that rejects with `e` rejects with the error of the step that failed, leaves no key,
and deletes no registration but the one it has started. -/
def LeavesNoTrace (o : RegisterOptions) (a : Attempt κ ν) (w : World σ) (e : ClientError ν) :
    Prop :=
  native.stepError o a w = some e ∧
    native.biometricKeysExist (native.register o a (.ok ()) w).2.device = false ∧
    ∀ id ∈ w.registrations, native.startedId o a w.device ≠ some id →
      id ∈ (native.register o a (.ok ()) w).2.registrations

/-- The id that `removeRegistration` finds after a failed step. -/
def idAtCleanup (o : RegisterOptions) (a : Attempt κ ν) (d : σ) : Option String :=
  match native.startedId o a d with
  | some id => if native.storesId id a.signs then some id else native.storedId d
  | none => native.storedId d

/-- `removeRegistration` can clean up: there is a session, an id is found where one is required, and
what is found is not a registration of the server that another attempt has started. -/
def CanCleanUp (o : RegisterOptions) (a : Attempt κ ν) (w : World σ) : Prop :=
  a.sessionAtCleanup.isSome = true ∧
    (native.idRequired = true → (native.idAtCleanup o a w.device).isSome = true) ∧
    ∀ id ∈ w.registrations, id = (native.idAtCleanup o a w.device).getD "undefined" →
      native.startedId o a w.device = some id

variable {native} {o : RegisterOptions} {a : Attempt κ ν} {w : World σ}

/-- The world after a failed step, in terms of what the step started from. -/
theorem attempt_error {e : ClientError ν} (he : (native.attempt o a w).1 = .error e) :
    native.biometricKeysExist (native.attempt o a w).2.device =
        native.biometricKeysExist (native.createKeys o a.createKeys w.device).2 ∧
      (native.biometricKeysExist (native.createKeys o a.createKeys w.device).2 = true →
        native.storedId (native.attempt o a w).2.device = native.idAtCleanup o a w.device) ∧
      ∀ id, id ∈ (native.attempt o a w).2.registrations ↔
        id ∈ w.registrations ∨ native.startedId o a w.device = some id := by
  have hstored := native.storedId_createKeys o a.createKeys w.device
  unfold idAtCleanup startedId
  unfold attempt at he ⊢
  generalize native.createKeys o a.createKeys w.device = created at *
  obtain ⟨_ | _, d⟩ := created
  · exact ⟨rfl, fun _ => hstored, fun id => by simp⟩
  cases hstart : a.start with
  | error e => exact ⟨rfl, fun _ => hstored, fun id => by simp [Except.toOption]⟩
  | ok started =>
    have hkeys := native.keys_createSignature started a.signs d
    have hsigned := native.storedId_createSignature started a.signs d
    dsimp only at hstored
    rw [hstored] at hsigned
    dsimp only
    generalize native.createSignature started a.signs d = signed at *
    obtain ⟨_ | _, d'⟩ := signed
    · exact ⟨hkeys, hsigned, fun id => by simp [Except.toOption, or_comm, eq_comm]⟩
    · exact ⟨hkeys, hsigned, fun id => by simp [Except.toOption, or_comm, eq_comm]⟩

variable (native) in
/-- The two things that `removeRegistration` needs on a device with a key. -/
def Removable (session : Option Session) (d : σ) : Prop :=
  session.isSome = true ∧ (native.idRequired = true → (native.storedId d).isSome = true)

theorem removeRegistration_of_removable {session : Option Session}
    (hkeys : native.biometricKeysExist w.device = true) (h : native.Removable session w.device) :
    native.removeRegistration session (.ok ()) w =
      ((.ok (), ⟨(native.deleteKeys w.device).2,
        w.registrations.filter (· ≠ (native.storedId w.device).getD "undefined")⟩) :
        Except (ClientError ν) Unit × World σ) := by
  obtain ⟨hsession, hid⟩ := h
  have hfound : (native.idRequired && (native.storedId w.device).isNone) = false := by
    cases hreq : native.idRequired
    · rfl
    · have hsome := hid hreq
      cases hstored : native.storedId w.device
      · simp [hstored] at hsome
      · rfl
  have hsome : session.isNone = false := by
    cases session
    · cases hsession
    · rfl
  unfold removeRegistration
  rw [hkeys, native.getId_eq, hsome, hfound]
  rfl

theorem removeRegistration_of_not_removable {session : Option Session}
    (hkeys : native.biometricKeysExist w.device = true) (h : ¬ native.Removable session w.device) :
    ∃ e : ClientError ν, native.removeRegistration session (.ok ()) w = (.error e, w) := by
  unfold removeRegistration
  rw [hkeys, native.getId_eq]
  cases session with
  | none => exact ⟨_, rfl⟩
  | some session =>
    have hmissing : (native.idRequired && (native.storedId w.device).isNone) = true := by
      rw [Removable] at h
      simpa using h
    rw [hmissing]
    exact ⟨_, rfl⟩

/-- A failed step leaves a world without a key as it is; a key is deleted, along with the
registration that is found, or stays. -/
theorem catchError_spec (session : Option Session) (e : ClientError ν) (w : World σ) :
    (native.biometricKeysExist w.device = false ∧
      native.catchError session (.ok ()) e w = (.error e, w)) ∨
    (native.biometricKeysExist w.device = true ∧ native.Removable session w.device ∧
      native.catchError session (.ok ()) e w = (.error e, ⟨(native.deleteKeys w.device).2,
        w.registrations.filter (· ≠ (native.storedId w.device).getD "undefined")⟩)) ∨
    (native.biometricKeysExist w.device = true ∧ ¬ native.Removable session w.device ∧
      ∃ e', native.catchError session (.ok ()) e w = (.error e', w)) := by
  unfold catchError
  cases hkeys : native.biometricKeysExist w.device with
  | false => exact .inl ⟨rfl, rfl⟩
  | true =>
    by_cases h : native.Removable session w.device
    · rw [removeRegistration_of_removable hkeys h]
      exact .inr (.inl ⟨rfl, h, rfl⟩)
    · obtain ⟨e', he'⟩ := @removeRegistration_of_not_removable _ _ ν _ _ _ hkeys h
      rw [he']
      exact .inr (.inr ⟨rfl, h, e', rfl⟩)

/-- The deletion of one registration leaves all those that are not its own exactly when it hits none
of them. -/
theorem forall_mem_filter_iff {before after : List String} {deleted : String} {own : String → Prop}
    (h : ∀ id ∈ before, id ∈ after) :
    (∀ id ∈ before, ¬ own id → id ∈ after.filter (· ≠ deleted)) ↔
      ∀ id ∈ before, id = deleted → own id := by
  refine forall₂_congr fun id hid => ?_
  have hmem : id ∈ after.filter (· ≠ deleted) ↔ id ≠ deleted := by simp [h id hid]
  rw [hmem]
  exact not_imp_not

/-- The cleanup after an attempt that failed. -/
theorem leavesNoTrace_of_attempt (hkeys : native.biometricKeysExist w.device = false)
    (hrefusal : refusal o a = none) {e' : ClientError ν} {w₁ : World σ}
    (hattempt : native.attempt o a w = (.error e', w₁)) {e : ClientError ν}
    (hrej : (native.register o a (.ok ()) w).1 = .error e) :
    native.LeavesNoTrace o a w e ↔
      native.biometricKeysExist (native.createKeys o a.createKeys w.device).2 = false ∨
        native.CanCleanUp o a w := by
  have hregister : native.register o a (.ok ()) w =
      native.catchError a.sessionAtCleanup (.ok ()) e' w₁ := by
    rw [register, hkeys, hrefusal, hattempt]
    rfl
  have hstep : native.stepError o a w = some e' := by
    rw [stepError, hrefusal, hattempt]
    rfl
  have hspec := @attempt_error _ _ _ native o a w e' (by rw [hattempt])
  rw [hattempt] at hspec
  obtain ⟨hkeys₁, hstored, hregs⟩ := hspec
  rw [hregister] at hrej
  rw [LeavesNoTrace, hstep, hregister, ← hkeys₁]
  have hremovable : native.biometricKeysExist w₁.device = true →
      (native.CanCleanUp o a w ↔ native.Removable a.sessionAtCleanup w₁.device ∧
        ∀ id ∈ w.registrations, id = (native.storedId w₁.device).getD "undefined" →
          native.startedId o a w.device = some id) := fun hkey => by
    rw [CanCleanUp, Removable, hstored (hkeys₁ ▸ hkey), and_assoc]
  obtain ⟨hkey, hcatch⟩ | ⟨hkey, hcan, hcatch⟩ | ⟨hkey, hcannot, e'', hcatch⟩ :=
    @catchError_spec _ _ ν native a.sessionAtCleanup e' w₁
  · rw [hcatch] at hrej ⊢
    obtain rfl := Except.error.inj hrej
    exact iff_of_true ⟨rfl, hkey, fun id hid _ => (hregs id).2 (.inl hid)⟩ (.inl hkey)
  · rw [hcatch] at hrej ⊢
    obtain rfl := Except.error.inj hrej
    rw [hkey, hremovable hkey]
    have hkept := @forall_mem_filter_iff w.registrations w₁.registrations
      ((native.storedId w₁.device).getD "undefined")
      (fun id => native.startedId o a w.device = some id) fun id hid => (hregs id).2 (.inl hid)
    constructor
    · rintro ⟨-, -, h⟩
      exact .inr ⟨hcan, hkept.1 h⟩
    · rintro (h | ⟨-, hown⟩)
      · cases h
      · exact ⟨rfl, native.keys_deleteKeys _, hkept.2 hown⟩
  · rw [hcatch, hremovable hkey, hkey]
    refine iff_of_false (fun h => by cases h.2.1) ?_
    rintro (h | h)
    · cases h
    · exact hcannot h.1

/-- A `register` that rejects where there was no key leaves no trace exactly when it was refused
before its first step, or `createKeys` has left no key, or its registration can be cleaned up. -/
theorem leaves_no_trace_iff (hkeys : native.biometricKeysExist w.device = false)
    {e : ClientError ν} (hrej : (native.register o a (.ok ()) w).1 = .error e) :
    native.LeavesNoTrace o a w e ↔
      (refusal o a).isSome = true ∨
        native.biometricKeysExist (native.createKeys o a.createKeys w.device).2 = false ∨
        native.CanCleanUp o a w := by
  cases hrefusal : refusal o a with
  | some e' =>
    have hregister : native.register o a (.ok ()) w = (.error e', w) := by
      rw [register, hkeys, hrefusal]
      rfl
    rw [hregister] at hrej
    obtain rfl := Except.error.inj hrej
    refine iff_of_true ⟨?_, ?_, ?_⟩ (.inl rfl)
    · rw [stepError, hrefusal]
      rfl
    · rwa [hregister]
    · rw [hregister]
      exact fun id hid _ => hid
  | none =>
    cases hattempt : native.attempt o a w with | mk result w₁
    cases result with
    | ok _ =>
      rw [register, hkeys, hrefusal, hattempt] at hrej
      cases hrej
    | error e' =>
      rw [leavesNoTrace_of_attempt hkeys hrefusal hattempt hrej]
      exact (or_iff_right nofun).symm

end NativeBiometrics

/-- A call of `register` on Android with a session, whose prompt is confirmed. -/
def exampleAttempt (start : Except Unit String) (complete : Except Unit Unit) :
    Attempt Android.Creation Unit where
  session := some ⟨some 1⟩
  now := 0
  isKeystoreAvailable := true
  createKeys := ⟨⟨true, none, none, 7, true⟩, .sealed⟩
  start := start
  signs := true
  complete := complete
  sessionAtCleanup := some ⟨some 1⟩

/-- The last step fails: the registration that was started is removed. -/
theorem leaves_no_trace_iff_complete :
    android.LeavesNoTrace ⟨false, false⟩ (exampleAttempt (.ok "new") (.error ()))
      ⟨.initial, ["other"]⟩ (.network ()) := by
  refine (@NativeBiometrics.leaves_no_trace_iff _ _ _ android _ _ _ rfl _ rfl).2
    (.inr (.inr ⟨rfl, fun _ => by decide, ?_⟩))
  decide

/-- The server does not start the registration: one of another attempt, whose id the device has
kept, is deleted. -/
theorem failed_register_deletes_other :
    (android.register ⟨false, false⟩ (exampleAttempt (.error ()) (.ok ())) (.ok ())
        ⟨{ Android.Device.initial with registrationId := some "old" }, ["old"]⟩).1 =
      .error (.network ()) ∧
    ¬ android.LeavesNoTrace ⟨false, false⟩ (exampleAttempt (.error ()) (.ok ()))
      ⟨{ Android.Device.initial with registrationId := some "old" }, ["old"]⟩ (.network ()) := by
  refine ⟨rfl, fun h => ?_⟩
  exact absurd (h.2.2 "old" (by decide) (by decide)) (by decide)

end StytchBrowser.ReactNative
