import Mathlib.Tactic.SplitIfs
import StytchBrowser.Lib.Machine
import StytchBrowser.ReactNative.NativeBiometrics

/-!
# The policy of the Android biometric key

The key in the keystore is generated for a policy, on which depends who can unlock it. `createKeys`
records its own policy in the preferences, but takes the key that is under the alias already when
no private key is stored: a key that `getSensor`, or a `createKeys` whose prompt was cancelled, has
left there, perhaps for another policy.

Where `createKeys` finds no such key, and a prompt that succeeds finds the cipher and the key it was
opened with, a stored private key always matches the recorded policy (`key_matches_policy`).
-/

namespace StytchBrowser.ReactNative.Android

open Machine

/-- The calls of the module, and the ends of the prompts of `createKeys`. -/
inductive Call where
  | getSensor (allowDeviceCredentials : Bool) (auth : CanAuthenticate)
      (failure : Option KeyFailure)
  | createKeys (allowDeviceCredentials allowFallbackToCleartext : Bool) (start : Start)
  | finishCreateKeys (sealing : Sealing)
  | getBiometricKey (allowDeviceCredentials : Bool) (start : Start)
  | createSignature (biometricRegistrationId : String) (signs : Bool)
  | deleteKeys

namespace Device

/-- The device after a call; a prompt ends only if one is open. -/
def next (d : Device) : Call → Option Device
  | .getSensor allow auth failure => some (d.getSensor allow auth failure).2
  | .createKeys allow fallback start => some (d.createKeys allow fallback start).2
  | .finishCreateKeys sealing =>
      if d.creating = 0 then none else some (d.finishCreateKeys sealing).2
  | .getBiometricKey allow start => some (d.getBiometricKey allow start).2
  | .createSignature id signs => some (d.createSignature id signs).2
  | .deleteKeys => some d.deleteKeys.2

end Device

/-- The runs of the module on a device, calls being made also while prompts are open. -/
def device : Machine Device Call where
  init d := d = .initial
  next := Device.next

namespace Device

/-- A stored private key was encrypted, with the stored IV, under the key of the keystore, and that
key was generated for the recorded policy. -/
def Matches (d : Device) : Prop :=
  ∀ c, d.privateKeyEncoded = some c → c.mode = .ENCRYPT_MODE ∧ d.keyStore = some c.key ∧
    d.iV = some c.iv ∧ c.key.allowDeviceCredentials = d.registerAllowDeviceCredentials

/-- The key of the keystore, if there is one, was generated for a policy. -/
def KeyAllows (d : Device) (allowDeviceCredentials : Bool) : Prop :=
  ∀ key, d.keyStore = some key → key.allowDeviceCredentials = allowDeviceCredentials

/-- The cipher, if there is one, encrypts under the key of the keystore. -/
def CipherCurrent (d : Device) : Prop :=
  ∀ c, d.cipher = some c → c.mode = .ENCRYPT_MODE ∧ d.keyStore = some c.key

end Device

/-- The steps that keep the policy: `createKeys`, when it finds no private key to delete, finds no
key of another policy in the keystore; a prompt that succeeds finds the cipher still encrypting
under the key of the keystore. -/
def KeepsPolicy : Guard Device Call := fun _ d call =>
  match call with
  | .createKeys allow fallback start =>
      (start.isUsingKeystore = false ∧ fallback = false) ∨ d.biometricKeyExists = true ∨
        d.KeyAllows allow
  | .finishCreateKeys .throws | .finishCreateKeys .sealed => d.CipherCurrent
  | _ => True

namespace Device

theorem keyStore_getSecretKey (allow : Bool) (d : Device) :
    (d.getSecretKey allow).2.keyStore = some (d.getSecretKey allow).1 := by
  unfold getSecretKey
  cases hkey : d.keyStore with
  | some key => exact hkey
  | none => rfl

theorem cipherCurrent_startSealing {allow : Bool} {start : Start} {d : Device}
    (hok : (d.startSealing allow start).1 = .ok ()) :
    (d.startSealing allow start).2.CipherCurrent := by
  have hkey := d.keyStore_getSecretKey allow
  unfold startSealing initCipher at hok ⊢
  cases hfailure : start.keyFailure with
  | some failure => simp [hfailure] at hok
  | none =>
    cases hinit : start.initFailure with
    | some failure => simp [hfailure, hinit] at hok
    | none =>
      cases hprompts : start.prompts with
      | false => simp [hfailure, hinit, hprompts] at hok
      | true =>
        rintro c hc
        obtain rfl := Option.some.inj hc
        exact ⟨rfl, hkey⟩

/-- A prompt of `createKeys` opens on a cipher that encrypts under the key of the keystore, and one
that ends before the next call finds it. -/
theorem cipherCurrent_createKeys {allow fallback : Bool} {start : Start} {d : Device}
    (hok : (d.createKeys allow fallback start).1 = .ok ()) :
    (d.createKeys allow fallback start).2.CipherCurrent := by
  unfold createKeys at hok ⊢
  split
  · rename_i hkeystore
    rw [if_pos hkeystore] at hok
    cases hok
  · rename_i hkeystore
    rw [if_neg hkeystore] at hok
    exact cipherCurrent_startSealing hok

end Device

/-! ## The invariant -/

/-- What the steps that keep the policy keep. -/
structure KeyInvariant (d : Device) : Prop where
  stored : d.Matches
  /-- A cipher that encrypts under the key of the keystore is one of the recorded policy, and made
  the stored text if there is one. -/
  cipher : ∀ c, d.cipher = some c → c.mode = .ENCRYPT_MODE → d.keyStore = some c.key →
    c.key.allowDeviceCredentials = d.registerAllowDeviceCredentials ∧
      ∀ c', d.privateKeyEncoded = some c' → c' = c
  cipher_lt : ∀ c, d.cipher = some c → c.key.id < d.generated
  key_lt : ∀ key, d.keyStore = some key → key.id < d.generated

namespace KeyInvariant

variable {d : Device}

theorem initial : KeyInvariant .initial where
  stored := nofun
  cipher := nofun
  cipher_lt := nofun
  key_lt := nofun

theorem deleteBiometricKey (h : KeyInvariant d) : KeyInvariant d.deleteBiometricKey where
  stored := nofun
  cipher := nofun
  cipher_lt := h.cipher_lt
  key_lt := nofun

/-- The key that is returned has the policy that was asked for, if the key that was there has. -/
theorem getSecretKey (h : KeyInvariant d) (allow : Bool) :
    KeyInvariant (d.getSecretKey allow).2 ∧
      (d.getSecretKey allow).2.privateKeyEncoded = d.privateKeyEncoded ∧
      (d.getSecretKey allow).2.registerAllowDeviceCredentials = d.registerAllowDeviceCredentials ∧
      (d.KeyAllows allow → (d.getSecretKey allow).1.allowDeviceCredentials = allow) := by
  unfold Device.getSecretKey
  cases hkey : d.keyStore with
  | some key => exact ⟨h, rfl, rfl, fun hallow => hallow key hkey⟩
  | none =>
    have hnone : d.privateKeyEncoded = none := by
      cases hc : d.privateKeyEncoded with
      | none => rfl
      | some c => simpa [hkey] using (h.stored c hc).2.1
    refine ⟨⟨?_, ?_, ?_, ?_⟩, rfl, rfl, fun _ => rfl⟩
    · intro c hc
      cases hnone.symm.trans hc
    · intro c hc _ hk
      have hlt := h.cipher_lt c hc
      rw [← Option.some.inj hk] at hlt
      exact absurd hlt (Nat.lt_irrefl _)
    · intro c hc
      have hlt := h.cipher_lt c hc
      exact Nat.lt_succ_of_lt hlt
    · intro key hk
      rw [← Option.some.inj hk]
      exact Nat.lt_succ_self _

/-- A device on which nothing is stored and the key of the keystore, if there is one, has the policy
that is recorded now. -/
theorem record (h : KeyInvariant d) {allow : Bool} (hnone : d.privateKeyEncoded = none)
    (hallow : d.KeyAllows allow) :
    KeyInvariant { d with registerAllowDeviceCredentials := allow } where
  stored c hc := by cases hnone.symm.trans hc
  cipher c _ _ hk := ⟨hallow _ hk, fun c' hc' => by cases hnone.symm.trans hc'⟩
  cipher_lt := h.cipher_lt
  key_lt := h.key_lt

/-- An initialization of the cipher with the key of the keystore, for decryption, or for encryption
where the key has the recorded policy and nothing is stored. -/
theorem initCipher (h : KeyInvariant d) (failure : Option (KeyFailure × Bool)) {c : Cipher}
    (hkey : d.keyStore = some c.key)
    (hmode : c.mode = .ENCRYPT_MODE → d.privateKeyEncoded = none ∧
      c.key.allowDeviceCredentials = d.registerAllowDeviceCredentials) :
    KeyInvariant (d.initCipher failure c).2 := by
  cases failure with
  | some failure =>
    refine ⟨h.stored, fun c' hc' => ?_, fun c' hc' => ?_, h.key_lt⟩
    · exact h.cipher c' (Option.filter_eq_some_iff.1 hc').1
    · exact h.cipher_lt c' (Option.filter_eq_some_iff.1 hc').1
  | none =>
    refine ⟨h.stored, fun c' hc' hm _ => ?_, fun c' hc' => ?_, h.key_lt⟩
    · rw [← Option.some.inj hc'] at hm ⊢
      obtain ⟨hnone, hallow⟩ := hmode hm
      exact ⟨hallow, fun c'' hc'' => by cases hnone.symm.trans hc''⟩
    · rw [← Option.some.inj hc']
      exact h.key_lt _ hkey

/-- The prompts that are open do not matter. -/
theorem setCreating (h : KeyInvariant d) (n : ℕ) : KeyInvariant { d with creating := n } :=
  ⟨h.stored, h.cipher, h.cipher_lt, h.key_lt⟩

theorem getSensor (h : KeyInvariant d) (allow : Bool) (auth : CanAuthenticate)
    (failure : Option KeyFailure) : KeyInvariant (d.getSensor allow auth failure).2 := by
  unfold Device.getSensor
  split
  · split
    · exact (h.getSecretKey allow).1
    · exact h
    · exact h
    · exact h.deleteBiometricKey
    · exact h
  all_goals exact h

theorem startSealing (h : KeyInvariant d) (start : Start) (hnone : d.privateKeyEncoded = none)
    (hallow : d.KeyAllows d.registerAllowDeviceCredentials) :
    KeyInvariant (d.startSealing d.registerAllowDeviceCredentials start).2 := by
  have hkey := d.keyStore_getSecretKey d.registerAllowDeviceCredentials
  obtain ⟨hkeyed, hstored, hpolicy, hkeyallow⟩ := h.getSecretKey d.registerAllowDeviceCredentials
  have hinit := @initCipher _ hkeyed start.initFailure ⟨.ENCRYPT_MODE, _, start.iv⟩ hkey
    fun _ => ⟨hstored.trans hnone, (hkeyallow hallow).trans hpolicy.symm⟩
  unfold Device.startSealing
  cases start.keyFailure with
  | some failure => exact h
  | none =>
    dsimp only
    revert hinit
    rcases Device.initCipher _ _ _ with ⟨_ | _, d'⟩ <;> intro hinit
    · exact hinit
    · dsimp only
      split_ifs
      · exact hinit.setCreating _
      · exact hinit

theorem createKeys (h : KeyInvariant d) {allow fallback : Bool} {start : Start}
    (hsafe : (start.isUsingKeystore = false ∧ fallback = false) ∨ d.biometricKeyExists = true ∨
      d.KeyAllows allow) : KeyInvariant (d.createKeys allow fallback start).2 := by
  unfold Device.createKeys
  by_cases hks : (!start.isUsingKeystore && !fallback) = true
  · rwa [if_pos hks]
  rw [if_neg hks]
  by_cases hex : d.biometricKeyExists = true
  · rw [if_pos hex]
    exact (h.deleteBiometricKey.record rfl nofun).startSealing start rfl nofun
  · rw [if_neg hex]
    have hnone : d.privateKeyEncoded = none := by simpa [Device.biometricKeyExists] using hex
    have hallow : d.KeyAllows allow := by
      obtain ⟨hus, hfb⟩ | hex' | hallow := hsafe
      · simp [hus, hfb] at hks
      · exact absurd hex' hex
      · exact hallow
    exact (h.record hnone hallow).startSealing start hnone hallow

/-- The callback of a prompt stores the IV of a cipher that is current. -/
theorem storeIv (h : KeyInvariant d) {c : Cipher} (hc : d.cipher = some c)
    (hcurrent : d.CipherCurrent) : KeyInvariant { d with iV := some c.iv } where
  stored c' hc' := by
    obtain ⟨hmode, hkey⟩ := hcurrent c hc
    have hlast := (h.cipher c hc hmode hkey).2 c' hc'
    obtain ⟨hmode', hkey', -, hallow'⟩ := h.stored c' hc'
    exact ⟨hmode', hkey', by rw [hlast], hallow'⟩
  cipher := h.cipher
  cipher_lt := h.cipher_lt
  key_lt := h.key_lt

/-- It stores the private key as well. -/
theorem storeKey (h : KeyInvariant d) {c : Cipher} (hc : d.cipher = some c)
    (hcurrent : d.CipherCurrent) :
    KeyInvariant { d with iV := some c.iv, privateKeyEncoded := some c } := by
  obtain ⟨hmode, hkey⟩ := hcurrent c hc
  have hallow := (h.cipher c hc hmode hkey).1
  refine ⟨fun c' hc' => ?_, fun c' hc' _ _ => ?_, h.cipher_lt, h.key_lt⟩
  · rw [← Option.some.inj hc']
    exact ⟨hmode, hkey, rfl, hallow⟩
  · rw [← Option.some.inj (hc.symm.trans hc')]
    exact ⟨hallow, fun c'' hc'' => (Option.some.inj hc'').symm⟩

theorem finishCreateKeys (h : KeyInvariant d) {sealing : Sealing}
    (hsafe : sealing = .throws ∨ sealing = .sealed → d.CipherCurrent) :
    KeyInvariant (d.finishCreateKeys sealing).2 := by
  have h' := h.setCreating (d.creating - 1)
  unfold Device.finishCreateKeys
  dsimp only
  split
  · exact h'
  · exact h'
  · exact h'
  · exact h'
  · rename_i c hc
    exact h'.storeIv hc (hsafe (.inl rfl))
  · rename_i c hc
    exact h'.storeKey hc (hsafe (.inr rfl))

theorem getBiometricKey (h : KeyInvariant d) (allow : Bool) (start : Start) :
    KeyInvariant (d.getBiometricKey allow start).2 := by
  have hkey := d.keyStore_getSecretKey allow
  have hkeyed := (h.getSecretKey allow).1
  unfold Device.getBiometricKey
  split
  · exact h
  split
  · exact h
  cases start.keyFailure with
  | some failure => exact h
  | none =>
    dsimp only
    split
    · exact hkeyed
    · rename_i iv _
      have hinit := @initCipher _ hkeyed start.initFailure ⟨.DECRYPT_MODE, _, iv⟩ hkey nofun
      revert hinit
      rcases Device.initCipher _ _ _ with ⟨_ | _, d'⟩ <;> exact id

theorem createSignature (h : KeyInvariant d) (id : String) (signs : Bool) :
    KeyInvariant (d.createSignature id signs).2 := by
  unfold Device.createSignature
  split_ifs
  · exact h
  · exact h
  · exact h
  · exact ⟨h.stored, h.cipher, h.cipher_lt, h.key_lt⟩

theorem deleteKeys (h : KeyInvariant d) : KeyInvariant d.deleteKeys.2 := by
  unfold Device.deleteKeys
  split_ifs
  · exact h.deleteBiometricKey
  · exact h

/-- A step that keeps the policy keeps the invariant. -/
theorem step {calls : List Call} {call : Call} {d' : Device} (h : KeyInvariant d)
    (hsafe : KeepsPolicy calls d call) (hstep : device.next d call = some d') :
    KeyInvariant d' := by
  cases call with
  | getSensor allow auth failure =>
    rw [← Option.some.inj hstep]
    exact h.getSensor allow auth failure
  | createKeys allow fallback start =>
    rw [← Option.some.inj hstep]
    exact h.createKeys hsafe
  | finishCreateKeys sealing =>
    rw [← Option.some.inj (Option.ite_none_left_eq_some.1 hstep).2]
    refine h.finishCreateKeys ?_
    rintro (rfl | rfl)
    · exact hsafe
    · exact hsafe
  | getBiometricKey allow start =>
    rw [← Option.some.inj hstep]
    exact h.getBiometricKey allow start
  | createSignature id signs =>
    rw [← Option.some.inj hstep]
    exact h.createSignature id signs
  | deleteKeys =>
    rw [← Option.some.inj hstep]
    exact h.deleteKeys

end KeyInvariant

/-- In every run whose steps keep the policy, a stored private key matches the keystore and the
recorded policy in every state reached. -/
theorem key_matches_policy {calls : List Call} {d : Device}
    (hr : Reach device KeepsPolicy calls d) : d.Matches := by
  have hinv : KeyInvariant d := by
    induction hr with
    | start h0 => exact h0 ▸ KeyInvariant.initial
    | step _ hsafe hstep ih => exact ih.step hsafe hstep
  exact hinv.stored

/-- Everything goes well up to the prompt. -/
def exampleStart : Start := ⟨true, none, none, 7, true⟩

/-- A registration with device credentials on a fresh device. -/
theorem key_matches_policy_registration :
    ∃ d, Reach device KeepsPolicy
      [.finishCreateKeys .sealed, .createKeys true false exampleStart] d ∧
      d.biometricKeyExists = true ∧ d.Matches := by
  have hr : Reach device KeepsPolicy
      [.finishCreateKeys .sealed, .createKeys true false exampleStart] _ :=
    ((Reach.start rfl).step (.inr (.inr nofun)) rfl).step
      (fun c hc => by cases hc; exact ⟨rfl, rfl⟩) rfl
  exact ⟨_, hr, rfl, key_matches_policy hr⟩

/-- A sensor check for device credentials leaves its key for a registration without them: the
private key can be unlocked with a passcode although the preferences say that it cannot. -/
theorem sensor_key_reused :
    ∃ d, Reach device anyStep
        [.finishCreateKeys .sealed, .createKeys false false exampleStart,
          .getSensor true .BIOMETRIC_SUCCESS none] d ∧
      d.keyStore = some ⟨0, true⟩ ∧ d.registerAllowDeviceCredentials = false ∧ ¬ d.Matches := by
  refine ⟨_, reach_of_exec rfl rfl, rfl, rfl, fun h => ?_⟩
  exact absurd (h _ rfl).2.2.2 (by decide)

end StytchBrowser.ReactNative.Android
