import Mathlib.Data.Nat.Notation

/-!
# The native modules for biometric keys

The Android module keeps a secret key in the Android keystore, and in its preferences a private key
encrypted with it, the initialization vector (IV) of that encryption, whether device credentials are
allowed, and the id of the registration. Every call uses the one `Cipher` of the module. Which key
made a text is what matters of the cryptography, so a text is modelled by the cipher that made it.

The iOS module keeps the private key in the keychain, behind the access control of the system, and
the rest in the user defaults.

Every function returns what its promise settles with and the device afterwards; what the system may
do is given by its arguments.
-/

namespace StytchBrowser.ReactNative

/-- What the native calls reject with; `other` is an exception of the platform. -/
inductive BiometricError where
  | BiometricsUnavailable
  | NoBiometricsEnrolled
  | KeystoreUnavailable
  | KeyInvalidated
  | UserLockedOut
  | UserCancellation
  | BiometricsFailed
  | MissingPublicKey
  | NoBiometricsRegistration
  | DeviceCredentialsNotAllowed
  | MissingCipherIv
  | BiometricRegistrationIdIsNullOrBlank
  | other
  deriving DecidableEq

/-- The category Zs of Unicode. -/
def isSpaceSeparator (c : Char) : Bool :=
  c.toNat ∈ [0x20, 0xa0, 0x1680, 0x202f, 0x205f, 0x3000] ||
    (0x2000 ≤ c.toNat && c.toNat ≤ 0x200a)

/-! ## Android -/

namespace Android

/-- A key of the key generator, with the policy it was generated for. -/
structure SecretKey where
  id : ℕ
  allowDeviceCredentials : Bool
  deriving DecidableEq

inductive CipherMode where
  | ENCRYPT_MODE
  | DECRYPT_MODE
  deriving DecidableEq

/-- What `cipher.init` was called with, and the IV of the cipher. -/
structure Cipher where
  mode : CipherMode
  key : SecretKey
  iv : ℕ
  deriving DecidableEq

/-- A device: the keystore entry under `BIOMETRIC_KEY_NAME`, the preferences, the cipher of the
module, how many keys were generated, and how many prompts of `createKeys` are open. -/
structure Device where
  keyStore : Option SecretKey
  iV : Option ℕ
  /-- The encrypted private key: the cipher whose `doFinal` made it. -/
  privateKeyEncoded : Option Cipher
  registerAllowDeviceCredentials : Bool
  registrationId : Option String
  cipher : Option Cipher
  generated : ℕ
  creating : ℕ

/-- A device on which the app was just installed. -/
def Device.initial : Device := ⟨none, none, none, false, none, none, 0, 0⟩

/-- The answers of `BiometricManager.canAuthenticate`. -/
inductive CanAuthenticate where
  | BIOMETRIC_SUCCESS
  | BIOMETRIC_ERROR_NO_HARDWARE
  | BIOMETRIC_ERROR_HW_UNAVAILABLE
  | BIOMETRIC_ERROR_SECURITY_UPDATE_REQUIRED
  | BIOMETRIC_ERROR_UNSUPPORTED
  | BIOMETRIC_STATUS_UNKNOWN
  | BIOMETRIC_ERROR_NONE_ENROLLED
  | other

/-- How a use of the keystore, the key generator or the cipher fails. -/
inductive KeyFailure where
  | IllegalState
  | InvalidAlgorithmParameter
  | KeyPermanentlyInvalidated
  | other

/-- What a call of `createKeys` or `getBiometricKey` meets on its way to the prompt. -/
structure Start where
  isUsingKeystore : Bool
  /-- How `getSecretKey` fails. -/
  keyFailure : Option KeyFailure
  /-- How `cipher.init` fails, and whether the cipher can be used as before then. -/
  initFailure : Option (KeyFailure × Bool)
  /-- The IV of the cipher after an initialization for encryption. -/
  iv : ℕ
  /-- The prompt opens: there is an activity to show it on. -/
  prompts : Bool

/-- How the callback of a prompt of `createKeys` ends. -/
inductive Sealing where
  /-- `onAuthenticationError`, with the error of `handleAuthenticationError`. -/
  | error (e : BiometricError)
  /-- The result has no cipher, or no key pair could be generated. -/
  | noCipher
  /-- `doFinal` throws, after the IV has been stored. -/
  | throws
  | sealed

/-- What the `catch` of `createKeys` makes of an exception. -/
def createKeysError : KeyFailure → BiometricError
  | .KeyPermanentlyInvalidated => .KeyInvalidated
  | _ => .other

/-- `Char.isWhitespace` of Kotlin. -/
def isWhitespace (c : Char) : Bool :=
  isSpaceSeparator c || c.toNat ∈ [0x2028, 0x2029] || (0x9 ≤ c.toNat && c.toNat ≤ 0xd) ||
    (0x1c ≤ c.toNat && c.toNat ≤ 0x1f)

namespace Device

def biometricKeyExists (d : Device) : Bool := d.privateKeyEncoded.isSome

def deleteBiometricKey (d : Device) : Device :=
  { d with keyStore := none, privateKeyEncoded := none, iV := none }

def generateSecretKey (allowDeviceCredentials : Bool) (d : Device) : SecretKey × Device :=
  let key := ⟨d.generated, allowDeviceCredentials⟩
  (key, { d with keyStore := some key, generated := d.generated + 1 })

/-- The key under the alias, which is generated if there is none. -/
def getSecretKey (allowDeviceCredentials : Bool) (d : Device) : SecretKey × Device :=
  match d.keyStore with
  | some key => (key, d)
  | none => d.generateSecretKey allowDeviceCredentials

/-- `getSensor`, with the type of the sensor as its result. -/
def getSensor (allowDeviceCredentials : Bool) (auth : CanAuthenticate)
    (failure : Option KeyFailure) (d : Device) : Except BiometricError String × Device :=
  match auth with
  | .BIOMETRIC_SUCCESS =>
      match failure with
      | none => (.ok "Biometrics", (d.getSecretKey allowDeviceCredentials).2)
      | some .IllegalState | some .InvalidAlgorithmParameter => (.error .NoBiometricsEnrolled, d)
      | some .KeyPermanentlyInvalidated => (.ok "Biometrics", d.deleteBiometricKey)
      | some .other => (.error .other, d)
  | .BIOMETRIC_ERROR_NO_HARDWARE | .BIOMETRIC_ERROR_HW_UNAVAILABLE
  | .BIOMETRIC_ERROR_SECURITY_UPDATE_REQUIRED | .BIOMETRIC_ERROR_UNSUPPORTED
  | .BIOMETRIC_STATUS_UNKNOWN => (.error .BiometricsUnavailable, d)
  | .BIOMETRIC_ERROR_NONE_ENROLLED => (.error .NoBiometricsEnrolled, d)
  | .other => (.ok "None", d)

/-- `cipher.init`. -/
def initCipher (initFailure : Option (KeyFailure × Bool)) (cipher : Cipher) (d : Device) :
    Except KeyFailure Unit × Device :=
  match initFailure with
  | some (failure, kept) => (.error failure, { d with cipher := d.cipher.filter fun _ => kept })
  | none => (.ok (), { d with cipher := some cipher })

/-- `createKeys` from the initialization of the cipher up to the prompt. -/
def startSealing (allowDeviceCredentials : Bool) (start : Start) (d : Device) :
    Except BiometricError Unit × Device :=
  match start.keyFailure with
  | some failure => (.error (createKeysError failure), d)
  | none =>
      let (key, d) := d.getSecretKey allowDeviceCredentials
      match d.initCipher start.initFailure ⟨.ENCRYPT_MODE, key, start.iv⟩ with
      | (.error failure, d) => (.error (createKeysError failure), d)
      | (.ok (), d) =>
          if start.prompts then (.ok (), { d with creating := d.creating + 1 })
          else (.error .other, d)

/-- `createKeys` up to its prompt. -/
def createKeys (allowDeviceCredentials allowFallbackToCleartext : Bool) (start : Start)
    (d : Device) : Except BiometricError Unit × Device :=
  if !start.isUsingKeystore && !allowFallbackToCleartext then (.error .KeystoreUnavailable, d)
  else
    let d := if d.biometricKeyExists then d.deleteBiometricKey else d
    startSealing allowDeviceCredentials start
      { d with registerAllowDeviceCredentials := allowDeviceCredentials }

/-- The callback of a prompt of `createKeys`. -/
def finishCreateKeys (sealing : Sealing) (d : Device) : Except BiometricError Unit × Device :=
  let d := { d with creating := d.creating - 1 }
  match sealing, d.cipher with
  | .error e, _ => (.error e, d)
  | .noCipher, _ => (.error .BiometricsFailed, d)
  | .throws, none | .sealed, none => (.error .other, d)
  | .throws, some cipher => (.error .other, { d with iV := some cipher.iv })
  | .sealed, some cipher =>
      (.ok (), { d with iV := some cipher.iv, privateKeyEncoded := some cipher })

/-- `getBiometricKey` up to its prompt, whose callback changes nothing. -/
def getBiometricKey (allowDeviceCredentials : Bool) (start : Start) (d : Device) :
    Except BiometricError Unit × Device :=
  if !d.biometricKeyExists then (.error .NoBiometricsRegistration, d)
  else if !d.registerAllowDeviceCredentials && allowDeviceCredentials then
    (.error .DeviceCredentialsNotAllowed, d)
  else
    match start.keyFailure with
    | some _ => (.error .other, d)
    | none =>
        let (key, d) := d.getSecretKey allowDeviceCredentials
        match d.iV with
        | none => (.error .MissingCipherIv, d)
        | some iv =>
            match d.initCipher start.initFailure ⟨.DECRYPT_MODE, key, iv⟩ with
            | (.error _, d) => (.error .other, d)
            | (.ok (), d) => (if start.prompts then .ok () else .error .other, d)

def createSignature (biometricRegistrationId : String) (signs : Bool) (d : Device) :
    Except BiometricError Unit × Device :=
  if !d.biometricKeyExists then (.error .MissingPublicKey, d)
  else if !signs then (.error .other, d)
  else if biometricRegistrationId.toList.all isWhitespace then
    (.error .BiometricRegistrationIdIsNullOrBlank, d)
  else (.ok (), { d with registrationId := some biometricRegistrationId })

/-- `getBiometricRegistrationId`; the id that `deleteKeys` leaves in the preferences is found. -/
def getBiometricRegistrationId (d : Device) : Except BiometricError (Option String) :=
  match d.registrationId with
  | some registrationId => .ok (some registrationId)
  | none => .error .NoBiometricsRegistration

/-- `deleteKeys`, with `keysDeleted` as its result. -/
def deleteKeys (d : Device) : Bool × Device :=
  if d.biometricKeyExists then (true, d.deleteBiometricKey) else (false, d)

end Device

end Android

/-! ## iOS -/

namespace IOS

/-- The key in the keychain, and the two values in the user defaults. -/
structure Device where
  biometricKey : Bool
  allowDeviceCredentials : Bool
  biometricRegistrationId : Option String

/-- How a call of `createKeys` goes. -/
inductive Creation where
  /-- The evaluation of the policy fails, with the error it is mapped to. -/
  | policyFails (e : BiometricError)
  /-- `SecAccessControlCreateWithFlags` fails. -/
  | accessControlFails
  /-- A key pair is generated; whether it has a public key, whether the old key is deleted, and
  whether `SecItemAdd` adds the new one. -/
  | generated (publicKey deleted added : Bool)

namespace Device

/-- `createKeys`, which ignores the status of `SecItemAdd`. -/
def createKeys (allowDeviceCredentials : Bool) (creation : Creation) (d : Device) :
    Except BiometricError Unit × Device :=
  match creation with
  | .policyFails e => (.error e, d)
  | .accessControlFails => (.error .other, d)
  | .generated publicKey deleted added =>
      let d := { d with biometricKey := added || (d.biometricKey && !deleted) }
      if publicKey then (.ok (), { d with allowDeviceCredentials })
      else (.error .MissingPublicKey, d)

/-- `whitespaceCharacterSet`. -/
def isWhitespace (c : Char) : Bool := isSpaceSeparator c || c.toNat = 9

/-- `createSignature`, which does not look for the key and stores the id before it signs. -/
def createSignature (biometricRegistrationId : String) (signs : Bool) (d : Device) :
    Except BiometricError Unit × Device :=
  if biometricRegistrationId.toList.all isWhitespace then
    (.error .BiometricRegistrationIdIsNullOrBlank, d)
  else
    (if signs then .ok () else .error .other,
      { d with biometricRegistrationId := some biometricRegistrationId })

/-- `getBiometricRegistrationId`, which resolves without an id when there is none. -/
def getBiometricRegistrationId (d : Device) : Except BiometricError (Option String) :=
  .ok d.biometricRegistrationId

/-- `deleteKeys`, with `keysDeleted` as its result; `deleted` is whether `SecItemDelete` succeeds. -/
def deleteKeys (deleted : Bool) (d : Device) : Bool × Device :=
  if d.biometricKey && deleted then
    (true, { d with biometricKey := false, biometricRegistrationId := none })
  else (false, d)

end Device

end IOS

end StytchBrowser.ReactNative
