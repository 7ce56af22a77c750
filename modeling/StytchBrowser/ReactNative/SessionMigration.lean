import StytchBrowser.Lib.Base64
import StytchBrowser.Lib.FormUrlEncoded

/-!
# The migration of legacy sessions

When the SDK starts it looks for a session that an older version has stored, on Android in the
keychain of React Native or encrypted by the library `CryptoJS` in the storage of Expo, on iOS in the
same places. The ciphertext of `CryptoJS` begins with a header of eight bytes and a salt of eight
bytes; key and initialisation vector are derived from the password and the salt by repeated MD5.

Both platforms derive them in a loop that fills an array word by word (`evpLoop`), which is
`EVP_BytesToKey` with one iteration (`Ios.EvpKDF_eq`, `Android.EvpKDF_eq`). They differ in what
happens to a ciphertext that cannot be read: `Readable` says when the migration goes through.
-/

namespace StytchBrowser.ReactNative

open FormUrlEncoded

/-- What the platforms provide: hash, ciphers and decoders, and the tests for JSON. The cipher of the
keychain takes a key of type `κ`. -/
structure Primitives (κ : Type) where
  md5 : Bytes → Vector UInt8 16
  /-- AES-256 in CBC mode with PKCS #7 padding, `none` when the input is rejected. -/
  aesCbc : Bytes → Bytes → Bytes → Option Bytes
  aesCbc_of_length : ∀ key iv ciphertext, ciphertext.length % 16 ≠ 0 → aesCbc key iv ciphertext = none
  /-- The cipher of the keychain. -/
  keychainCipher : κ → Bytes → Bytes → Option Bytes
  /-- `Data(base64Encoded:)`. -/
  base64Encoded : String → Option Bytes
  /-- `android.util.Base64.decode`, `none` when it throws. -/
  base64Decode : String → Option Bytes
  /-- `JSONSerialization.jsonObject` does not throw. -/
  jsonObject : String → Bool
  /-- The constructor `JSONObject` does not throw. -/
  newJSONObject : String → Bool

def KEY_SIZE : ℕ := 256

def IV_SIZE : ℕ := 128

def keySize : ℕ := KEY_SIZE / 32

def ivSize : ℕ := IV_SIZE / 32

def targetKeySize : ℕ := keySize + ivSize

section Derivation

variable (md5 : Bytes → Vector UInt8 16) (password salt : Bytes)

/-- The loop of `EvpKDF`. `copy block n derivedBytes start` writes the first `n` bytes of the
block. -/
def evpLoop (copy : Bytes → ℕ → Bytes → ℕ → Bytes) (derivedBytes : Bytes)
    (numberOfDerivedWords : ℕ) (block : Option Bytes) : Bytes :=
  if numberOfDerivedWords < targetKeySize then
    let hash := md5 (block.getD [] ++ password ++ salt)
    let byteLengthToCopy := min hash.toList.length ((targetKeySize - numberOfDerivedWords) * 4)
    evpLoop copy (copy hash.toList byteLengthToCopy derivedBytes (numberOfDerivedWords * 4))
      (numberOfDerivedWords + hash.toList.length / 4) (some hash.toList)
  else derivedBytes
termination_by targetKeySize - numberOfDerivedWords
decreasing_by
  rw [Vector.length_toList]
  omega

/-- The blocks of `EVP_BytesToKey` with one iteration: each is the hash of the one before, the
password and the salt. -/
def evpBlock : ℕ → Bytes
  | 0 => (md5 (password ++ salt)).toList
  | i + 1 => (md5 (evpBlock i ++ password ++ salt)).toList

/-- `EVP_BytesToKey` with one iteration: the first 32 bytes are the key, the next 16 the
initialisation vector. -/
def EVP_BytesToKey : Bytes × Bytes :=
  let bytes := (List.range 3).flatMap (evpBlock md5 password salt)
  (bytes.take 32, (bytes.drop 32).take 16)

end Derivation

/-! ## iOS -/

namespace Ios

/-- A runtime error, which ends the app. -/
inductive Trap where
  | unwrappedNil
  | outOfRange

/-- `bytes[lower..<upper]`. -/
def slice (bytes : Bytes) (lower upper : ℕ) : Except Trap Bytes :=
  if lower ≤ upper ∧ upper ≤ bytes.length then .ok ((bytes.drop lower).take (upper - lower))
  else .error .outOfRange

/-- `derivedBytes.replaceSubrange`, which takes the whole block. -/
def replaceSubrange (block : Bytes) (byteLengthToCopy : ℕ) (derivedBytes : Bytes)
    (startPosition : ℕ) : Bytes :=
  derivedBytes.take startPosition ++ block ++ derivedBytes.drop (startPosition + byteLengthToCopy)

def EvpKDF (md5 : Bytes → Vector UInt8 16) (password salt : Bytes) : Bytes × Bytes :=
  let derivedBytes :=
    evpLoop md5 password salt replaceSubrange (List.replicate (targetKeySize * 4) 0) 0 none
  (derivedBytes.take (keySize * 4), (derivedBytes.drop (keySize * 4)).take (ivSize * 4))

variable {κ : Type} (p : Primitives κ)

def deriveKeyIvAndCypher (ciphertext password : String) : Except Trap ((Bytes × Bytes) × Bytes) := do
  let ctBytes ← (p.base64Encoded ciphertext).elim (.error .unwrappedNil) .ok
  let saltBytes ← slice ctBytes 8 16
  let cipherTextBytes ← slice ctBytes 16 ctBytes.length
  return (EvpKDF p.md5 (encodeUtf8 password) saltBytes, cipherTextBytes)

/-- `QCCAESPadCBCDecrypt`, `none` when it throws. -/
def QCCAESPadCBCDecrypt (key iv ciphertext : Bytes) : Option Bytes :=
  if key.length ∈ [16, 24, 32] ∧ iv.length = 16 ∧ ciphertext.length % 16 = 0 then
    p.aesCbc key iv ciphertext
  else none

def decryptWithPassword (ciphertext password : String) : Except Trap (Option String) := do
  let derivedBytes ← deriveKeyIvAndCypher p ciphertext password
  let decrypted := QCCAESPadCBCDecrypt p derivedBytes.1.1 derivedBytes.1.2 derivedBytes.2
  return decrypted.bind fun decrypted => String.fromUTF8? decrypted.toByteArray

/-- What is stored: the item of React Native, the session of Expo and its key. -/
structure LegacyStore where
  rnData : Option String
  encryptedExpoSession : Option String
  aesKeyString : Option String

def maybeExtractExistingRNSession (rnSessionString : String) : Option String :=
  if p.jsonObject rnSessionString then some rnSessionString else none

def decryptExistingExpoSession (d : LegacyStore) (encryptedExpoSession : String) :
    Except Trap (Option String) :=
  match d.aesKeyString with
  | none => .ok none
  | some aesKeyString => decryptWithPassword p encryptedExpoSession aesKeyString

def getExistingSessionData (d : LegacyStore) : Except Trap (Option String) :=
  match d.rnData.bind (maybeExtractExistingRNSession p) with
  | some rnSession => .ok (some rnSession)
  | none =>
      match d.encryptedExpoSession with
      | some encryptedExpoSession => decryptExistingExpoSession p d encryptedExpoSession
      | none => .ok none

end Ios

/-! ## Android -/

namespace Android

inductive JavaException where
  | generalSecurity
  | unrecoverableKey
  | io
  | json
  | illegalArgument
  | indexOutOfBounds
  | nullPointer
  deriving DecidableEq

/-- `UnrecoverableKeyException` is a `GeneralSecurityException`. -/
def JavaException.isGeneralSecurity : JavaException → Bool
  | .generalSecurity => true
  | .unrecoverableKey => true
  | _ => false

/-- `Arrays.copyOfRange`, which fills up with zeros. -/
def copyOfRange (bytes : Bytes) (lower upper : ℕ) : Except JavaException Bytes :=
  if upper < lower then .error .illegalArgument
  else if bytes.length < lower then .error .indexOutOfBounds
  else .ok (((bytes.drop lower).take (upper - lower)).rightpad (upper - lower) 0)

/-- `System.arraycopy` from the start of `src`, within both arrays. -/
def arraycopy (src : Bytes) (length : ℕ) (dest : Bytes) (destPos : ℕ) : Bytes :=
  dest.take destPos ++ src.take length ++ dest.drop (destPos + length)

def EvpKDF (md5 : Bytes → Vector UInt8 16) (password salt : Bytes) : Bytes × Bytes :=
  let derivedBytes :=
    evpLoop md5 password salt arraycopy (List.replicate (targetKeySize * 4) 0) 0 none
  let resultKey := List.replicate (KEY_SIZE / 8) 0
  let resultIv := List.replicate (IV_SIZE / 8) 0
  (arraycopy derivedBytes (keySize * 4) resultKey 0,
    arraycopy (derivedBytes.drop (keySize * 4)) (ivSize * 4) resultIv 0)

variable {κ : Type} (p : Primitives κ)

def decode (text : String) : Except JavaException Bytes :=
  (p.base64Decode text).elim (.error .illegalArgument) .ok

def decryptCryptoAES (password cipherText : String) : Except JavaException String := do
  let ctBytes ← decode p cipherText
  let saltBytes ← copyOfRange ctBytes 8 16
  let cipherTextBytes ← copyOfRange ctBytes 16 ctBytes.length
  let (key, iv) := EvpKDF p.md5 (encodeUtf8 password) saltBytes
  let plainText ← (p.aesCbc key iv cipherTextBytes).elim (.error .generalSecurity) .ok
  return decodeUtf8 plainText

def IV_LENGTH : ℕ := 16

def readIv (bytes : Bytes) : Except JavaException Bytes :=
  if IV_LENGTH ≥ bytes.length then .error .io
  else .ok (arraycopy bytes IV_LENGTH (List.replicate IV_LENGTH 0) 0)

def decryptRNItemWithKey (encryptedItem : String) (key : κ) : Except JavaException String := do
  let bytes ← decode p encryptedItem
  let iv ← readIv bytes
  let plainText ← (p.keychainCipher key iv (bytes.drop IV_LENGTH)).elim (.error .generalSecurity) .ok
  return decodeUtf8 plainText

/-- What is stored: the item of React Native and the session of Expo, and what the keystore gives for
the one and, after decrypting it, for the other. A key that is not there is `none`. -/
structure LegacyStore (κ : Type) where
  rnSession : Option String
  expoSession : Option String
  rnKey : Except JavaException (Option κ)
  expoKey : Except JavaException (Option String)

/-- The clauses that turn an exception into `null`. -/
def catching (caught : JavaException → Bool) (body : Except JavaException (Option String)) :
    Except JavaException (Option String) :=
  match body with
  | .ok session => .ok session
  | .error e => if caught e then .ok none else .error e

/-- The `try` of `maybeGetExistingRNSession`. A missing key is not a `Key`. -/
def decryptRNSession (potentialEncryptedRNSession : String) (rnKey : Option κ) :
    Except JavaException (Option String) := do
  let key ← rnKey.elim (.error .nullPointer) .ok
  let maybeSession ← decryptRNItemWithKey p potentialEncryptedRNSession key
  if p.newJSONObject maybeSession then return some maybeSession else .error .json

def maybeGetExistingRNSession (d : LegacyStore κ) (potentialEncryptedRNSession : String) :
    Except JavaException (Option String) :=
  match d.rnKey with
  | .error .unrecoverableKey => .ok none
  | .error e => .error e
  | .ok rnKey =>
      catching (fun e => e.isGeneralSecurity || e = .json)
        (decryptRNSession p potentialEncryptedRNSession rnKey)

/-- The `try` of `maybeGetExistingExpoSession`. -/
def decryptExpoSession (d : LegacyStore κ) (encryptedExpoSession : String) :
    Except JavaException (Option String) := do
  match ← d.expoKey with
  | none => return none
  | some decryptedKeyString =>
      let session ← decryptCryptoAES p decryptedKeyString encryptedExpoSession
      return some session

def maybeGetExistingExpoSession (d : LegacyStore κ) (encryptedExpoSession : String) :
    Except JavaException (Option String) :=
  catching (fun e => e = .io || e.isGeneralSecurity || e = .json)
    (decryptExpoSession p d encryptedExpoSession)

/-- `getExistingSessionData`, with the cases of `determineMigrationType`. -/
def getExistingSessionData (d : LegacyStore κ) : Except JavaException (Option String) :=
  match d.rnSession, d.expoSession with
  | some rnSession, _ => maybeGetExistingRNSession p d rnSession
  | none, some expoSession => maybeGetExistingExpoSession p d expoSession
  | none, none => .ok none

end Android

/-! ## Deriving the key -/

section Derivation

variable {md5 : Bytes → Vector UInt8 16} {password salt : Bytes}
  {copy : Bytes → ℕ → Bytes → ℕ → Bytes}

/-- A whole block is copied into the array. -/
def CopiesBlocks (copy : Bytes → ℕ → Bytes → ℕ → Bytes) : Prop :=
  ∀ block written rest : Bytes, block.length = 16 → 16 ≤ rest.length →
    copy block 16 (written ++ rest) written.length = written ++ block ++ rest.drop 16

theorem copiesBlocks_replaceSubrange : CopiesBlocks Ios.replaceSubrange := by
  intro block written rest hblock hrest
  simp [Ios.replaceSubrange]

theorem copiesBlocks_arraycopy : CopiesBlocks Android.arraycopy := by
  intro block written rest hblock hrest
  simp [Android.arraycopy, ← hblock]

theorem length_evpBlock (i : ℕ) : (evpBlock md5 password salt i).length = 16 := by
  cases i <;> exact Vector.length_toList

theorem length_evpBlocks (n : ℕ) :
    ((List.range n).flatMap (evpBlock md5 password salt)).length = 16 * n := by
  rw [List.length_flatMap, List.map_congr_left fun i _ => length_evpBlock i]
  simp [Nat.mul_comm]

/-- The block before the `i`-th. -/
def blockBefore (md5 : Bytes → Vector UInt8 16) (password salt : Bytes) : ℕ → Option Bytes
  | 0 => none
  | i + 1 => some (evpBlock md5 password salt i)

theorem hash_blockBefore (i : ℕ) :
    (md5 ((blockBefore md5 password salt i).getD [] ++ password ++ salt)).toList =
      evpBlock md5 password salt i := by
  cases i <;> rfl

/-- The array before the `i`-th round: the blocks so far, then zeros. -/
def derivedBefore (md5 : Bytes → Vector UInt8 16) (password salt : Bytes) (i : ℕ) : Bytes :=
  (List.range i).flatMap (evpBlock md5 password salt) ++ List.replicate (48 - 16 * i) 0

theorem evpLoop_round (hcopy : CopiesBlocks copy) {i : ℕ} (hi : i < 3) :
    evpLoop md5 password salt copy (derivedBefore md5 password salt i) (4 * i)
        (blockBefore md5 password salt i) =
      evpLoop md5 password salt copy (derivedBefore md5 password salt (i + 1)) (4 * (i + 1))
        (blockBefore md5 password salt (i + 1)) := by
  have hlt : 4 * i < targetKeySize := by
    show 4 * i < 12
    omega
  have hmin : min 16 ((targetKeySize - 4 * i) * 4) = 16 := by
    show min 16 ((12 - 4 * i) * 4) = 16
    omega
  have hstart : 4 * i * 4 = ((List.range i).flatMap (evpBlock md5 password salt)).length := by
    rw [length_evpBlocks]
    omega
  have hrest : 16 ≤ (List.replicate (48 - 16 * i) (0 : UInt8)).length := by
    rw [List.length_replicate]
    omega
  rw [evpLoop, if_pos hlt]
  dsimp only
  rw [hash_blockBefore, length_evpBlock, hmin, derivedBefore, hstart,
    hcopy _ _ _ (length_evpBlock i) hrest, List.drop_replicate]
  have hnext : derivedBefore md5 password salt (i + 1) =
      (List.range i).flatMap (evpBlock md5 password salt) ++ evpBlock md5 password salt i ++
        List.replicate (48 - 16 * i - 16) 0 := by
    rw [derivedBefore, List.range_succ, List.flatMap_append, List.flatMap_singleton]
    rfl
  rw [hnext]
  rfl

theorem evpLoop_rounds (hcopy : CopiesBlocks copy) {i : ℕ} (hi : i ≤ 3) :
    evpLoop md5 password salt copy (List.replicate (targetKeySize * 4) 0) 0 none =
      evpLoop md5 password salt copy (derivedBefore md5 password salt i) (4 * i)
        (blockBefore md5 password salt i) := by
  induction i with
  | zero => rfl
  | succ i ih => rw [ih (by omega), evpLoop_round hcopy hi]

theorem evpLoop_eq (hcopy : CopiesBlocks copy) :
    evpLoop md5 password salt copy (List.replicate (targetKeySize * 4) 0) 0 none =
      (List.range 3).flatMap (evpBlock md5 password salt) := by
  rw [evpLoop_rounds hcopy (Nat.le_refl 3), evpLoop, if_neg (by decide)]
  exact List.append_nil _

theorem Ios.EvpKDF_eq : Ios.EvpKDF md5 password salt = EVP_BytesToKey md5 password salt := by
  rw [Ios.EvpKDF, evpLoop_eq copiesBlocks_replaceSubrange]
  rfl

/-- Copying over a whole array. -/
theorem arraycopy_replicate (src : Bytes) (n : ℕ) :
    Android.arraycopy src n (List.replicate n 0) 0 = src.take n := by
  simp [Android.arraycopy]

theorem Android.EvpKDF_eq : Android.EvpKDF md5 password salt = EVP_BytesToKey md5 password salt := by
  rw [Android.EvpKDF, evpLoop_eq copiesBlocks_arraycopy]
  exact Prod.ext (arraycopy_replicate _ _) (arraycopy_replicate _ _)

end Derivation

/-! ## What the migration is to give -/

section Migration

variable {κ : Type} (p : Primitives κ)

/-- The plaintext of what is encrypted after the salt. -/
def plaintext (password : String) (bytes : Bytes) : Option Bytes :=
  let (key, iv) := EVP_BytesToKey p.md5 (encodeUtf8 password) ((bytes.drop 8).take 8)
  p.aesCbc key iv (bytes.drop 16)

/-- The session in decoded base64: header and salt are there, and the plaintext is UTF-8. -/
def sessionIn (password : String) (decoded : Option Bytes) : Option String :=
  decoded.bind fun bytes =>
    if bytes.length < 16 then none
    else (plaintext p password bytes).bind fun plain => String.fromUTF8? plain.toByteArray

/-- Both platforms derive the key and the vector of `EVP_BytesToKey`, the migration of a session of
Expo gives what is encrypted or nothing, and that of an item in the keychain of Android does not
throw. -/
structure Migrates (ciphertext password item : String) (d : Android.LegacyStore κ) : Prop where
  derivation : ∀ password salt,
    Ios.EvpKDF p.md5 password salt = EVP_BytesToKey p.md5 password salt ∧
      Android.EvpKDF p.md5 password salt = EVP_BytesToKey p.md5 password salt
  ios : Ios.getExistingSessionData p ⟨none, some ciphertext, some password⟩ =
    .ok (sessionIn p password (p.base64Encoded ciphertext))
  android : Android.getExistingSessionData p
      { d with rnSession := none, expoSession := some ciphertext, expoKey := .ok (some password) } =
    .ok (sessionIn p password (p.base64Decode ciphertext))
  keychain : ∃ session,
    Android.getExistingSessionData p { d with rnSession := some item } = .ok session

/-- The ciphertext is base64 with a salt and no broken UTF-8 in it. The key of the keychain is gone
for good or there, and then the item is base64 that is longer than the initialisation vector. -/
structure Readable (ciphertext password item : String) (d : Android.LegacyStore κ) : Prop where
  ios : ∃ bytes, p.base64Encoded ciphertext = some bytes ∧ 16 ≤ bytes.length
  android : ∃ bytes, p.base64Decode ciphertext = some bytes ∧ 16 ≤ bytes.length ∧
    ∀ plain, plaintext p password bytes = some plain → plain.toByteArray.IsValidUTF8
  keychain : d.rnKey = .error .unrecoverableKey ∨
    ∃ key bytes, d.rnKey = .ok (some key) ∧ p.base64Decode item = some bytes ∧ 16 < bytes.length

variable {p} {ciphertext password item : String}

/-- What is UTF-8 is decoded alike on both platforms. -/
theorem fromUTF8?_eq_some {bytes : Bytes} (h : bytes.toByteArray.IsValidUTF8) :
    String.fromUTF8? bytes.toByteArray = some (decodeUtf8 bytes) := by
  obtain ⟨m, hm⟩ := h
  have hbytes : bytes = encodeUtf8 (String.ofList m) := by
    rw [encodeUtf8, String.toList_ofList]
    exact List.toByteArray_inj.1 hm
  have hvalid : bytes.toByteArray.IsValidUTF8 := ⟨m, hm⟩
  rw [hbytes, decodeUtf8_encodeUtf8, ← hbytes, String.fromUTF8?, dif_pos hvalid]
  refine congrArg some (String.toByteArray_inj.1 ?_)
  rw [String.toByteArray_ofList]
  exact hm

theorem fromUTF8?_eq_none {bytes : Bytes} (h : ¬bytes.toByteArray.IsValidUTF8) :
    String.fromUTF8? bytes.toByteArray = none :=
  dif_neg h

theorem length_EVP_BytesToKey (md5 : Bytes → Vector UInt8 16) (password salt : Bytes) :
    (EVP_BytesToKey md5 password salt).1.length = 32 ∧
      (EVP_BytesToKey md5 password salt).2.length = 16 := by
  have hlength := @length_evpBlocks md5 password salt 3
  simp only [EVP_BytesToKey, List.length_take, List.length_drop, hlength]
  decide

/-! ## iOS -/

/-- The guard lets pass what the cipher can decrypt. -/
theorem Ios.QCCAESPadCBCDecrypt_eq (key iv ciphertext : Bytes) (hkey : key.length = 32)
    (hiv : iv.length = 16) :
    Ios.QCCAESPadCBCDecrypt p key iv ciphertext = p.aesCbc key iv ciphertext := by
  by_cases h : ciphertext.length % 16 = 0
  · exact if_pos ⟨by rw [hkey]; decide, hiv, h⟩
  · rw [p.aesCbc_of_length key iv ciphertext h]
    exact if_neg fun hguard => h hguard.2.2

theorem Ios.decryptWithPassword_of_length {bytes : Bytes}
    (hbytes : p.base64Encoded ciphertext = some bytes) (hlength : 16 ≤ bytes.length) :
    Ios.decryptWithPassword p ciphertext password = .ok (sessionIn p password (some bytes)) := by
  have hsalt : Ios.slice bytes 8 16 = .ok ((bytes.drop 8).take 8) := if_pos ⟨by decide, hlength⟩
  have hrest : Ios.slice bytes 16 bytes.length = .ok (bytes.drop 16) := by
    rw [Ios.slice, if_pos ⟨hlength, Nat.le_refl _⟩, List.take_of_length_le (by simp)]
  have hderive : Ios.deriveKeyIvAndCypher p ciphertext password =
      .ok (EVP_BytesToKey p.md5 (encodeUtf8 password) ((bytes.drop 8).take 8), bytes.drop 16) := by
    rw [Ios.deriveKeyIvAndCypher, hbytes, ← Ios.EvpKDF_eq]
    show (Ios.slice bytes 8 16).bind _ = _
    rw [hsalt]
    show (Ios.slice bytes 16 bytes.length).bind _ = _
    rw [hrest]
    rfl
  obtain ⟨hkey, hiv⟩ := length_EVP_BytesToKey p.md5 (encodeUtf8 password) ((bytes.drop 8).take 8)
  rw [Ios.decryptWithPassword, hderive]
  show Except.ok _ = _
  rw [Ios.QCCAESPadCBCDecrypt_eq _ _ _ hkey hiv, sessionIn, Option.bind_some, if_neg (by omega)]
  rfl

/-- A ciphertext that is not base64 or has no salt ends the app. -/
theorem Ios.decryptWithPassword_traps
    (h : ¬∃ bytes, p.base64Encoded ciphertext = some bytes ∧ 16 ≤ bytes.length) :
    ∃ trap, Ios.decryptWithPassword p ciphertext password = .error trap := by
  cases hdecoded : p.base64Encoded ciphertext with
  | none =>
    refine ⟨.unwrappedNil, ?_⟩
    rw [Ios.decryptWithPassword, Ios.deriveKeyIvAndCypher, hdecoded]
    rfl
  | some bytes =>
    have hshort : ¬16 ≤ bytes.length := fun hlength => h ⟨bytes, hdecoded, hlength⟩
    have hsalt : Ios.slice bytes 8 16 = .error .outOfRange := if_neg fun hin => hshort hin.2
    refine ⟨.outOfRange, ?_⟩
    rw [Ios.decryptWithPassword, Ios.deriveKeyIvAndCypher, hdecoded]
    show ((Ios.slice bytes 8 16).bind _).bind _ = _
    rw [hsalt]
    rfl

theorem Ios.ok_iff :
    Ios.getExistingSessionData p ⟨none, some ciphertext, some password⟩ =
        .ok (sessionIn p password (p.base64Encoded ciphertext)) ↔
      ∃ bytes, p.base64Encoded ciphertext = some bytes ∧ 16 ≤ bytes.length := by
  show Ios.decryptWithPassword p ciphertext password = _ ↔ _
  constructor
  · intro h
    by_contra hunreadable
    obtain ⟨trap, htrap⟩ := @Ios.decryptWithPassword_traps κ p ciphertext password hunreadable
    rw [htrap] at h
    cases h
  · rintro ⟨bytes, hbytes, hlength⟩
    rw [Ios.decryptWithPassword_of_length hbytes hlength, hbytes]

/-! ## Android -/

namespace Android

theorem copyOfRange_of_le {bytes : Bytes} {lower upper : ℕ} (hlower : lower ≤ upper)
    (hupper : upper ≤ bytes.length) :
    copyOfRange bytes lower upper = .ok ((bytes.drop lower).take (upper - lower)) := by
  have hlength : ((bytes.drop lower).take (upper - lower)).length = upper - lower := by
    rw [List.length_take, List.length_drop]
    omega
  rw [copyOfRange, if_neg (by omega), if_neg (by omega), List.rightpad, hlength, Nat.sub_self,
    List.replicate_zero, List.append_nil]

/-- Either range of a ciphertext without a salt is refused. -/
theorem copyOfRange_throws {bytes : Bytes} (h : bytes.length < 16) :
    (∃ e, (e = .illegalArgument ∨ e = .indexOutOfBounds) ∧ copyOfRange bytes 8 16 = .error e) ∨
      (∃ salt, copyOfRange bytes 8 16 = .ok salt) ∧
        copyOfRange bytes 16 bytes.length = .error .illegalArgument := by
  by_cases h8 : bytes.length < 8
  · refine .inl ⟨_, .inr rfl, ?_⟩
    rw [copyOfRange, if_neg (by decide), if_pos h8]
  · refine .inr ⟨⟨((bytes.drop 8).take 8).rightpad 8 0, ?_⟩, if_pos h⟩
    rw [copyOfRange, if_neg (by decide), if_neg h8]

/-- What is done with a ciphertext that is base64. -/
theorem decryptCryptoAES_of_decode {bytes : Bytes} (hbytes : p.base64Decode ciphertext = some bytes) :
    decryptCryptoAES p password ciphertext =
      (copyOfRange bytes 8 16).bind fun salt => (copyOfRange bytes 16 bytes.length).bind fun rest =>
        ((p.aesCbc (EvpKDF p.md5 (encodeUtf8 password) salt).1
          (EvpKDF p.md5 (encodeUtf8 password) salt).2 rest).map decodeUtf8).elim
            (Except.error JavaException.generalSecurity) Except.ok := by
  rw [decryptCryptoAES, decode, hbytes]
  refine congrArg (copyOfRange bytes 8 16).bind (funext fun salt => ?_)
  refine congrArg (copyOfRange bytes 16 bytes.length).bind (funext fun rest => ?_)
  show ((p.aesCbc (EvpKDF p.md5 (encodeUtf8 password) salt).1
    (EvpKDF p.md5 (encodeUtf8 password) salt).2 rest).elim _ _ : Except _ _).bind _ = _
  cases p.aesCbc (EvpKDF p.md5 (encodeUtf8 password) salt).1
    (EvpKDF p.md5 (encodeUtf8 password) salt).2 rest with
  | none => rfl
  | some plain => rfl

theorem decryptCryptoAES_of_length {bytes : Bytes} (hbytes : p.base64Decode ciphertext = some bytes)
    (hlength : 16 ≤ bytes.length) :
    decryptCryptoAES p password ciphertext =
      ((plaintext p password bytes).map decodeUtf8).elim (.error .generalSecurity) .ok := by
  have hsalt : copyOfRange bytes 8 16 = .ok ((bytes.drop 8).take 8) :=
    copyOfRange_of_le (by decide) hlength
  have hrest : copyOfRange bytes 16 bytes.length = .ok (bytes.drop 16) := by
    rw [copyOfRange_of_le hlength (Nat.le_refl _), List.take_of_length_le (by simp)]
  rw [decryptCryptoAES_of_decode hbytes, hsalt, Except.bind, hrest, Except.bind, EvpKDF_eq]
  rfl

/-- No clause catches what is thrown for a ciphertext that is not base64 or has no salt. -/
theorem decryptCryptoAES_throws
    (h : ¬∃ bytes, p.base64Decode ciphertext = some bytes ∧ 16 ≤ bytes.length) :
    ∃ e, (e = .illegalArgument ∨ e = .indexOutOfBounds) ∧
      decryptCryptoAES p password ciphertext = .error e := by
  cases hdecoded : p.base64Decode ciphertext with
  | none =>
    refine ⟨_, .inl rfl, ?_⟩
    rw [decryptCryptoAES, decode, hdecoded]
    rfl
  | some bytes =>
    have hshort : bytes.length < 16 := by
      by_contra hlength
      exact h ⟨bytes, hdecoded, by omega⟩
    rcases copyOfRange_throws hshort with ⟨e, he, hsalt⟩ | ⟨⟨salt, hsalt⟩, hrest⟩
    · refine ⟨e, he, ?_⟩
      rw [decryptCryptoAES_of_decode hdecoded, hsalt]
      rfl
    · refine ⟨_, .inl rfl, ?_⟩
      rw [decryptCryptoAES_of_decode hdecoded, hsalt, Except.bind, hrest]
      rfl

theorem expo_ok_iff (d : LegacyStore κ) :
    getExistingSessionData p
        { d with rnSession := none, expoSession := some ciphertext, expoKey := .ok (some password) } =
        .ok (sessionIn p password (p.base64Decode ciphertext)) ↔
      ∃ bytes, p.base64Decode ciphertext = some bytes ∧ 16 ≤ bytes.length ∧
        ∀ plain, plaintext p password bytes = some plain → plain.toByteArray.IsValidUTF8 := by
  show catching _ ((decryptCryptoAES p password ciphertext).bind fun session => .ok (some session)) =
    _ ↔ _
  constructor
  · intro h
    by_cases hreadable : ∃ bytes, p.base64Decode ciphertext = some bytes ∧ 16 ≤ bytes.length
    · obtain ⟨bytes, hbytes, hlength⟩ := hreadable
      refine ⟨bytes, hbytes, hlength, fun plain hplain => ?_⟩
      by_contra hinvalid
      rw [decryptCryptoAES_of_length hbytes hlength, hbytes, sessionIn, Option.bind_some,
        if_neg (by omega), hplain, Option.bind_some, fromUTF8?_eq_none hinvalid] at h
      cases h
    · obtain ⟨e, rfl | rfl, hthrows⟩ := @decryptCryptoAES_throws κ p ciphertext password hreadable
      · rw [hthrows] at h
        cases h
      · rw [hthrows] at h
        cases h
  · rintro ⟨bytes, hbytes, hlength, hvalid⟩
    rw [decryptCryptoAES_of_length hbytes hlength, hbytes, sessionIn, Option.bind_some,
      if_neg (by omega)]
    cases hplain : plaintext p password bytes with
    | none => rfl
    | some plain =>
      rw [Option.bind_some, fromUTF8?_eq_some (hvalid plain hplain)]
      rfl

/-- What is done with an item that is base64, when the key is there. -/
theorem decryptRNSession_of_decode {bytes : Bytes} (key : κ)
    (hbytes : p.base64Decode item = some bytes) :
    decryptRNSession p item (some key) = (readIv bytes).bind fun iv =>
      ((p.keychainCipher key iv (bytes.drop IV_LENGTH)).map decodeUtf8).elim
        (Except.error JavaException.generalSecurity) fun session =>
          if p.newJSONObject session then Except.ok (some session) else .error .json := by
  rw [decryptRNSession, Option.elim_some]
  show (decryptRNItemWithKey p item key).bind _ = _
  rw [decryptRNItemWithKey, decode, hbytes]
  show ((readIv bytes).bind _).bind _ = _
  cases readIv bytes with
  | error e => rfl
  | ok iv =>
    show (((p.keychainCipher key iv _).elim _ _ : Except _ _).bind _).bind _ = _
    rw [Except.bind]
    cases p.keychainCipher key iv (bytes.drop IV_LENGTH) with
    | none => rfl
    | some plain => rfl

theorem decryptRNSession_of_length {bytes : Bytes} (key : κ)
    (hbytes : p.base64Decode item = some bytes) (hlength : 16 < bytes.length) :
    (∃ session, decryptRNSession p item (some key) = .ok session) ∨
      ∃ e, (e = .generalSecurity ∨ e = .json) ∧ decryptRNSession p item (some key) = .error e := by
  have hiv : readIv bytes = .ok (bytes.take IV_LENGTH) := by
    have hlong : ¬IV_LENGTH ≥ bytes.length := Nat.not_le.2 hlength
    rw [readIv, if_neg hlong, arraycopy_replicate]
  rw [decryptRNSession_of_decode key hbytes, hiv, Except.bind]
  cases p.keychainCipher key (bytes.take IV_LENGTH) (bytes.drop IV_LENGTH) with
  | none => exact .inr ⟨_, .inl rfl, rfl⟩
  | some plain =>
    rw [Option.map_some, Option.elim_some]
    split_ifs
    · exact .inl ⟨_, rfl⟩
    · exact .inr ⟨_, .inr rfl, rfl⟩

/-- No clause catches what is thrown for a missing key or an item that has nothing after the
initialisation vector. -/
theorem decryptRNSession_throws {rnKey : Option κ}
    (h : ¬∃ key bytes, rnKey = some key ∧ p.base64Decode item = some bytes ∧ 16 < bytes.length) :
    ∃ e, (e = .nullPointer ∨ e = .illegalArgument ∨ e = .io) ∧
      decryptRNSession p item rnKey = .error e := by
  cases rnKey with
  | none => exact ⟨_, .inl rfl, rfl⟩
  | some key =>
    cases hdecoded : p.base64Decode item with
    | none =>
      refine ⟨_, .inr (.inl rfl), ?_⟩
      rw [decryptRNSession, Option.elim_some]
      show (decryptRNItemWithKey p item key).bind _ = _
      rw [decryptRNItemWithKey, decode, hdecoded]
      rfl
    | some bytes =>
      have hshort : bytes.length ≤ IV_LENGTH := by
        by_contra hlength
        exact h ⟨key, bytes, rfl, hdecoded, Nat.not_le.1 hlength⟩
      have hiv : readIv bytes = .error .io := if_pos hshort
      refine ⟨_, .inr (.inr rfl), ?_⟩
      rw [decryptRNSession_of_decode key hdecoded, hiv]
      rfl

theorem keychain_ok_iff (d : LegacyStore κ) :
    (∃ session, getExistingSessionData p { d with rnSession := some item } = .ok session) ↔
      d.rnKey = .error .unrecoverableKey ∨ ∃ key bytes,
        d.rnKey = .ok (some key) ∧ p.base64Decode item = some bytes ∧ 16 < bytes.length := by
  rw [getExistingSessionData]
  unfold maybeGetExistingRNSession
  dsimp only
  cases hkey : d.rnKey with
  | error e =>
    cases e with
    | unrecoverableKey => simp
    | _ => simp
  | ok rnKey =>
    dsimp only
    by_cases hreadable : ∃ key bytes,
        rnKey = some key ∧ p.base64Decode item = some bytes ∧ 16 < bytes.length
    · obtain ⟨key, bytes, rfl, hbytes, hlength⟩ := hreadable
      refine iff_of_true ?_ (.inr ⟨key, bytes, rfl, hbytes, hlength⟩)
      rcases decryptRNSession_of_length key hbytes hlength with
        ⟨session, hsession⟩ | ⟨e, rfl | rfl, hthrows⟩
      · exact ⟨session, by rw [hsession]; rfl⟩
      · exact ⟨none, by rw [hthrows]; rfl⟩
      · exact ⟨none, by rw [hthrows]; rfl⟩
    · have hnot : ¬(Except.ok rnKey = (Except.error .unrecoverableKey : Except JavaException _) ∨
          ∃ key bytes, Except.ok rnKey = (Except.ok (some key) : Except JavaException _) ∧
            p.base64Decode item = some bytes ∧ 16 < bytes.length) := by
        rintro (h | ⟨key, bytes, hok, hrest⟩)
        · cases h
        · cases hok
          exact hreadable ⟨key, bytes, rfl, hrest⟩
      refine iff_of_false ?_ hnot
      rintro ⟨session, hsession⟩
      obtain ⟨e, rfl | rfl | rfl, hthrows⟩ := decryptRNSession_throws hreadable
      · rw [hthrows] at hsession
        cases hsession
      · rw [hthrows] at hsession
        cases hsession
      · rw [hthrows] at hsession
        cases hsession

end Android

/-- The migration goes through exactly for what is readable. -/
theorem migrates_iff (p : Primitives κ) (ciphertext password item : String)
    (d : Android.LegacyStore κ) :
    Migrates p ciphertext password item d ↔ Readable p ciphertext password item d := by
  constructor
  · intro h
    exact ⟨Ios.ok_iff.1 h.ios, (Android.expo_ok_iff d).1 h.android,
      (Android.keychain_ok_iff d).1 h.keychain⟩
  · intro h
    exact ⟨fun _ _ => ⟨Ios.EvpKDF_eq, Android.EvpKDF_eq⟩, Ios.ok_iff.2 h.ios,
      (Android.expo_ok_iff d).2 h.android, (Android.keychain_ok_iff d).2 h.keychain⟩

end Migration

/-- Strict decoders, and ciphers that reject everything. -/
def strictDecoders : Primitives Unit where
  md5 _ := Vector.replicate 16 0
  aesCbc _ _ _ := none
  aesCbc_of_length _ _ _ _ := rfl
  keychainCipher _ _ _ := none
  base64Encoded text := Base64.decode text.toList
  base64Decode text := Base64.decode text.toList
  jsonObject _ := false
  newJSONObject _ := false

/-- A session that was stored as it is ends the app before anything is derived from it. -/
theorem migration_of_plain_session :
    ¬Migrates strictDecoders "{}" "password" "" ⟨none, none, .error .unrecoverableKey, .ok none⟩ := by
  intro h
  obtain ⟨bytes, hbytes, -⟩ := Ios.ok_iff.1 h.ios
  have hnone : strictDecoders.base64Encoded "{}" = none := by decide
  rw [hnone] at hbytes
  cases hbytes

end StytchBrowser.ReactNative
