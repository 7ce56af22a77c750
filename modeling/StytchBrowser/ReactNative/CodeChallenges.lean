import Mathlib.Algebra.Order.Floor.Div
import Mathlib.Data.List.DropRight
import StytchBrowser.Lib.Base64
import StytchBrowser.ReactNative.CodeVerifiers

/-!
# The code challenges of the three platforms

A code challenge is the SHA-256 digest of the verifier in the URL-safe base64 without padding. Every
platform has its own encoder, which changes the text that the base64 of the platform gives. The
Android module first writes the digest, whose bytes are signed, in hexadecimal and reads it back.

`urlSafe` is what the three of them compute (`base64URLEncode_eq`, `base64UrlEncoded_eq`,
`convertToBase64UrlEncoded_hexOf`).
-/

namespace StytchBrowser

open Base64

/-- The UTF-8 of a text. -/
def utf8 (l : List Char) : List UInt8 := l.flatMap String.utf8EncodeChar

/-- What a character becomes when `c` is replaced by `d`. -/
def replaced (c d x : Char) : Char := if x = c then d else x

/-- Replace every occurrence of a character. -/
def replaceChar (c d : Char) (l : List Char) : List Char := l.map (replaced c d)

/-- Replace every occurrence of a character by the empty string. -/
def removeChar (c : Char) (l : List Char) : List Char := l.filter (· ≠ c)

namespace Web

/-- `base64URLEncode`. Only the `=` at the end are dropped. -/
def base64URLEncode (buf : List UInt8) : List Char :=
  (replaceChar '/' '_' (replaceChar '+' '-' (encode buf))).rdropWhile (· = '=')

end Web

namespace ReactNative

namespace Ios

/-- `base64UrlEncoded()`. -/
def base64UrlEncoded (data : List UInt8) : List Char :=
  removeChar '=' (replaceChar '/' '_' (replaceChar '+' '-' (encode data)))

/-- The loop of `init?(base64UrlEncoded:)`. -/
def appendPadding (base64 : List Char) : List Char :=
  if base64.length % 4 = 0 then base64 else appendPadding (base64 ++ ['='])
termination_by (4 - base64.length % 4) % 4
decreasing_by
  rw [List.length_append, List.length_singleton]
  omega

/-- `init?(base64UrlEncoded:)`. -/
def dataOfBase64UrlEncoded (base64UrlEncoded : List Char) : Option (List UInt8) :=
  decode (appendPadding (replaceChar '_' '/' (replaceChar '-' '+' base64UrlEncoded)))

end Ios

namespace Android

/-- `"%02x".format(byte)`, which adds 256 to a negative byte. -/
def formatByte (byte : Int8) : List Char :=
  Digits.padded 16 2 (if byte.toInt < 0 then byte.toInt + 2 ^ 8 else byte.toInt).toNat

/-- The `fold` of `getSha256`. -/
def hexOf (digest : List Int8) : List Char := digest.foldl (fun str byte => str ++ formatByte byte) []

def getSha256 (sha256 : List UInt8 → List UInt8) (hexString : List Char) : List Char :=
  hexOf ((sha256 (utf8 hexString)).map UInt8.toInt8)

/-- `chunked(2)`. -/
def chunked : List Char → List (List Char)
  | [] => []
  | [c] => [[c]]
  | c :: d :: l => [c, d] :: chunked l

/-- A hexadecimal digit, of either case. -/
def digit (c : Char) : Option ℕ :=
  if '0' ≤ c ∧ c ≤ '9' then some (c.toNat - 48)
  else if 'a' ≤ c ∧ c ≤ 'f' then some (c.toNat - 97 + 10)
  else if 'A' ≤ c ∧ c ≤ 'F' then some (c.toNat - 65 + 10)
  else none

/-- The value of the digits after the sign, at least one. -/
def magnitude (l : List Char) : Option ℤ :=
  if l = [] then none else l.foldlM (fun n c => (digit c).map fun d : ℕ => 16 * n + d) 0

/-- `toInt(HEX_RADIX)`, `none` when it throws. -/
def toInt : List Char → Option ℤ
  | '-' :: l => (magnitude l).map fun n => -n
  | '+' :: l => magnitude l
  | l => magnitude l

/-- `hexStringToByteArray()`, where `toByte()` keeps the low eight bits. -/
def hexStringToByteArray (hex : List Char) : Option (List Int8) :=
  (chunked hex).mapM fun s => (toInt s).map Int8.ofInt

/-- `convertToBase64UrlEncoded`, `none` when a number cannot be read. -/
def convertToBase64UrlEncoded (value : List Char) : Option (List Char) :=
  (hexStringToByteArray value).map fun bytes =>
    removeChar '='
      (replaceChar '/' '_' (replaceChar '+' '-' (encode (bytes.map Int8.toUInt8))))

def encryptCodeChallenge (sha256 : List UInt8 → List UInt8) (codeChallenge : List Char) :
    Option (List Char) :=
  convertToBase64UrlEncoded (getSha256 sha256 codeChallenge)

end Android

/-- The challenge a platform makes of a verifier, `none` when it throws. -/
def Platform.codeChallenge (sha256 : List UInt8 → List UInt8) (codeVerifier : List Char) :
    Platform → Option (List Char)
  | .web => some (Web.base64URLEncode (sha256 (utf8 codeVerifier)))
  | .ios => some (Ios.base64UrlEncoded (sha256 (utf8 codeVerifier)))
  | .android => Android.encryptCodeChallenge sha256 codeVerifier

/-- The characters of the URL-safe alphabet. -/
def isUrlSafe (c : Char) : Bool := c.isAlphanum || c = '-' || c = '_'

/-- All encoders write the bytes as the text, which has no padding and is decoded to them. -/
structure EncodedAs (digest : List UInt8) (text : List Char) : Prop where
  web : Web.base64URLEncode digest = text
  ios : Ios.base64UrlEncoded digest = text
  android : Android.convertToBase64UrlEncoded (Android.hexOf (digest.map UInt8.toInt8)) = some text
  alphabet : ∀ c ∈ text, isUrlSafe c = true
  noPadding : '=' ∉ text
  length : text.length = 4 * digest.length ⌈/⌉ 3
  decoded : Ios.dataOfBase64UrlEncoded text = some digest

/-! ## The text without padding -/

/-- The URL-safe base64 without padding. -/
def urlSafe (bytes : List UInt8) : List Char :=
  replaceChar '/' '_' (replaceChar '+' '-' (unpadded bytes))

theorem isUrlSafe_char : ∀ n < 64,
    isUrlSafe (replaced '/' '_' (replaced '+' '-' (char n))) = true := by decide

theorem isUrlSafe_of_mem {bytes : List UInt8} {c : Char} (h : c ∈ urlSafe bytes) :
    isUrlSafe c = true := by
  simp only [urlSafe, replaceChar, List.mem_map] at h
  obtain ⟨_, ⟨_, hx, rfl⟩, rfl⟩ := h
  obtain ⟨n, hn, rfl⟩ := exists_of_mem_unpadded hx
  exact isUrlSafe_char n hn

theorem length_urlSafe (bytes : List UInt8) :
    (urlSafe bytes).length = (4 * bytes.length + 2) / 3 := by
  rw [urlSafe, replaceChar, List.length_map, replaceChar, List.length_map, length_unpadded]

/-- Changing the alphabet leaves the padding at the end. -/
theorem replaceChar_encode (bytes : List UInt8) :
    replaceChar '/' '_' (replaceChar '+' '-' (encode bytes)) =
      urlSafe bytes ++ List.replicate (padding bytes.length) '=' := by
  rw [encode_eq, replaceChar, replaceChar, List.map_append, List.map_append, List.map_replicate,
    List.map_replicate]
  rfl

theorem removeChar_append_replicate {l : List Char} (h : ∀ c ∈ l, isUrlSafe c = true) (k : ℕ) :
    removeChar '=' (l ++ List.replicate k '=') = l := by
  rw [removeChar, List.filter_append, List.filter_replicate, List.filter_eq_self.2]
  · simp
  · intro c hc
    have hne : c ≠ '=' := by
      rintro rfl
      exact absurd (h _ hc) (by decide)
    simpa using hne

theorem rdropWhile_append_replicate {l : List Char} (h : ∀ c ∈ l, isUrlSafe c = true) (k : ℕ) :
    (l ++ List.replicate k '=').rdropWhile (· = '=') = l := by
  induction k with
  | zero =>
    rw [List.replicate_zero, List.append_nil, List.rdropWhile_eq_self_iff]
    intro hl hlast
    have hsafe := h _ (List.getLast_mem hl)
    rw [of_decide_eq_true hlast] at hsafe
    exact absurd hsafe (by decide)
  | succ k ih =>
    rw [List.replicate_succ', ← List.append_assoc, List.rdropWhile_concat_pos _ _ _ rfl, ih]

theorem Web.base64URLEncode_eq (buf : List UInt8) : Web.base64URLEncode buf = urlSafe buf := by
  rw [Web.base64URLEncode, replaceChar_encode]
  exact rdropWhile_append_replicate (fun _ => isUrlSafe_of_mem) _

theorem Ios.base64UrlEncoded_eq (data : List UInt8) : Ios.base64UrlEncoded data = urlSafe data := by
  rw [Ios.base64UrlEncoded, replaceChar_encode]
  exact removeChar_append_replicate (fun _ => isUrlSafe_of_mem) _

/-! ## Decoding on iOS -/

theorem Ios.appendPadding_eq (base64 : List Char) :
    Ios.appendPadding base64 =
      base64 ++ List.replicate ((4 - base64.length % 4) % 4) '=' := by
  fun_induction Ios.appendPadding base64 with
  | case1 base64 h => simp [h]
  | case2 base64 h ih =>
    rw [ih, List.append_assoc, List.length_append, List.length_singleton]
    have hcount : (4 - base64.length % 4) % 4 = (4 - (base64.length + 1) % 4) % 4 + 1 := by omega
    rw [hcount, List.replicate_succ, List.singleton_append]

theorem replaced_char : ∀ n < 64,
    replaced '_' '/' (replaced '-' '+' (replaced '/' '_' (replaced '+' '-' (char n)))) = char n := by
  decide

/-- The two alphabets differ in characters that the other does not have. -/
theorem replaceChar_urlSafe (bytes : List UInt8) :
    replaceChar '_' '/' (replaceChar '-' '+' (urlSafe bytes)) = unpadded bytes := by
  simp only [urlSafe, replaceChar, List.map_map]
  refine (List.map_congr_left fun c hc => ?_).trans (List.map_id _)
  obtain ⟨n, hn, rfl⟩ := exists_of_mem_unpadded hc
  simp only [Function.comp_apply, id_eq]
  exact replaced_char n hn

/-- The padding is what the length lacks to a multiple of four. -/
theorem padding_eq (n : ℕ) : (4 - (4 * n + 2) / 3 % 4) % 4 = padding n := by
  have hlen : (4 * n + 2) / 3 = 4 * (n / 3) + (4 * (n % 3) + 2) / 3 := by omega
  have hmod : n % 3 = 0 ∨ n % 3 = 1 ∨ n % 3 = 2 := by omega
  rw [hlen, padding]
  rcases hmod with h | h | h
  · rw [h]
    omega
  · rw [h]
    omega
  · rw [h]
    omega

theorem Ios.dataOfBase64UrlEncoded_urlSafe (bytes : List UInt8) :
    Ios.dataOfBase64UrlEncoded (urlSafe bytes) = some bytes := by
  have hcount : (4 - (unpadded bytes).length % 4) % 4 = padding bytes.length := by
    rw [length_unpadded, padding_eq]
  rw [Ios.dataOfBase64UrlEncoded, replaceChar_urlSafe, Ios.appendPadding_eq, hcount, ← encode_eq,
    decode_encode]

/-! ## The hexadecimal digest on Android -/

namespace Android

/-- A byte is written with its unsigned value. -/
theorem toNat_unsigned (b : UInt8) :
    (if b.toInt8.toInt < 0 then b.toInt8.toInt + 2 ^ 8 else b.toInt8.toInt).toNat = b.toNat := by
  have hb := b.toNat_lt
  have hint : b.toInt8.toInt = if 2 * b.toNat < 2 ^ 8 then (b.toNat : ℤ) else b.toNat - 2 ^ 8 := by
    rfl
  rw [hint]
  split_ifs <;> omega

/-- The two digits of a byte. -/
theorem formatByte_eq (b : UInt8) :
    formatByte b.toInt8 = [Nat.digitChar (b.toNat / 16), Nat.digitChar (b.toNat % 16)] := by
  have hb := b.toNat_lt
  rw [formatByte, toNat_unsigned, Digits.padded]
  by_cases hlt : b.toNat < 16
  · rw [Nat.toDigits_of_lt_base hlt, Nat.div_eq_of_lt hlt, Nat.mod_eq_of_lt hlt]
    rfl
  · rw [Nat.toDigits_of_base_le (by decide) (by omega), Nat.toDigits_of_lt_base (by omega)]
    rfl

theorem toInt_digits : ∀ m < 16, ∀ n < 16,
    toInt [Nat.digitChar m, Nat.digitChar n] = some (16 * m + n : ℤ) := by decide

theorem toInt_formatByte (b : UInt8) : toInt (formatByte b.toInt8) = some (b.toNat : ℤ) := by
  have hb := b.toNat_lt
  rw [formatByte_eq, toInt_digits _ (by omega) _ (by omega)]
  congr 1
  omega

theorem hexOf_append (s : List Char) (digest : List Int8) :
    digest.foldl (fun str byte => str ++ formatByte byte) s = s ++ hexOf digest := by
  induction digest generalizing s with
  | nil => simp [hexOf]
  | cons byte digest ih =>
    rw [hexOf, List.foldl_cons, List.foldl_cons, ih, ih (_ ++ _), List.nil_append,
      List.append_assoc]

theorem hexOf_cons (byte : Int8) (digest : List Int8) :
    hexOf (byte :: digest) = formatByte byte ++ hexOf digest := by
  rw [hexOf, List.foldl_cons, hexOf_append, List.nil_append]

/-- The bytes that are read keep the low eight bits of what was written. -/
theorem hexStringToByteArray_hexOf (bytes : List UInt8) :
    hexStringToByteArray (hexOf (bytes.map UInt8.toInt8)) = some (bytes.map UInt8.toInt8) := by
  induction bytes with
  | nil => rfl
  | cons b bytes ih =>
    have hbyte : Int8.ofInt b.toNat = b.toInt8 := by
      rw [Int8.ofInt_eq_ofNat, ← UInt8.toInt8_ofNat', UInt8.ofNat_toNat]
    have hread := toInt_formatByte b
    rw [formatByte_eq] at hread
    rw [hexStringToByteArray] at ih
    rw [List.map_cons, hexOf_cons, formatByte_eq, hexStringToByteArray, List.cons_append,
      List.cons_append, List.nil_append, chunked, List.mapM_cons, hread, Option.map_some, hbyte, ih]
    rfl

theorem convertToBase64UrlEncoded_hexOf (bytes : List UInt8) :
    convertToBase64UrlEncoded (hexOf (bytes.map UInt8.toInt8)) = some (urlSafe bytes) := by
  have hbytes : (bytes.map UInt8.toInt8).map Int8.toUInt8 = bytes := by
    rw [List.map_map]
    exact List.map_id _
  rw [convertToBase64UrlEncoded, hexStringToByteArray_hexOf, Option.map_some, hbytes,
    replaceChar_encode, removeChar_append_replicate (fun _ => isUrlSafe_of_mem)]

end Android

/-! ## The encoders agree -/

theorem encodedAs_urlSafe (digest : List UInt8) : EncodedAs digest (urlSafe digest) where
  web := Web.base64URLEncode_eq digest
  ios := Ios.base64UrlEncoded_eq digest
  android := Android.convertToBase64UrlEncoded_hexOf digest
  alphabet _ := isUrlSafe_of_mem
  noPadding h := absurd (isUrlSafe_of_mem h) (by decide)
  length := by
    rw [length_urlSafe, Nat.ceilDiv_eq_add_pred_div]
    rfl
  decoded := Ios.dataOfBase64UrlEncoded_urlSafe digest

theorem codeChallenge_eq (sha256 : List UInt8 → List UInt8) (codeVerifier : List Char)
    (p : Platform) :
    p.codeChallenge sha256 codeVerifier = some (urlSafe (sha256 (utf8 codeVerifier))) := by
  cases p with
  | web => exact congrArg some (Web.base64URLEncode_eq _)
  | ios => exact congrArg some (Ios.base64UrlEncoded_eq _)
  | android => exact Android.convertToBase64UrlEncoded_hexOf _

end ReactNative

end StytchBrowser
