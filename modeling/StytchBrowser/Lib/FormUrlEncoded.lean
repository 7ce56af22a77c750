import Mathlib.Data.List.Basic
import Mathlib.Data.Nat.Notation

/-!
# Query strings

The `application/x-www-form-urlencoded` format of the URL standard. A query is a list of bytes (a
serialized URL is an ASCII string), a name or a value is a string.

* `serialize` writes a list of pairs and `parse` reads one, with the decoders of the standard: `+`
  is read as a space before the percent-decoding, and a byte sequence that is not UTF-8 is replaced
  by U+FFFD, a maximal ill-formed prefix at a time;
* a list of pairs comes back from its serialization (`parse_serialize`), whatever characters the
  names and the values have, because the encoded texts contain neither of the two separators
  (`Safe`).
-/

namespace FormUrlEncoded

abbrev Bytes := List UInt8

/-! ### Bytes as texts -/

def hexDigit (n : ℕ) : UInt8 := if n < 10 then UInt8.ofNat (0x30 + n) else UInt8.ofNat (0x37 + n)

def hexValue (b : UInt8) : Option ℕ :=
  if 0x30 ≤ b ∧ b ≤ 0x39 then some (b.toNat - 0x30)
  else if 0x41 ≤ b ∧ b ≤ 0x46 then some (b.toNat - 0x37)
  else if 0x61 ≤ b ∧ b ≤ 0x66 then some (b.toNat - 0x57)
  else none

/-- The bytes that stand for themselves: letters, digits and `*-._`. -/
def unreserved (b : UInt8) : Bool :=
  (0x30 ≤ b && b ≤ 0x39) || (0x41 ≤ b && b ≤ 0x5A) || (0x61 ≤ b && b ≤ 0x7A) ||
    b == 0x2A || b == 0x2D || b == 0x2E || b == 0x5F

/-- A space is written `+`, any other reserved byte `%XX`. -/
def encodeByte (b : UInt8) : Bytes :=
  if b = 0x20 then [0x2B]
  else if unreserved b then [b]
  else [0x25, hexDigit (b.toNat / 16), hexDigit (b.toNat % 16)]

def plusToSpace (b : UInt8) : UInt8 := if b = 0x2B then 0x20 else b

/-- A `%` that two hexadecimal digits do not follow stays. -/
def percentDecode : Bytes → Bytes
  | 0x25 :: h :: l :: rest =>
    match hexValue h, hexValue l with
    | some h, some l => UInt8.ofNat (16 * h + l) :: percentDecode rest
    | _, _ => 0x25 :: percentDecode (h :: l :: rest)
  | b :: rest => b :: percentDecode rest
  | [] => []

theorem hexValue_hexDigit : ∀ n < 16, hexValue (hexDigit n) = some n := by decide

theorem hexDigit_unreserved : ∀ n < 16, unreserved (hexDigit n) = true := by decide

theorem percentDecode_cons {b : UInt8} (hb : b ≠ 0x25) (rest : Bytes) :
    percentDecode (b :: rest) = b :: percentDecode rest := by
  rw [percentDecode]
  intro h l rest' he
  exact absurd he hb

theorem percentDecode_hexDigits {m n : ℕ} (hm : m < 16) (hn : n < 16) (rest : Bytes) :
    percentDecode (0x25 :: hexDigit m :: hexDigit n :: rest) =
      UInt8.ofNat (16 * m + n) :: percentDecode rest := by
  rw [percentDecode, hexValue_hexDigit m hm, hexValue_hexDigit n hn]

theorem unreserved_ne {b c : UInt8} (hb : unreserved b = true) (hc : unreserved c = false) : b ≠ c := by
  rintro rfl
  rw [hb] at hc
  exact absurd hc (by decide)

theorem plusToSpace_unreserved {b : UInt8} (hb : unreserved b = true) : plusToSpace b = b :=
  if_neg (unreserved_ne hb (by decide))

/-- The two hexadecimal digits of a byte. -/
theorem digits_lt (b : UInt8) : b.toNat / 16 < 16 ∧ b.toNat % 16 < 16 := by
  have := b.toNat_lt
  omega

/-- The encoded form of a byte is read back as the byte. -/
theorem percentDecode_encodeByte (b : UInt8) (rest : Bytes) :
    percentDecode ((encodeByte b ++ rest).map plusToSpace) =
      b :: percentDecode (rest.map plusToSpace) := by
  rw [List.map_append, encodeByte]
  split_ifs with hs hu
  · rw [hs]
    exact percentDecode_cons (by decide) _
  · rw [List.map_singleton, plusToSpace_unreserved hu]
    exact percentDecode_cons (unreserved_ne hu (by decide)) _
  · obtain ⟨hm, hn⟩ := digits_lt b
    rw [List.map_cons, List.map_cons, List.map_singleton,
      plusToSpace_unreserved (hexDigit_unreserved _ hm),
      plusToSpace_unreserved (hexDigit_unreserved _ hn)]
    show percentDecode (0x25 :: hexDigit _ :: hexDigit _ :: _) = _
    rw [percentDecode_hexDigits hm hn, Nat.div_add_mod, UInt8.ofNat_toNat]
    rfl

theorem percentDecode_encodeBytes (bytes : Bytes) :
    percentDecode ((bytes.flatMap encodeByte).map plusToSpace) = bytes := by
  induction bytes with
  | nil => rfl
  | cons b bytes ih => rw [List.flatMap_cons, percentDecode_encodeByte, ih]

/-- A byte that an encoded text can contain. -/
def Safe (b : UInt8) : Prop := unreserved b = true ∨ b = 0x2B ∨ b = 0x25

theorem safe_of_mem_encodeByte {b c : UInt8} (h : c ∈ encodeByte b) : Safe c := by
  rw [encodeByte] at h
  split_ifs at h with hs hu
  · exact Or.inr (Or.inl (List.mem_singleton.1 h))
  · rw [List.mem_singleton.1 h]
    exact Or.inl hu
  · obtain ⟨hm, hn⟩ := digits_lt b
    rcases List.mem_cons.1 h with rfl | h
    · exact Or.inr (Or.inr rfl)
    · rcases List.mem_cons.1 h with rfl | h
      · exact Or.inl (hexDigit_unreserved _ hm)
      · rw [List.mem_singleton.1 h]
        exact Or.inl (hexDigit_unreserved _ hn)

theorem Safe.ne {b c : UInt8} (hb : Safe b) (hc : unreserved c = false) (h₁ : c ≠ 0x2B) (h₂ : c ≠ 0x25) :
    b ≠ c := by
  rcases hb with hb | rfl | rfl
  · exact unreserved_ne hb hc
  · exact h₁.symm
  · exact h₂.symm

/-! ### UTF-8 -/

/-- The bytes that can follow the first byte of a sequence of three or four bytes. -/
def secondByteRange (b : UInt8) : Option (UInt8 × UInt8) :=
  if b = 0xE0 then some (0xA0, 0xBF)
  else if b = 0xED then some (0x80, 0x9F)
  else if b = 0xF0 then some (0x90, 0xBF)
  else if b = 0xF4 then some (0x80, 0x8F)
  else if 0xE1 ≤ b ∧ b ≤ 0xF3 then some (0x80, 0xBF)
  else none

/-- The number of bytes that one U+FFFD replaces, where no character is encoded: the longest
beginning of a character, or one byte. -/
def maximalSubpart : Bytes → ℕ
  | b₀ :: b₁ :: rest =>
    match secondByteRange b₀ with
    | none => 1
    | some (lower, upper) =>
      if b₁ < lower ∨ upper < b₁ then 1
      else if 0xF0 ≤ b₀ ∧ rest.head?.any (fun b => 0x80 ≤ b && b ≤ 0xBF) then 3
      else 2
  | _ => 1

/-- The first character of the bytes and the number of bytes it takes. -/
def decodeHead (bytes : Bytes) : Char × ℕ :=
  match bytes.toByteArray.utf8DecodeChar? 0 with
  | some c => (c, c.utf8Size)
  | none => ('\uFFFD', maximalSubpart bytes)

/-- The characters of the bytes after the first `skip` ones. -/
def decodeUtf8From : ℕ → Bytes → List Char
  | skip + 1, _ :: bytes => decodeUtf8From skip bytes
  | 0, b :: bytes => (decodeHead (b :: bytes)).1 :: decodeUtf8From ((decodeHead (b :: bytes)).2 - 1) bytes
  | _, [] => []

def encodeUtf8 (s : String) : Bytes := s.toList.flatMap String.utf8EncodeChar

def decodeUtf8 (bytes : Bytes) : String := String.ofList (decodeUtf8From 0 bytes)

theorem decodeHead_encodeChar (c : Char) (rest : Bytes) :
    decodeHead (String.utf8EncodeChar c ++ rest) = (c, c.utf8Size) := by
  rw [decodeHead, List.toByteArray_append, ByteArray.utf8DecodeChar?_utf8EncodeChar_append]

theorem decodeUtf8From_append (skipped rest : Bytes) :
    decodeUtf8From skipped.length (skipped ++ rest) = decodeUtf8From 0 rest := by
  induction skipped with
  | nil => rfl
  | cons b skipped ih => exact ih

theorem decodeUtf8From_encodeChar (c : Char) (rest : Bytes) :
    decodeUtf8From 0 (String.utf8EncodeChar c ++ rest) = c :: decodeUtf8From 0 rest := by
  have hhead := decodeHead_encodeChar c rest
  have hlen := String.length_utf8EncodeChar c
  cases he : String.utf8EncodeChar c with
  | nil =>
    rw [he] at hlen
    exact absurd hlen (Nat.ne_of_lt c.utf8Size_pos)
  | cons b tail =>
    rw [he] at hhead hlen
    rw [List.cons_append] at hhead ⊢
    rw [decodeUtf8From, hhead, ← hlen]
    exact congrArg _ (decodeUtf8From_append tail rest)

theorem decodeUtf8_encodeUtf8 (s : String) : decodeUtf8 (encodeUtf8 s) = s := by
  have h : ∀ l : List Char, decodeUtf8From 0 (l.flatMap String.utf8EncodeChar) = l := by
    intro l
    induction l with
    | nil => rfl
    | cons c l ih => rw [List.flatMap_cons, decodeUtf8From_encodeChar, ih]
  rw [decodeUtf8, encodeUtf8, h, String.ofList_toList]

/-! ### Names and values -/

def encode (s : String) : Bytes := (encodeUtf8 s).flatMap encodeByte

def decode (bytes : Bytes) : String := decodeUtf8 (percentDecode (bytes.map plusToSpace))

theorem decode_encode (s : String) : decode (encode s) = s := by
  rw [decode, encode, percentDecode_encodeBytes, decodeUtf8_encodeUtf8]

theorem safe_of_mem_encode {s : String} {c : UInt8} (h : c ∈ encode s) : Safe c := by
  obtain ⟨b, -, hc⟩ := List.mem_flatMap.1 h
  exact safe_of_mem_encodeByte hc

/-! ### Lists of pairs -/

/-- `name=value`. -/
def encodePair (p : String × String) : Bytes := encode p.1 ++ 0x3D :: encode p.2

/-- A piece without `=` is a name with an empty value. -/
def decodePair (piece : Bytes) : String × String :=
  (decode (piece.takeWhile (· != 0x3D)), decode ((piece.dropWhile (· != 0x3D)).drop 1))

/-- The pairs with a `&` between any two. -/
def serialize (l : List (String × String)) : Bytes := [0x26].intercalate (l.map encodePair)

/-- Empty pieces between two `&` are left out. -/
def parse (query : Bytes) : List (String × String) :=
  ((query.splitOn 0x26).filter (· != [])).map decodePair

theorem decodePair_encodePair (p : String × String) : decodePair (encodePair p) = p := by
  have h : ∀ c ∈ encode p.1, (c != 0x3D) = true := fun c hc =>
    bne_iff_ne.2 ((safe_of_mem_encode hc).ne (by decide) (by decide) (by decide))
  rw [decodePair, encodePair, List.takeWhile_append_of_pos h, List.dropWhile_append_of_pos h]
  show (decode (encode p.1 ++ []), decode (encode p.2)) = p
  rw [List.append_nil, decode_encode, decode_encode]

theorem mem_encodePair {p : String × String} {c : UInt8} (h : c ∈ encodePair p) :
    Safe c ∨ c = 0x3D := by
  rcases List.mem_append.1 h with h | h
  · exact Or.inl (safe_of_mem_encode h)
  · rcases List.mem_cons.1 h with rfl | h
    · exact Or.inr rfl
    · exact Or.inl (safe_of_mem_encode h)

theorem amp_notMem_encodePair (p : String × String) : (0x26 : UInt8) ∉ encodePair p := by
  intro h
  rcases mem_encodePair h with hs | he
  · exact hs.ne (by decide) (by decide) (by decide) rfl
  · exact absurd he (by decide)

theorem encodePair_ne_nil (p : String × String) : encodePair p ≠ [] :=
  List.append_ne_nil_of_right_ne_nil _ (List.cons_ne_nil _ _)

theorem mem_serialize {l : List (String × String)} {c : UInt8} (h : c ∈ serialize l) :
    Safe c ∨ c = 0x3D ∨ c = 0x26 := by
  induction l with
  | nil => exact absurd h List.not_mem_nil
  | cons p l ih =>
    cases l with
    | nil =>
      rw [serialize, List.map_singleton, List.intercalate_singleton] at h
      exact (mem_encodePair h).imp_right Or.inl
    | cons q l =>
      rw [serialize, List.map_cons, List.map_cons, List.intercalate_cons_cons] at h
      rcases List.mem_append.1 h with h | h
      · rcases List.mem_append.1 h with h | h
        · exact (mem_encodePair h).imp_right Or.inl
        · exact Or.inr (Or.inr (List.mem_singleton.1 h))
      · exact ih h

theorem number_sign_notMem_serialize (l : List (String × String)) : (0x23 : UInt8) ∉ serialize l := by
  intro h
  rcases mem_serialize h with hs | he | he
  · exact hs.ne (by decide) (by decide) (by decide) rfl
  · exact absurd he (by decide)
  · exact absurd he (by decide)

/-- Reading a serialized list gives the list. -/
theorem parse_serialize (l : List (String × String)) : parse (serialize l) = l := by
  by_cases hl : l = []
  · rw [hl]
    rfl
  · have hsplit : (serialize l).splitOn 0x26 = l.map encodePair := by
      refine List.splitOn_intercalate _ ?_ (fun h => hl (List.map_eq_nil_iff.1 h))
      intro piece hpiece
      obtain ⟨p, -, rfl⟩ := List.mem_map.1 hpiece
      exact amp_notMem_encodePair p
    have hkept : (l.map encodePair).filter (· != []) = l.map encodePair := by
      refine List.filter_eq_self.2 fun piece hpiece => ?_
      obtain ⟨p, -, rfl⟩ := List.mem_map.1 hpiece
      exact bne_iff_ne.2 (encodePair_ne_nil p)
    rw [parse, hsplit, hkept, List.map_map]
    refine (List.map_congr_left fun p _ => ?_).trans (List.map_id _)
    exact decodePair_encodePair p

end FormUrlEncoded
