import Mathlib.Algebra.BigOperators.Group.List.Basic
import Mathlib.Algebra.GroupWithZero.Nat
import Mathlib.Data.Nat.Init
import Mathlib.Order.Nat
import StytchBrowser.Lib.FormUrlEncoded

/-!
# Texts read as queries

What is read of a text that stands in a query as it is, character by character.

* The separators take one byte, so that the bytes of a text are split where its characters are
  (`parse_bytesOf`).
* A text is decoded in parts, a character that stands for itself or a byte written `%XX`
  (`percentDecode_bytesOf`).
* Reading adds nothing: the `weight` of a text is the number of its characters, with each `+` counted
  twice, and what is read of a text weighs at most as much as the text, and as much only when the
  text is `Verbatim` (`weight_read_le`, `weight_read_eq_iff`).
-/

namespace FormUrlEncoded

/-- The UTF-8 bytes of a text. -/
def bytesOf (cs : List Char) : Bytes := cs.flatMap String.utf8EncodeChar

/-- What a name or a value that is written `cs` is read as. -/
def read (cs : List Char) : String := decode (bytesOf cs)

/-! ### Characters of one byte -/

theorem isUTF8FirstByte_of_head {c : Char} {b : UInt8} {rest : Bytes}
    (h : String.utf8EncodeChar c = b :: rest) : b.IsUTF8FirstByte := by
  have hpos : 0 < (String.utf8EncodeChar c).length := by
    rw [h]
    exact Nat.succ_pos _
  have h0 : (String.utf8EncodeChar c)[0] = b := by
    simp only [h, List.getElem_cons_zero]
  rw [← h0, UInt8.isUTF8FirstByte_getElem_utf8EncodeChar]

theorem not_isUTF8FirstByte_of_tail {c : Char} {b b' : UInt8} {rest : Bytes}
    (h : String.utf8EncodeChar c = b :: rest) (hb : b' ∈ rest) : ¬ b'.IsUTF8FirstByte := by
  obtain ⟨i, hi, rfl⟩ := List.getElem_of_mem hb
  have hlt : i + 1 < (String.utf8EncodeChar c).length := by
    rw [h, List.length_cons]
    omega
  have hi' : (String.utf8EncodeChar c)[i + 1] = rest[i] := by simp only [h, List.getElem_cons_succ]
  rw [← hi', UInt8.isUTF8FirstByte_getElem_utf8EncodeChar]
  omega

/-- The byte of a character that takes one byte occurs in no other character. -/
theorem eq_of_mem_encodeChar {a c : Char} {b : UInt8} (ha : String.utf8EncodeChar a = [b])
    (h : b ∈ String.utf8EncodeChar c) : c = a := by
  cases hc : String.utf8EncodeChar c with
  | nil => exact absurd hc String.utf8EncodeChar_ne_nil
  | cons b' rest =>
    rw [hc] at h
    rcases List.mem_cons.1 h with rfl | h
    · have hdec := decodeHead_encodeChar c []
      have hdec' := decodeHead_encodeChar a rest
      rw [ha] at hdec'
      rw [hc, List.append_nil] at hdec
      exact (Prod.mk.inj (hdec.symm.trans hdec')).1
    · exact absurd (isUTF8FirstByte_of_head ha) (not_isUTF8FirstByte_of_tail hc h)

theorem splitOn_append_of_notMem {b : UInt8} {l : Bytes} (hl : b ∉ l) (r : Bytes) :
    (l ++ r).splitOn b = (r.splitOn b).modifyHead (l ++ ·) := by
  induction l with
  | nil =>
    rw [List.nil_append]
    cases r.splitOn b <;> rfl
  | cons b' l ih =>
    rw [List.mem_cons, not_or] at hl
    rw [List.cons_append, List.splitOn_cons_eq_if_modifyHead, ih hl.2,
      if_neg (by simpa using Ne.symm hl.1)]
    cases r.splitOn b <;> rfl

section

variable {a : Char} {b : UInt8} (ha : String.utf8EncodeChar a = [b])
include ha

theorem splitOn_bytesOf (cs : List Char) :
    (bytesOf cs).splitOn b = (cs.splitOn a).map bytesOf := by
  induction cs with
  | nil => rfl
  | cons c cs ih =>
    by_cases hc : c = a
    · subst hc
      rw [bytesOf, List.flatMap_cons, ha, List.singleton_append, List.splitOn_cons_eq_if_modifyHead,
        List.splitOn_cons_eq_if_modifyHead, if_pos (beq_self_eq_true b), if_pos (beq_self_eq_true c),
        List.map_cons, ← ih]
      rfl
    · rw [bytesOf, List.flatMap_cons, splitOn_append_of_notMem fun h => hc (eq_of_mem_encodeChar ha h),
        ← bytesOf, ih, List.splitOn_cons_eq_if_modifyHead, if_neg (by simpa using hc)]
      cases cs.splitOn a <;> rfl

/-- No byte of another character is that of the separator. -/
theorem bytes_ne_of_ne {c : Char} (hc : c ≠ a) : ∀ b' ∈ String.utf8EncodeChar c, (b' != b) = true :=
  fun _ hb' => bne_iff_ne.2 fun he => hc (eq_of_mem_encodeChar ha (he ▸ hb'))

theorem takeWhile_bytesOf (cs : List Char) :
    (bytesOf cs).takeWhile (· != b) = bytesOf (cs.takeWhile (· != a)) := by
  induction cs with
  | nil => rfl
  | cons c cs ih =>
    rw [bytesOf, List.flatMap_cons, List.takeWhile_cons]
    by_cases hc : c = a
    · subst hc
      simp [ha, bytesOf]
    · rw [List.takeWhile_append_of_pos (bytes_ne_of_ne ha hc), if_pos (bne_iff_ne.2 hc), bytesOf, List.flatMap_cons]
      exact congrArg _ ih

theorem dropWhile_bytesOf (cs : List Char) :
    (bytesOf cs).dropWhile (· != b) = bytesOf (cs.dropWhile (· != a)) := by
  induction cs with
  | nil => rfl
  | cons c cs ih =>
    rw [bytesOf, List.flatMap_cons, List.dropWhile_cons]
    by_cases hc : c = a
    · subst hc
      simp [ha, bytesOf]
    · rw [List.dropWhile_append_of_pos (bytes_ne_of_ne ha hc), if_pos (bne_iff_ne.2 hc)]
      exact ih

end

/-! ### Pieces -/

/-- What a piece that is written `cs` is read as. -/
def readPair (cs : List Char) : String × String :=
  (read (cs.takeWhile (· != '=')), read ((cs.dropWhile (· != '=')).drop 1))

/-- What a query that is written `cs` is read as. -/
def readPairs (cs : List Char) : List (String × String) :=
  ((cs.splitOn '&').filter (· != [])).map readPair

theorem bytesOf_eq_nil {cs : List Char} : bytesOf cs = [] ↔ cs = [] := by
  cases cs with
  | nil => exact iff_of_true rfl rfl
  | cons c cs =>
    refine iff_of_false (fun h => ?_) (List.cons_ne_nil _ _)
    rw [bytesOf, List.flatMap_cons] at h
    exact String.utf8EncodeChar_ne_nil (List.append_eq_nil_iff.1 h).1

theorem decodePair_bytesOf (cs : List Char) : decodePair (bytesOf cs) = readPair cs := by
  have heq : String.utf8EncodeChar '=' = [0x3D] := rfl
  rw [decodePair, takeWhile_bytesOf heq, dropWhile_bytesOf heq]
  refine Prod.ext rfl ?_
  show decode _ = decode _
  cases hd : cs.dropWhile (· != '=') with
  | nil => rfl
  | cons c rest =>
    have hc : c = '=' := by
      have h := List.head?_dropWhile_not (· != '=') cs
      rw [hd] at h
      simpa using h
    rw [hc]
    rfl

/-- The bytes of a query are read as its characters are. -/
theorem parse_bytesOf (cs : List Char) : parse (bytesOf cs) = readPairs cs := by
  have hand : String.utf8EncodeChar '&' = [0x26] := rfl
  rw [parse, splitOn_bytesOf hand, List.filter_map, List.map_map, readPairs]
  have hfilter : (fun cs => bytesOf cs != []) = fun cs : List Char => cs != [] := by
    funext cs
    rw [Bool.eq_iff_iff, bne_iff_ne, bne_iff_ne]
    exact not_congr bytesOf_eq_nil
  rw [show ((· != []) ∘ bytesOf) = fun cs => bytesOf cs != [] from rfl, hfilter]
  exact List.map_congr_left fun cs _ => decodePair_bytesOf cs

theorem readPairs_append (cs ds : List Char) :
    readPairs (cs ++ '&' :: ds) = readPairs cs ++ readPairs ds := by
  have h : (cs ++ '&' :: ds).splitOn '&' = cs.splitOn '&' ++ ds.splitOn '&' :=
    List.splitOnP_append_cons cs ds (beq_self_eq_true '&')
  rw [readPairs, h, List.filter_append, List.map_append, readPairs, readPairs]

theorem readPairs_piece {cs : List Char} (h : '&' ∉ cs) :
    readPairs cs = if cs = [] then [] else [readPair cs] := by
  rw [readPairs, List.splitOn_eq_singleton h]
  split_ifs with hnil
  · rw [hnil]
    rfl
  · rw [List.filter_singleton, bne_iff_ne.2 hnil]
    rfl

/-! ### What is decoded -/

/-- The value of a hexadecimal digit. -/
def hexChar (c : Char) : Option ℕ :=
  match String.utf8EncodeChar c with
  | [b] => hexValue b
  | _ => none

/-- A part of a text: a character that stands for itself, or a byte written `%XX`. -/
inductive Token where
  | char (c : Char)
  | byte (b : UInt8)

/-- The parts of a text. -/
def tokens : List Char → List Token
  | '%' :: h :: l :: rest =>
    match hexChar h, hexChar l with
    | some x, some y => .byte (UInt8.ofNat (16 * x + y)) :: tokens rest
    | _, _ => .char '%' :: tokens (h :: l :: rest)
  | c :: rest => .char (if c = '+' then ' ' else c) :: tokens rest
  | [] => []

/-- The bytes of a part. -/
def Token.bytes : Token → Bytes
  | .char c => String.utf8EncodeChar c
  | .byte b => [b]

theorem hexChar_eq_some {c : Char} {n : ℕ} (h : hexChar c = some n) :
    ∃ b, String.utf8EncodeChar c = [b] ∧ hexValue b = some n := by
  unfold hexChar at h
  split at h
  · next b hb => exact ⟨b, hb, h⟩
  · cases h

theorem hexValue_bounds {b : UInt8} {n : ℕ} (h : hexValue b = some n) :
    (0x30 ≤ b ∧ b ≤ 0x39) ∨ (0x41 ≤ b ∧ b ≤ 0x46) ∨ (0x61 ≤ b ∧ b ≤ 0x66) := by
  unfold hexValue at h
  split_ifs at h with h₁ h₂ h₃
  · exact Or.inl h₁
  · exact Or.inr (Or.inl h₂)
  · exact Or.inr (Or.inr h₃)

theorem plusToSpace_hex {b : UInt8} {n : ℕ} (h : hexValue b = some n) : plusToSpace b = b := by
  refine if_neg ?_
  rintro rfl
  rcases hexValue_bounds h with h | h | h
  · exact absurd h (by decide)
  · exact absurd h (by decide)
  · exact absurd h (by decide)

theorem encodeChar_ofNat : ∀ n < 128, String.utf8EncodeChar (Char.ofNat n) = [UInt8.ofNat n] := by
  decide

/-- A hexadecimal digit that is read is written as a character. -/
theorem hexChar_of_head {cs : List Char} {x : UInt8} {rest : Bytes} {n : ℕ}
    (h : (bytesOf cs).map plusToSpace = x :: rest) (hx : hexValue x = some n) :
    ∃ c ds, cs = c :: ds ∧ hexChar c = some n ∧ rest = (bytesOf ds).map plusToSpace := by
  cases cs with
  | nil => cases h
  | cons c ds =>
    rw [bytesOf, List.flatMap_cons] at h
    cases hc : String.utf8EncodeChar c with
    | nil => exact absurd hc String.utf8EncodeChar_ne_nil
    | cons b t =>
      rw [hc, List.cons_append, List.map_cons] at h
      obtain ⟨hb, ht⟩ := List.cons.inj h
      have hbx : b = x := by
        rw [← hb, plusToSpace]
        split_ifs with hplus
        · rw [plusToSpace, if_pos hplus] at hb
          rw [← hb] at hx
          cases hx
        · rfl
      subst hbx
      have hlt : b.toNat < 128 := by
        rcases hexValue_bounds hx with h | h | h <;>
          exact Nat.lt_of_le_of_lt (UInt8.le_iff_toNat_le.1 h.2) (by decide)
      have ha := encodeChar_ofNat b.toNat hlt
      rw [UInt8.ofNat_toNat] at ha
      have hca : c = Char.ofNat b.toNat :=
        eq_of_mem_encodeChar ha (hc ▸ List.mem_cons_self)
      rw [← hca, hc] at ha
      obtain ⟨-, rfl⟩ := List.cons.inj ha
      refine ⟨c, ds, rfl, ?_, ht.symm⟩
      rw [hexChar, hc]
      exact hx

theorem percentDecode_percent {l : Bytes}
    (h : ∀ x y rest, l = x :: y :: rest → hexValue x = none ∨ hexValue y = none) :
    percentDecode (0x25 :: l) = 0x25 :: percentDecode l := by
  match l with
  | [] => rfl
  | [x] => rfl
  | x :: y :: rest =>
    rw [percentDecode]
    rcases h x y rest rfl with hx | hy
    · rw [hx]
    · rw [hy]
      cases hexValue x <;> rfl

/-- The same of characters: no two hexadecimal digits follow. -/
theorem percentDecode_percent_chars {cs : List Char}
    (h : ∀ m n c d es, cs = c :: d :: es → hexChar c = some m → hexChar d = some n → False) :
    percentDecode (0x25 :: (bytesOf cs).map plusToSpace) =
      0x25 :: percentDecode ((bytesOf cs).map plusToSpace) := by
  refine percentDecode_percent fun x y rest hl => ?_
  by_contra hne
  rw [not_or, ← ne_eq, ← ne_eq, Option.ne_none_iff_exists', Option.ne_none_iff_exists'] at hne
  obtain ⟨⟨m, hm⟩, n, hn⟩ := hne
  obtain ⟨c, ds, hcs, hc, hr⟩ := hexChar_of_head hl hm
  obtain ⟨d, es, hds, hd, -⟩ := hexChar_of_head hr.symm hn
  exact h m n c d es (hcs.trans (congrArg _ hds)) hc hd

theorem percentDecode_append {l : Bytes} (hl : 0x25 ∉ l) (rest : Bytes) :
    percentDecode (l ++ rest) = l ++ percentDecode rest := by
  induction l with
  | nil => rfl
  | cons b l ih =>
    rw [List.mem_cons, not_or] at hl
    rw [List.cons_append, percentDecode_cons (Ne.symm hl.1), ih hl.2, List.cons_append]

theorem map_plusToSpace_encodeChar (c : Char) :
    (String.utf8EncodeChar c).map plusToSpace =
      String.utf8EncodeChar (if c = '+' then ' ' else c) := by
  have hplus : String.utf8EncodeChar '+' = [0x2B] := rfl
  split_ifs with hc
  · rw [hc]
    rfl
  · refine (List.map_congr_left fun b hb => if_neg ?_).trans (List.map_id _)
    rintro rfl
    exact hc (eq_of_mem_encodeChar hplus hb)

theorem tokens_percent {h l : Char} {rest : List Char}
    (hno : ∀ x y, hexChar h = some x → hexChar l = some y → False) :
    tokens ('%' :: h :: l :: rest) = .char '%' :: tokens (h :: l :: rest) := by
  rw [tokens]
  cases hx : hexChar h with
  | none => rfl
  | some x =>
    cases hy : hexChar l with
    | none => rfl
    | some y => exact absurd hy (hno x y hx)

/-- The bytes that a text is decoded to are those of its parts. -/
theorem percentDecode_bytesOf (cs : List Char) :
    percentDecode ((bytesOf cs).map plusToSpace) = (tokens cs).flatMap Token.bytes := by
  induction cs using tokens.induct with
  | case1 h l rest x y hy hx ih =>
    obtain ⟨b, hb, hbx⟩ := hexChar_eq_some hx
    obtain ⟨d, hd, hdy⟩ := hexChar_eq_some hy
    have hbytes : bytesOf ('%' :: h :: l :: rest) = 0x25 :: b :: d :: bytesOf rest := by
      simp only [bytesOf, List.flatMap_cons, hb, hd]
      rfl
    rw [hbytes, tokens, hx, hy]
    simp only [List.map_cons, plusToSpace_hex hbx, plusToSpace_hex hdy]
    rw [show plusToSpace 0x25 = 0x25 from rfl, percentDecode, hbx, hdy]
    simp only [ih, List.flatMap_cons, Token.bytes, List.singleton_append]
  | case2 h l rest hno ih =>
    rw [tokens_percent hno, List.flatMap_cons, ← ih]
    refine percentDecode_percent_chars fun m n c d es hcs hc hd => ?_
    obtain ⟨hhc, hcs⟩ := List.cons.inj hcs
    obtain ⟨hld, -⟩ := List.cons.inj hcs
    exact hno m n (hhc ▸ hc) (hld ▸ hd)
  | case3 c rest hno ih =>
    rw [tokens, List.flatMap_cons, ← ih, bytesOf, List.flatMap_cons, List.map_append,
      map_plusToSpace_encodeChar]
    · by_cases hc : c = '%'
      · subst hc
        exact percentDecode_percent_chars fun _ _ h l es hcs _ _ => hno h l es rfl hcs
      · refine percentDecode_append (fun h => ?_) _
        have hpercent : String.utf8EncodeChar '%' = [0x25] := rfl
        have hmem := eq_of_mem_encodeChar hpercent h
        split_ifs at hmem with hplus
        · exact absurd hmem (by decide)
        · exact hc hmem
    · exact hno
  | case4 => rfl

/-! ### Weights -/

/-- The number of characters, with every `+` counted twice. -/
def weight (cs : List Char) : ℕ := cs.length + cs.count '+'

/-- At least the weight of the characters that a part gives rise to. -/
def Token.weight : Token → ℕ
  | .char c => FormUrlEncoded.weight [c]
  | .byte _ => 2

theorem weight_cons (c : Char) (cs : List Char) : weight (c :: cs) = weight [c] + weight cs := by
  simp only [weight, List.count_cons, List.length_cons, List.count_nil, List.length_nil]
  omega

theorem weight_append (cs ds : List Char) : weight (cs ++ ds) = weight cs + weight ds := by
  simp only [weight, List.length_append, List.count_append]
  omega

theorem weight_singleton_le (c : Char) : weight [c] ≤ 2 := by
  by_cases hc : c = '+'
  · rw [hc]
    decide
  · simp [weight, hc]

theorem not_isUTF8FirstByte_ofNat : ∀ n < 0x40, ¬ (UInt8.ofNat (0x80 + n)).IsUTF8FirstByte := by
  decide

theorem not_isUTF8FirstByte {b : UInt8} (h₁ : 0x80 ≤ b) (h₂ : b ≤ 0xBF) : ¬ b.IsUTF8FirstByte := by
  have h₁' : 0x80 ≤ b.toNat := UInt8.le_iff_toNat_le.1 h₁
  have h₂' : b.toNat ≤ 0xBF := UInt8.le_iff_toNat_le.1 h₂
  have h := not_isUTF8FirstByte_ofNat (b.toNat - 0x80) (by omega)
  rwa [Nat.add_sub_cancel' h₁', UInt8.ofNat_toNat] at h

theorem secondByteRange_bounds {b lower upper : UInt8}
    (h : secondByteRange b = some (lower, upper)) : 0x80 ≤ lower ∧ upper ≤ 0xBF := by
  unfold secondByteRange at h
  split_ifs at h <;> cases h <;> decide

/-- The bytes that the first character takes after its first byte begin no character. -/
theorem decodeHead_tail (b : UInt8) (l : Bytes) :
    ∃ t r, l = t ++ r ∧ t.length = (decodeHead (b :: l)).2 - 1 ∧
      ∀ b' ∈ t, ¬ b'.IsUTF8FirstByte := by
  unfold decodeHead
  split
  · next c hc =>
    obtain ⟨rest, hrest⟩ := ByteArray.exists_of_utf8DecodeChar?_eq_some hc
    have hlist : b :: l = String.utf8EncodeChar c ++ rest.data.toList := by
      have h := congrArg (fun a => a.data.toList) hrest
      simpa using h
    have hlen := String.length_utf8EncodeChar c
    cases he : String.utf8EncodeChar c with
    | nil => exact absurd he String.utf8EncodeChar_ne_nil
    | cons b' t =>
      rw [he, List.cons_append] at hlist
      rw [he, List.length_cons] at hlen
      refine ⟨t, rest.data.toList, (List.cons.inj hlist).2, ?_, fun b' hb' =>
        not_isUTF8FirstByte_of_tail he hb'⟩
      show t.length = c.utf8Size - 1
      omega
  · cases l with
    | nil => exact ⟨[], [], rfl, rfl, fun _ h => absurd h List.not_mem_nil⟩
    | cons b₁ rest =>
      have hone : ∀ n : ℕ, n = 1 → ∃ t r, b₁ :: rest = t ++ r ∧ t.length = n - 1 ∧
          ∀ b' ∈ t, ¬ b'.IsUTF8FirstByte := by
        rintro n rfl
        exact ⟨[], b₁ :: rest, rfl, rfl, fun _ h => absurd h List.not_mem_nil⟩
      dsimp only [maximalSubpart]
      cases hr : secondByteRange b with
      | none => exact hone 1 rfl
      | some range =>
        obtain ⟨lower, upper⟩ := range
        obtain ⟨hlower, hupper⟩ := secondByteRange_bounds hr
        dsimp only
        split_ifs with hout hthree
        · exact hone 1 rfl
        · have hb₁ : ¬ b₁.IsUTF8FirstByte := by
            rw [not_or, UInt8.not_lt, UInt8.not_lt] at hout
            exact not_isUTF8FirstByte (UInt8.le_trans hlower hout.1) (UInt8.le_trans hout.2 hupper)
          obtain ⟨b₂, hb₂, hrange⟩ := (Option.any_eq_true _ _).1 hthree.2
          rw [Bool.and_eq_true, decide_eq_true_iff, decide_eq_true_iff] at hrange
          obtain ⟨tail, rfl⟩ := List.head?_eq_some_iff.1 hb₂
          refine ⟨[b₁, b₂], tail, rfl, rfl, ?_⟩
          rw [List.forall_mem_cons, List.forall_mem_singleton]
          exact ⟨hb₁, not_isUTF8FirstByte hrange.1 hrange.2⟩
        · rw [not_or, UInt8.not_lt, UInt8.not_lt] at hout
          refine ⟨[b₁], rest, rfl, rfl, ?_⟩
          rw [List.forall_mem_singleton]
          exact not_isUTF8FirstByte (UInt8.le_trans hlower hout.1) (UInt8.le_trans hout.2 hupper)

/-- Bytes that begin no character are parts of their own. -/
theorem tokens_skip {t r : Bytes} {ts : List Token} (h : ts.flatMap Token.bytes = t ++ r)
    (ht : ∀ b ∈ t, ¬ b.IsUTF8FirstByte) :
    ∃ ts' : List Token, ts'.flatMap Token.bytes = r ∧ ts'.length ≤ ts.length ∧
      (ts'.map Token.weight).sum ≤ (ts.map Token.weight).sum := by
  induction t generalizing ts with
  | nil => exact ⟨ts, h, le_rfl, le_rfl⟩
  | cons b t ih =>
    rw [List.forall_mem_cons] at ht
    cases ts with
    | nil => cases h
    | cons tok ts =>
      rw [List.flatMap_cons] at h
      cases tok with
      | char c =>
        cases hc : String.utf8EncodeChar c with
        | nil => exact absurd hc String.utf8EncodeChar_ne_nil
        | cons b' rest =>
          rw [Token.bytes, hc] at h
          obtain ⟨rfl, -⟩ := List.cons.inj h
          exact absurd (isUTF8FirstByte_of_head hc) ht.1
      | byte b' =>
        obtain ⟨-, h⟩ := List.cons.inj h
        obtain ⟨ts', hts', hlen, hw⟩ := ih h ht.2
        refine ⟨ts', hts', hlen.trans (Nat.le_succ _), hw.trans ?_⟩
        rw [List.map_cons, List.sum_cons]
        exact Nat.le_add_left _ _

/-- What the bytes are read as weighs at most as much as the parts. -/
theorem weight_decodeUtf8From_le (ts : List Token) :
    weight (decodeUtf8From 0 (ts.flatMap Token.bytes)) ≤ (ts.map Token.weight).sum := by
  induction hn : ts.length using Nat.strong_induction_on generalizing ts with
  | _ n ih =>
    cases ts with
    | nil => exact le_rfl
    | cons tok ts =>
      rw [List.length_cons] at hn
      rw [List.flatMap_cons, List.map_cons, List.sum_cons]
      cases tok with
      | char c =>
        rw [Token.bytes, decodeUtf8From_encodeChar, weight_cons]
        exact Nat.add_le_add_left (ih ts.length (by omega) ts rfl) _
      | byte b =>
        obtain ⟨t, r, hl, hlen, ht⟩ := decodeHead_tail b (ts.flatMap Token.bytes)
        obtain ⟨ts', hts', hlen', hw⟩ := tokens_skip hl ht
        rw [Token.bytes, List.singleton_append, decodeUtf8From, weight_cons, ← hlen, hl,
          decodeUtf8From_append, ← hts']
        have hrest := ih ts'.length (by omega) ts' rfl
        have hhead := weight_singleton_le (decodeHead (b :: (t ++ ts'.flatMap Token.bytes))).1
        show _ ≤ 2 + _
        omega

/-- A `%` is followed by two hexadecimal digits somewhere. -/
def escaped : List Char → Bool
  | '%' :: h :: l :: rest => (hexChar h).isSome && (hexChar l).isSome || escaped (h :: l :: rest)
  | _ :: rest => escaped rest
  | [] => false

/-- The texts that are read as they are written. -/
def Verbatim (cs : List Char) : Prop := '+' ∉ cs ∧ escaped cs = false

instance (cs : List Char) : Decidable (Verbatim cs) := inferInstanceAs (Decidable (_ ∧ _))

theorem sum_weight_chars (cs : List Char) :
    ((cs.map Token.char).map Token.weight).sum = weight cs := by
  induction cs with
  | nil => rfl
  | cons c cs ih => rw [List.map_cons, List.map_cons, List.sum_cons, ih, weight_cons, Token.weight]

/-- The parts of a text are its characters and it is verbatim, or they weigh less than it. -/
def Lossy (cs : List Char) : Prop :=
  (Verbatim cs ∧ tokens cs = cs.map Token.char) ∨
    (¬ Verbatim cs ∧ ((tokens cs).map Token.weight).sum < weight cs)

theorem Lossy.le {cs : List Char} (h : Lossy cs) : ((tokens cs).map Token.weight).sum ≤ weight cs := by
  rcases h with ⟨-, h⟩ | ⟨-, h⟩
  · rw [h, sum_weight_chars]
  · exact h.le

theorem Lossy.cons {c : Char} {cs : List Char} (hc : c ≠ '+')
    (ht : tokens (c :: cs) = .char c :: tokens cs) (he : escaped (c :: cs) = escaped cs)
    (h : Lossy cs) : Lossy (c :: cs) := by
  have hv : Verbatim (c :: cs) ↔ Verbatim cs := by
    unfold Verbatim
    rw [he, List.mem_cons, not_or]
    exact and_congr_left fun _ => and_iff_right (Ne.symm hc)
  rcases h with ⟨h, hcs⟩ | ⟨h, hlt⟩
  · exact Or.inl ⟨hv.2 h, by rw [ht, hcs, List.map_cons]⟩
  · refine Or.inr ⟨mt hv.1 h, ?_⟩
    rw [ht, List.map_cons, List.sum_cons, weight_cons]
    exact Nat.add_lt_add_left hlt _

theorem lossy (cs : List Char) : Lossy cs := by
  induction cs using tokens.induct with
  | case1 h l rest x y hy hx ih =>
    right
    constructor
    · rintro ⟨-, he⟩
      rw [escaped, hx, hy] at he
      cases he
    · rw [tokens, hx, hy, List.map_cons, List.sum_cons, weight_cons, weight_cons h, weight_cons l]
      have hrest := ih.le
      have hpos : ∀ c : Char, 0 < weight [c] := fun c =>
        Nat.lt_of_lt_of_le Nat.zero_lt_one (Nat.le_add_right _ _)
      have hh := hpos h
      have hl := hpos l
      show 2 + _ < 1 + _
      omega
  | case2 h l rest hno ih =>
    refine ih.cons (by decide) (tokens_percent hno) ?_
    rw [escaped]
    cases hx : hexChar h with
    | none => rfl
    | some x =>
      cases hy : hexChar l with
      | none => rfl
      | some y => exact (hno x y hx hy).elim
  | case3 c rest hno ih =>
    have ht := tokens.eq_2 c rest hno
    by_cases hc : c = '+'
    · subst hc
      right
      constructor
      · exact fun h => h.1 List.mem_cons_self
      · rw [ht, List.map_cons, List.sum_cons, weight_cons]
        have hrest := ih.le
        show 1 + _ < 2 + _
        omega
    · rw [if_neg hc] at ht
      exact ih.cons hc ht (escaped.eq_2 c rest hno)
  | case4 => exact Or.inl ⟨⟨List.not_mem_nil, rfl⟩, rfl⟩

theorem toList_read (cs : List Char) :
    (read cs).toList = decodeUtf8From 0 ((tokens cs).flatMap Token.bytes) := by
  rw [read, decode, percentDecode_bytesOf, decodeUtf8, String.toList_ofList]

theorem decodeUtf8From_chars (cs : List Char) :
    decodeUtf8From 0 ((cs.map Token.char).flatMap Token.bytes) = cs := by
  induction cs with
  | nil => rfl
  | cons c cs ih => rw [List.map_cons, List.flatMap_cons, Token.bytes, decodeUtf8From_encodeChar, ih]

/-- Reading adds nothing. -/
theorem weight_read_le (cs : List Char) : weight (read cs).toList ≤ weight cs := by
  rw [toList_read]
  exact (weight_decodeUtf8From_le _).trans (lossy cs).le

/-- Exactly the verbatim texts are read without loss. -/
theorem weight_read_eq_iff (cs : List Char) :
    weight (read cs).toList = weight cs ↔ Verbatim cs := by
  rcases lossy cs with ⟨hv, ht⟩ | ⟨hv, hlt⟩
  · refine iff_of_true ?_ hv
    rw [toList_read, ht, decodeUtf8From_chars]
  · refine iff_of_false (Nat.ne_of_lt ?_) hv
    rw [toList_read]
    exact (weight_decodeUtf8From_le _).trans_lt hlt

theorem toList_read_of_verbatim {cs : List Char} (h : Verbatim cs) : (read cs).toList = cs := by
  rcases lossy cs with ⟨-, ht⟩ | ⟨hv, -⟩
  · rw [toList_read, ht, decodeUtf8From_chars]
  · exact absurd h hv

end FormUrlEncoded
