import Mathlib.Algebra.BigOperators.Group.List.Basic
import Mathlib.Algebra.GroupWithZero.Nat
import Mathlib.Data.List.Basic
import Mathlib.Data.Nat.Log

/-!
# Numbers written in digits

`padded b width n` is the number `n` written in base `b`, with leading zeros up to a width, as the
formats `%0width` of C and its descendants do. It is read back by `decode`, so it determines `n`.
A sequence of numbers written one after the other (`join`) is determined by the text when the
numbers of digits are, and by the text alone when every number fits the width.
-/

namespace Digits

/-- The value of a digit. -/
def charValue (c : Char) : ℕ :=
  if c.isDigit then c.toNat - '0'.toNat else c.toNat - 'a'.toNat + 10

/-- The number that is written in a text. -/
def decode (b : ℕ) (l : List Char) : ℕ := l.foldl (fun n c => b * n + charValue c) 0

/-- `n` in base `b`, padded with zeros. -/
def padded (b width n : ℕ) : List Char := (Nat.toDigits b n).leftpad width '0'

/-- The number of digits of `padded`. -/
def width (b width n : ℕ) : ℕ := max width (Nat.log b n + 1)

/-- Numbers written one after the other. -/
def join (b width : ℕ) (ns : List ℕ) : List Char := (ns.map (padded b width)).flatten

variable {b w : ℕ}

theorem charValue_digitChar : ∀ d < 16, charValue (Nat.digitChar d) = d := by decide

theorem decode_concat (l : List Char) (c : Char) :
    decode b (l ++ [c]) = b * decode b l + charValue c := by
  simp [decode]

theorem decode_toDigits (hb : 1 < b) (hb' : b ≤ 16) (n : ℕ) : decode b (Nat.toDigits b n) = n := by
  induction n using Nat.strong_induction_on with
  | _ n ih =>
    by_cases hn : n < b
    · rw [Nat.toDigits_of_lt_base hn]
      simpa [decode] using charValue_digitChar n (by omega)
    · have hdiv : n / b < n := Nat.div_lt_self (by omega) hb
      have hmod : n % b < 16 := by
        have := Nat.mod_lt n (by omega : 0 < b)
        omega
      rw [Nat.toDigits_of_base_le hb (by omega), decode_concat, ih _ hdiv,
        charValue_digitChar _ hmod]
      exact Nat.div_add_mod n b

theorem decode_replicate (k : ℕ) (l : List Char) :
    decode b (List.replicate k '0' ++ l) = decode b l := by
  induction k with
  | zero => rfl
  | succ k ih =>
    rw [List.replicate_succ, List.cons_append, ← ih]
    simp [decode, charValue]

/-- A padded number is read back. -/
theorem decode_padded (hb : 1 < b) (hb' : b ≤ 16) (n : ℕ) : decode b (padded b w n) = n := by
  rw [padded, List.leftpad, decode_replicate, decode_toDigits hb hb']

theorem padded_injective (hb : 1 < b) (hb' : b ≤ 16) : Function.Injective (padded b w) :=
  Function.LeftInverse.injective (decode_padded hb hb')

theorem toList_toString (n : ℕ) : (toString n).toList = Nat.toDigits 10 n := String.toList_ofList

/-- A number is determined by its text. -/
theorem toString_injective : Function.Injective (toString : ℕ → String) := by
  intro m n h
  have hd : Nat.toDigits 10 m = Nat.toDigits 10 n := by
    rw [← toList_toString, ← toList_toString, h]
  rw [← decode_toDigits (b := 10) (by decide) (by decide) m, hd, decode_toDigits (by decide) (by decide)]

theorem length_toDigits (hb : 1 < b) (n : ℕ) : (Nat.toDigits b n).length = Nat.log b n + 1 := by
  apply le_antisymm
  · rw [Nat.length_toDigits_le_iff hb (Nat.succ_pos _)]
    exact Nat.lt_pow_succ_log_self hb n
  · have hpos : 0 < (Nat.toDigits b n).length := Nat.length_toDigits_pos
    have hlt : n < b ^ (Nat.toDigits b n).length := (Nat.length_toDigits_le_iff hb hpos).1 le_rfl
    have hlog := Nat.log_lt_of_lt_pow' (by omega) hlt
    omega

theorem length_padded (hb : 1 < b) (n : ℕ) : (padded b w n).length = width b w n := by
  rw [padded, List.length_leftpad, length_toDigits hb, width]

/-- A number that fits the width is written in as many digits. -/
theorem width_of_lt (hw : 0 < w) {n : ℕ} (hn : n < b ^ w) : width b w n = w := by
  have hlog := Nat.log_lt_of_lt_pow' hw.ne' hn
  rw [width]
  omega

/-- Every character is a digit. -/
theorem mem_toDigits (hb : 1 < b) {n : ℕ} {c : Char} (hc : c ∈ Nat.toDigits b n) :
    ∃ d < b, c = Nat.digitChar d := by
  induction n using Nat.strong_induction_on with
  | _ n ih =>
    by_cases hn : n < b
    · rw [Nat.toDigits_of_lt_base hn, List.mem_singleton] at hc
      exact ⟨n, hn, hc⟩
    · rw [Nat.toDigits_of_base_le hb (by omega), List.mem_append, List.mem_singleton] at hc
      rcases hc with hc | hc
      · exact ih _ (Nat.div_lt_self (by omega) hb) hc
      · exact ⟨n % b, Nat.mod_lt n (by omega), hc⟩

theorem mem_padded (hb : 1 < b) {n : ℕ} {c : Char} (hc : c ∈ padded b w n) :
    ∃ d < b, c = Nat.digitChar d := by
  rw [padded, List.leftpad, List.mem_append] at hc
  rcases hc with hc | hc
  · exact ⟨0, by omega, List.eq_of_mem_replicate hc⟩
  · exact mem_toDigits hb hc

/-! ## Sequences -/

theorem mem_join (hb : 1 < b) {ns : List ℕ} {c : Char} (hc : c ∈ join b w ns) :
    ∃ d < b, c = Nat.digitChar d := by
  simp only [join, List.mem_flatten, List.mem_map] at hc
  obtain ⟨l, ⟨n, -, rfl⟩, hc⟩ := hc
  exact mem_padded hb hc

theorem length_join (hb : 1 < b) (ns : List ℕ) :
    (join b w ns).length = (ns.map (width b w)).sum := by
  rw [join, List.length_flatten, List.map_map]
  congr 1
  exact List.map_congr_left fun n _ => length_padded hb n

/-- Numbers with the same widths are determined by the text they are joined to. -/
theorem join_injective (hb : 1 < b) (hb' : b ≤ 16) {ns ms : List ℕ}
    (hwidth : ns.map (width b w) = ms.map (width b w)) (h : join b w ns = join b w ms) :
    ns = ms := by
  have hlength : ∀ l : List ℕ, (l.map (padded b w)).map List.length = l.map (width b w) := by
    intro l
    rw [List.map_map]
    exact List.map_congr_left fun n _ => length_padded hb n
  have hmap : ns.map (padded b w) = ms.map (padded b w) := by
    rw [List.eq_iff_flatten_eq, hlength, hlength]
    exact ⟨h, hwidth⟩
  exact List.map_injective_iff.2 (padded_injective hb hb') hmap

end Digits
