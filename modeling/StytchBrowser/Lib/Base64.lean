import Mathlib.Algebra.Group.Nat.Defs
import Mathlib.Data.List.Basic

/-!
# Base64

The base64 of RFC 4648 with padding: three bytes are written as four characters, and what is left at
the end is filled up with `=`. Without the padding it is `unpadded`, whose length tells how much
padding there was (`encode_eq`). `decode` reads only what is padded, and does not look at the bits
that the last character has too many; it is a left inverse of `encode`.
-/

namespace Base64

/-- The character for a number below 64. -/
def char (n : ℕ) : Char :=
  if n < 26 then Char.ofNat (65 + n)
  else if n < 52 then Char.ofNat (97 + (n - 26))
  else if n < 62 then Char.ofNat (48 + (n - 52))
  else if n = 62 then '+'
  else '/'

/-- The number a character stands for. -/
def value (c : Char) : Option ℕ :=
  if 'A' ≤ c ∧ c ≤ 'Z' then some (c.toNat - 65)
  else if 'a' ≤ c ∧ c ≤ 'z' then some (c.toNat - 97 + 26)
  else if '0' ≤ c ∧ c ≤ '9' then some (c.toNat - 48 + 52)
  else if c = '+' then some 62
  else if c = '/' then some 63
  else none

/-- The characters without the padding. -/
def unpadded : List UInt8 → List Char
  | [] => []
  | [a] => [char (a.toNat / 4), char (a.toNat % 4 * 16)]
  | [a, b] =>
      [char (a.toNat / 4), char (a.toNat % 4 * 16 + b.toNat / 16), char (b.toNat % 16 * 4)]
  | a :: b :: c :: bytes =>
      char (a.toNat / 4) :: char (a.toNat % 4 * 16 + b.toNat / 16) ::
        char (b.toNat % 16 * 4 + c.toNat / 64) :: char (c.toNat % 64) :: unpadded bytes

def encode : List UInt8 → List Char
  | [] => []
  | [a] => [char (a.toNat / 4), char (a.toNat % 4 * 16), '=', '=']
  | [a, b] =>
      [char (a.toNat / 4), char (a.toNat % 4 * 16 + b.toNat / 16), char (b.toNat % 16 * 4), '=']
  | a :: b :: c :: bytes =>
      char (a.toNat / 4) :: char (a.toNat % 4 * 16 + b.toNat / 16) ::
        char (b.toNat % 16 * 4 + c.toNat / 64) :: char (c.toNat % 64) :: encode bytes

/-- The byte made of the low bits of `x` and the `k` upper bits of `y`. What `x` has above it belongs
to the byte before and wraps around. -/
def byte (k x y : ℕ) : UInt8 := UInt8.ofNat (x * 2 ^ k + y / 2 ^ (6 - k))

def decode : List Char → Option (List UInt8)
  | [] => some []
  | [c₁, c₂, '=', '='] => do
      let x ← value c₁
      let y ← value c₂
      return [byte 2 x y]
  | [c₁, c₂, c₃, '='] => do
      let x ← value c₁
      let y ← value c₂
      let z ← value c₃
      return [byte 2 x y, byte 4 y z]
  | c₁ :: c₂ :: c₃ :: c₄ :: rest => do
      let x ← value c₁
      let y ← value c₂
      let z ← value c₃
      let w ← value c₄
      let bytes ← decode rest
      return byte 2 x y :: byte 4 y z :: byte 6 z w :: bytes
  | _ => none

/-- The number of `=` after `n` bytes. -/
def padding (n : ℕ) : ℕ := (3 - n % 3) % 3

theorem value_char : ∀ n < 64, value (char n) = some n := by decide

theorem char_ne_pad : ∀ n < 64, char n ≠ '=' := by decide

theorem encode_eq : ∀ bytes : List UInt8,
    encode bytes = unpadded bytes ++ List.replicate (padding bytes.length) '='
  | [] => rfl
  | [_] => rfl
  | [_, _] => rfl
  | a :: b :: c :: bytes => by
    have hpad : padding (a :: b :: c :: bytes).length = padding bytes.length := by
      simp only [List.length_cons, padding]
      omega
    rw [hpad]
    exact congrArg (char _ :: char _ :: char _ :: char _ :: ·) (encode_eq bytes)

theorem length_unpadded : ∀ bytes : List UInt8,
    (unpadded bytes).length = (4 * bytes.length + 2) / 3
  | [] => rfl
  | [_] => (by decide : 2 = (4 * 1 + 2) / 3)
  | [_, _] => (by decide : 3 = (4 * 2 + 2) / 3)
  | _ :: _ :: _ :: bytes => by
    have ih := length_unpadded bytes
    change (unpadded bytes).length + 4 = _
    simp only [List.length_cons]
    omega

theorem exists_of_mem_unpadded {bytes : List UInt8} {c : Char} (h : c ∈ unpadded bytes) :
    ∃ n < 64, c = char n := by
  fun_induction unpadded bytes with
  | case1 => exact absurd h List.not_mem_nil
  | case2 a =>
    have ha := a.toNat_lt
    simp only [List.mem_cons, List.not_mem_nil, or_false] at h
    rcases h with rfl | rfl
    · exact ⟨_, by omega, rfl⟩
    · exact ⟨_, by omega, rfl⟩
  | case3 a b =>
    have ha := a.toNat_lt
    have hb := b.toNat_lt
    simp only [List.mem_cons, List.not_mem_nil, or_false] at h
    rcases h with rfl | rfl | rfl
    · exact ⟨_, by omega, rfl⟩
    · exact ⟨_, by omega, rfl⟩
    · exact ⟨_, by omega, rfl⟩
  | case4 a b c' bytes ih =>
    have ha := a.toNat_lt
    have hb := b.toNat_lt
    have hc := c'.toNat_lt
    simp only [List.mem_cons] at h
    rcases h with rfl | rfl | rfl | rfl | h
    · exact ⟨_, by omega, rfl⟩
    · exact ⟨_, by omega, rfl⟩
    · exact ⟨_, by omega, rfl⟩
    · exact ⟨_, by omega, rfl⟩
    · exact ih h

theorem byte_eq {k x y : ℕ} {a : UInt8} (h : (x * 2 ^ k + y / 2 ^ (6 - k)) % 256 = a.toNat) :
    byte k x y = a := by
  apply UInt8.toNat_inj.1
  rw [byte, UInt8.toNat_ofNat', h]

theorem decode_cons {c₁ c₂ c₃ c₄ : Char} (h : c₄ ≠ '=') {x y z w : ℕ} {bytes : List UInt8}
    (rest : List Char) (hx : value c₁ = some x) (hy : value c₂ = some y) (hz : value c₃ = some z)
    (hw : value c₄ = some w) (hrest : decode rest = some bytes) :
    decode (c₁ :: c₂ :: c₃ :: c₄ :: rest) =
      some (byte 2 x y :: byte 4 y z :: byte 6 z w :: bytes) := by
  rw [decode, hx, hy, hz, hw, hrest]
  · rfl
  · rintro - rfl -
    exact h rfl
  · rintro rfl -
    exact h rfl

/-- What is encoded is read back. -/
theorem decode_encode (bytes : List UInt8) : decode (encode bytes) = some bytes := by
  fun_induction encode bytes with
  | case1 => rfl
  | case2 a =>
    have ha := a.toNat_lt
    rw [decode, value_char _ (by omega), value_char _ (by omega)]
    exact congrArg (fun x => some [x]) (byte_eq (by omega))
  | case3 a b =>
    have ha := a.toNat_lt
    have hb := b.toNat_lt
    rw [decode, value_char _ (by omega), value_char _ (by omega), value_char _ (by omega)]
    · exact congrArg₂ (fun x y => some [x, y]) (byte_eq (by omega)) (byte_eq (by omega))
    · exact char_ne_pad _ (by omega)
  | case4 a b c bytes ih =>
    have ha := a.toNat_lt
    have hb := b.toNat_lt
    have hc := c.toNat_lt
    have hlast := char_ne_pad (c.toNat % 64) (by omega)
    rw [decode_cons hlast _ (value_char _ (by omega)) (value_char _ (by omega))
      (value_char _ (by omega)) (value_char _ (by omega)) ih]
    rw [byte_eq (a := a) (by omega), byte_eq (a := b) (by omega), byte_eq (a := c) (by omega)]

end Base64
