import Mathlib.Data.List.Basic

/-!
# Lists cut into chunks

`Chunked k cs` says that all chunks of `cs` but the last have length `k`, and that the last is not
longer. The chunks can be found in the list that they make up: the `i`-th stands at `i * k`
(`take_drop_flatten`), and the length of the list bounds how many there are (`length_flatten_le`).
-/

universe u

variable {α : Type u}

/-- All chunks but the last are full. -/
def Chunked (k : ℕ) : List (List α) → Prop
  | [] => True
  | [c] => c.length ≤ k
  | c :: d :: cs => c.length = k ∧ Chunked k (d :: cs)

namespace Chunked

variable {k i : ℕ} {c : List α} {cs : List (List α)}

theorem head_le (h : Chunked k (c :: cs)) : c.length ≤ k := by
  cases cs with
  | nil => exact h
  | cons d cs => exact Nat.le_of_eq h.1

theorem tail (h : Chunked k (c :: cs)) : Chunked k cs := by
  cases cs with
  | nil => trivial
  | cons d cs => exact h.2

theorem head_eq (h : Chunked k (c :: cs)) (hne : cs ≠ []) : c.length = k := by
  cases cs with
  | nil => exact absurd rfl hne
  | cons d cs => exact h.1

/-- The first chunks are chunks of the same length. -/
theorem take (h : Chunked k cs) (n : ℕ) : Chunked k (cs.take n) := by
  induction cs generalizing n with
  | nil => rwa [List.take_nil]
  | cons c cs ih =>
    cases n with
    | zero => trivial
    | succ n =>
      rw [List.take_succ_cons]
      cases hrest : cs.take n with
      | nil => exact h.head_le
      | cons d ds =>
        have hne : cs ≠ [] := by
          rintro rfl
          rw [List.take_nil] at hrest
          cases hrest
        exact ⟨h.head_eq hne, hrest ▸ ih h.tail n⟩

theorem length_flatten_le (h : Chunked k cs) : cs.flatten.length ≤ cs.length * k := by
  induction cs with
  | nil => exact Nat.zero_le _
  | cons c cs ih =>
    rw [List.flatten_cons, List.length_append, List.length_cons, Nat.succ_mul, Nat.add_comm]
    exact Nat.add_le_add (ih h.tail) h.head_le

/-- A chunk stands at its place. -/
theorem take_drop_flatten (h : Chunked k cs) (hi : i < cs.length) :
    (cs.flatten.drop (i * k)).take k = cs[i] := by
  induction cs generalizing i with
  | nil => exact absurd hi (Nat.not_lt_zero _)
  | cons c cs ih =>
    cases i with
    | zero =>
      rw [Nat.zero_mul, List.drop_zero, List.flatten_cons]
      cases cs with
      | nil =>
        rw [List.flatten_nil, List.append_nil]
        exact List.take_of_length_le h.head_le
      | cons d cs => exact List.take_left' h.1
    | succ i =>
      have hlt : i < cs.length := Nat.lt_of_succ_lt_succ hi
      have hne : cs ≠ [] := by
        rintro rfl
        exact absurd hlt (Nat.not_lt_zero _)
      have hdrop : (c ++ cs.flatten).drop ((i + 1) * k) = cs.flatten.drop (i * k) := by
        rw [Nat.succ_mul, Nat.add_comm, ← List.drop_drop, List.drop_left' (h.head_eq hne)]
      rw [List.flatten_cons, hdrop, ih h.tail hlt]
      rfl

end Chunked
