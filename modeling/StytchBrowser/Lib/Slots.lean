import Mathlib.Data.List.Basic
import Mathlib.Tactic.SplitIfs

/-!
# Slots

The calls a machine has in flight are kept in a list: a call that starts is appended, a call that
moves on is replaced in place, and its index stays its name. These are the rules for what a slot can
hold after each of the two.
-/

universe u v

namespace Slots

variable {α : Type u} {l : List α} {i j : ℕ} {x y : α}

theorem of_set (h : (l.set i x)[j]? = some y) : i = j ∧ y = x ∨ i ≠ j ∧ l[j]? = some y := by
  rw [List.getElem?_set] at h
  split_ifs at h with hij hlt
  · exact .inl ⟨hij, (Option.some.inj h).symm⟩
  · exact .inr ⟨hij, h⟩

theorem of_concat (h : (l ++ [x])[j]? = some y) : j = l.length ∧ y = x ∨ l[j]? = some y := by
  rw [List.getElem?_append] at h
  split_ifs at h with hlt
  · exact .inr h
  · have hj := (List.getElem?_eq_some_iff.1 h).1
    rw [List.length_singleton] at hj
    have h0 : j - l.length = 0 := by omega
    rw [h0, List.getElem?_cons_zero] at h
    exact .inl ⟨by omega, (Option.some.inj h).symm⟩

theorem set_self (h : l[i]? = some y) : (l.set i x)[i]? = some x :=
  List.getElem?_set_self (List.getElem?_eq_some_iff.1 h).1

theorem forall_of_mem {p : α → Prop} (h : ∀ x ∈ l, p x) : ∀ (j : ℕ) (y : α), l[j]? = some y → p y :=
  fun _ y hj => h y (List.mem_of_getElem? hj)

theorem forall_of_nil {p : α → Prop} (h : l = []) : ∀ (j : ℕ) (y : α), l[j]? = some y → p y := by
  subst h
  intro j y hj
  cases hj

/-- What held of every slot holds of every slot after one is replaced. -/
theorem forall_set {p : α → Prop} (hl : ∀ (j : ℕ) (y : α), l[j]? = some y → p y) (hx : p x)
    {i : ℕ} : ∀ (j : ℕ) (y : α), (l.set i x)[j]? = some y → p y := by
  intro j y hj
  rcases of_set hj with ⟨-, rfl⟩ | ⟨-, h⟩
  · exact hx
  · exact hl j y h

/-- What held of every slot holds of every slot after one is added. -/
theorem forall_concat {p : α → Prop} (hl : ∀ (j : ℕ) (y : α), l[j]? = some y → p y) (hx : p x) :
    ∀ (j : ℕ) (y : α), (l ++ [x])[j]? = some y → p y := by
  intro j y hj
  rcases of_concat hj with ⟨-, rfl⟩ | h
  · exact hx
  · exact hl j y h

/-! ## At most one slot -/

/-- At most one slot holds a value that meets `p`. -/
def AtMostOne (p : α → Prop) (l : List α) : Prop :=
  ∀ (i j : ℕ) (x y : α), l[i]? = some x → l[j]? = some y → p x → p y → i = j

variable {p : α → Prop}

theorem AtMostOne.nil : AtMostOne p [] := by
  intro i j x y hi
  cases hi

/-- A slot may be replaced by a value that meets `p` if it met `p` before. -/
theorem AtMostOne.set (h : AtMostOne p l) (hi : l[i]? = some x) (hy : p y → p x) :
    AtMostOne p (l.set i y) := by
  intro j k a b ha hb hpa hpb
  rcases of_set ha with ⟨rfl, rfl⟩ | ⟨-, ha'⟩
  · rcases of_set hb with ⟨rfl, rfl⟩ | ⟨-, hb'⟩
    · rfl
    · exact h i k x b hi hb' (hy hpa) hpb
  · rcases of_set hb with ⟨rfl, rfl⟩ | ⟨-, hb'⟩
    · exact h j i a x ha' hi hpa (hy hpb)
    · exact h j k a b ha' hb' hpa hpb

/-- A slot may be added that does not meet `p`. -/
theorem AtMostOne.add (h : AtMostOne p l) (hx : ¬ p x) : AtMostOne p (l ++ [x]) := by
  intro i j a b ha hb hpa hpb
  rcases of_concat ha with ⟨-, rfl⟩ | ha
  · exact absurd hpa hx
  · rcases of_concat hb with ⟨-, rfl⟩ | hb
    · exact absurd hpb hx
    · exact h i j a b ha hb hpa hpb

/-- A slot may be replaced by any value when none meets `p`. -/
theorem AtMostOne.set_of_none (h : ∀ (j : ℕ) (z : α), l[j]? = some z → ¬ p z) :
    AtMostOne p (l.set i y) := by
  intro j k a b ha hb hpa hpb
  rcases of_set ha with ⟨rfl, -⟩ | ⟨-, ha'⟩
  · rcases of_set hb with ⟨rfl, -⟩ | ⟨-, hb'⟩
    · rfl
    · exact absurd hpb (h k b hb')
  · exact absurd hpa (h j a ha')

/-- When no slot meets `p` after one is replaced by `x`, none did before unless it is that one. -/
theorem none_of_set (h : ∀ (j : ℕ) (z : α), (l.set i x)[j]? = some z → ¬ p z) (hi : l[i]? = some y)
    (hy : ¬ p y) : ∀ (j : ℕ) (z : α), l[j]? = some z → ¬ p z := by
  intro j z hj
  by_cases hij : i = j
  · subst hij
    rw [hi] at hj
    exact Option.some.inj hj ▸ hy
  · refine h j z ?_
    rwa [List.getElem?_set_ne hij]

/-- A slot may be added when no other meets `p`. -/
theorem AtMostOne.concat (h : ∀ (j : ℕ) (z : α), l[j]? = some z → ¬ p z) :
    AtMostOne p (l ++ [x]) := by
  intro i j a b ha hb hpa hpb
  rcases of_concat ha with ⟨hi, -⟩ | ha
  · rcases of_concat hb with ⟨hj, -⟩ | hb
    · rw [hi, hj]
    · exact absurd hpb (h j b hb)
  · exact absurd hpa (h i a ha)

/-- A slot that is replaced by one with the same key keeps the keys. -/
theorem filterMap_set {β : Type v} {g : α → Option β} (h : l[i]? = some y) (hg : g x = g y) :
    (l.set i x).filterMap g = l.filterMap g := by
  induction l generalizing i with
  | nil => cases h
  | cons a l ih =>
    cases i with
    | zero =>
      obtain rfl := Option.some.inj h
      rw [List.set_cons_zero, List.filterMap_cons, List.filterMap_cons, hg]
    | succ i => rw [List.set_cons_succ, List.filterMap_cons, List.filterMap_cons, ih h]

end Slots
