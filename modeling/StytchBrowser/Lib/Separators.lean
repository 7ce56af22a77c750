import Mathlib.Data.List.Infix

/-!
# Separators between elements of two kinds

`separate kind sep l` puts `sep` between any two neighbours of different kinds in `l`. Nothing else
is changed (`filter_separate`), and `separated_separate` says where the separators stand without
reference to the definition.
-/

universe u

namespace Separators

variable {α : Type u} (kind : α → Bool) (sep : α)

/-- What stands between two neighbours. -/
def gap (a b : α) : List α := if kind a = kind b then [] else [sep]

/-- The list with its separators. -/
def separate : List α → List α
  | [] => []
  | [a] => [a]
  | a :: b :: l => a :: (gap kind sep a b ++ separate (b :: l))

/-- Separators stand between elements of different kinds, and between any two of them. -/
structure Separated (l : List α) : Prop where
  /-- A separator is not first or last, and the elements around it are of different kinds. -/
  between : ∀ l₁ l₂, l = l₁ ++ sep :: l₂ → ∃ m₁ a b m₂,
    l₁ = m₁ ++ [a] ∧ l₂ = b :: m₂ ∧ a ≠ sep ∧ b ≠ sep ∧ kind a ≠ kind b
  /-- Neighbours are of one kind. -/
  apart : ∀ l₁ a b l₂, l = l₁ ++ a :: b :: l₂ → a ≠ sep → b ≠ sep → kind a = kind b

variable {kind sep}

theorem gap_of_eq {a b : α} (h : kind a = kind b) : gap kind sep a b = [] := if_pos h

theorem gap_of_ne {a b : α} (h : kind a ≠ kind b) : gap kind sep a b = [sep] := if_neg h

@[simp]
theorem separate_singleton (a : α) : separate kind sep [a] = [a] := rfl

theorem separate_cons_cons (a b : α) (l : List α) :
    separate kind sep (a :: b :: l) = a :: (gap kind sep a b ++ separate kind sep (b :: l)) := rfl

theorem separate_append (l : List α) (a b : α) (r : List α) :
    separate kind sep (l ++ a :: b :: r) =
      separate kind sep (l ++ [a]) ++ (gap kind sep a b ++ separate kind sep (b :: r)) := by
  induction l with
  | nil => rfl
  | cons c l ih =>
    cases l with
    | nil =>
      simp only [separate_cons_cons, separate_singleton, List.cons_append,
        List.append_assoc, List.nil_append]
    | cons d l =>
      simp only [List.cons_append, separate_cons_cons, List.append_assoc] at ih ⊢
      rw [ih]

variable (kind) in
/-- Without its separators the list is as it was. -/
theorem filter_separate [DecidableEq α] {l : List α} (h : sep ∉ l) :
    (separate kind sep l).filter (· ≠ sep) = l := by
  induction l with
  | nil => rfl
  | cons a l ih =>
    obtain ⟨ha, hl⟩ := List.ne_and_not_mem_of_not_mem_cons h
    cases l with
    | nil => simp [Ne.symm ha]
    | cons b l =>
      have hgap : (gap kind sep a b).filter (· ≠ sep) = [] := by
        unfold gap
        split <;> simp
      rw [separate_cons_cons, List.filter_cons_of_pos (by simpa using Ne.symm ha),
        List.filter_append, hgap, List.nil_append, ih hl]

variable (kind sep) in
theorem separate_cons_head (a : α) (l : List α) : ∃ r, separate kind sep (a :: l) = a :: r := by
  cases l <;> exact ⟨_, rfl⟩

/-! ## Where the separators stand -/

theorem Separated.nil : Separated kind sep [] where
  between _ _ h := absurd h.symm (List.append_ne_nil_of_right_ne_nil _ (List.cons_ne_nil _ _))
  apart _ _ _ _ h := absurd h.symm (List.append_ne_nil_of_right_ne_nil _ (List.cons_ne_nil _ _))

theorem Separated.singleton {a : α} (ha : a ≠ sep) : Separated kind sep [a] where
  between l₁ l₂ h := by
    have hsep : sep ∈ [a] := h ▸ List.mem_append_right l₁ List.mem_cons_self
    exact absurd (List.mem_singleton.1 hsep).symm ha
  apart l₁ b c l₂ h := by
    have := congrArg List.length h
    simp at this
    omega

/-- A neighbour of the same kind in front. -/
theorem Separated.cons {a b : α} {l : List α} (h : Separated kind sep (b :: l)) (ha : a ≠ sep)
    (hab : kind a = kind b) : Separated kind sep (a :: b :: l) where
  between l₁ l₂ e := by
    cases l₁ with
    | nil => exact absurd (List.cons.inj e).1 ha
    | cons c l₁ =>
      obtain ⟨m₁, x, y, m₂, rfl, h₂, hxy⟩ := h.between l₁ l₂ (List.cons.inj e).2
      exact ⟨c :: m₁, x, y, m₂, rfl, h₂, hxy⟩
  apart l₁ x y l₂ e hx hy := by
    cases l₁ with
    | nil =>
      obtain ⟨hx, e⟩ := List.cons.inj e
      rw [← hx, ← (List.cons.inj e).1]
      exact hab
    | cons c l₁ => exact h.apart l₁ x y l₂ (List.cons.inj e).2 hx hy

/-- A neighbour of the other kind in front, with a separator. -/
theorem Separated.cons_sep {a b : α} {l : List α} (h : Separated kind sep (b :: l)) (ha : a ≠ sep)
    (hb : b ≠ sep) (hab : kind a ≠ kind b) : Separated kind sep (a :: sep :: b :: l) where
  between l₁ l₂ e := by
    match l₁ with
    | [] => exact absurd (List.cons.inj e).1 ha
    | [c] =>
      obtain ⟨hc, hrest⟩ := List.cons.inj e
      have hl : b :: l = l₂ := (List.cons.inj hrest).2
      exact ⟨[], a, b, l, congrArg (fun x => [x]) hc.symm, hl.symm, ha, hb, hab⟩
    | c :: d :: l₁ =>
      obtain ⟨m₁, x, y, m₂, rfl, h₂, hxy⟩ :=
        h.between l₁ l₂ (List.cons.inj (List.cons.inj e).2).2
      exact ⟨c :: d :: m₁, x, y, m₂, rfl, h₂, hxy⟩
  apart l₁ x y l₂ e hx hy := by
    match l₁ with
    | [] => exact absurd (List.cons.inj (List.cons.inj e).2).1.symm hy
    | [c] => exact absurd (List.cons.inj (List.cons.inj e).2).1.symm hx
    | c :: d :: l₁ => exact h.apart l₁ x y l₂ (List.cons.inj (List.cons.inj e).2).2 hx hy

theorem separated_separate {l : List α} (h : sep ∉ l) : Separated kind sep (separate kind sep l) := by
  induction l with
  | nil => exact Separated.nil
  | cons a l ih =>
    obtain ⟨ha, hl⟩ := List.ne_and_not_mem_of_not_mem_cons h
    cases l with
    | nil => exact Separated.singleton ha.symm
    | cons b l =>
      have hb : b ≠ sep := fun e => hl (e ▸ List.mem_cons_self)
      have hrest := ih hl
      obtain ⟨r, hr⟩ := separate_cons_head kind sep b l
      rw [separate_cons_cons]
      rw [hr] at hrest ⊢
      by_cases hab : kind a = kind b
      · rw [gap_of_eq hab]
        exact hrest.cons ha.symm hab
      · rw [gap_of_ne hab]
        exact hrest.cons_sep ha.symm hb hab

end Separators
