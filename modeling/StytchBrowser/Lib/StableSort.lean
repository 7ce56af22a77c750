import Mathlib.Data.List.Sort

/-!
# What a stable sort forgets

A stable sort by a relation that is total and transitive, but for which different elements may be
tied, keeps tied elements in the order in which they were. So it forgets of a list all but its
elements and the order of tied ones: two lists sort to the same if and only if, for every element,
the elements tied with it are the same in the same order (`insertionSort_eq_iff`).
-/

universe u

namespace StableSort

variable {α : Type u} (r : α → α → Prop) [DecidableRel r]

/-- Neither element has to come before the other. -/
def Tied (a b : α) : Prop := r a b ∧ r b a

instance : DecidableRel (Tied r) := fun _ _ => inferInstanceAs (Decidable (_ ∧ _))

variable {r}

theorem filter_cons_of_tied {a c : α} (h : Tied r c a) (l : List α) :
    (a :: l).filter (Tied r c) = a :: l.filter (Tied r c) :=
  List.filter_cons_of_pos (p := fun b => decide (Tied r c b)) (decide_eq_true h)

theorem filter_cons_of_not_tied {a c : α} (h : ¬Tied r c a) (l : List α) :
    (a :: l).filter (Tied r c) = l.filter (Tied r c) :=
  List.filter_cons_of_neg (p := fun b => decide (Tied r c b)) fun ha => h (of_decide_eq_true ha)

section Transitive

variable [IsTrans α r]

theorem filter_orderedInsert (a c : α) (l : List α) :
    (l.orderedInsert r a).filter (Tied r c) = (a :: l).filter (Tied r c) := by
  induction l with
  | nil => rfl
  | cons b l ih =>
    rw [List.orderedInsert_cons]
    split_ifs with hab
    · rfl
    · by_cases ha : Tied r c a
      · have hb : ¬Tied r c b := fun hb => hab (IsTrans.trans _ _ _ ha.2 hb.1)
        rw [filter_cons_of_not_tied hb, ih, filter_cons_of_tied ha, filter_cons_of_tied ha,
          filter_cons_of_not_tied hb]
      · rw [filter_cons_of_not_tied ha] at ih ⊢
        rw [List.filter_cons, List.filter_cons, ih]

/-- Sorting leaves tied elements in their order. -/
theorem filter_insertionSort (c : α) (l : List α) :
    (l.insertionSort r).filter (Tied r c) = l.filter (Tied r c) := by
  induction l with
  | nil => rfl
  | cons a l ih =>
    rw [List.insertionSort_cons, filter_orderedInsert, List.filter_cons, ih, List.filter_cons]

end Transitive

section Total

variable [Std.Total r]

omit [DecidableRel r] in
theorem tied_self (a : α) : Tied r a a :=
  have h : r a a := (Std.Total.total a a).elim id id
  ⟨h, h⟩

theorem mem_of_filter_eq {l l' : List α} {a : α}
    (h : l.filter (Tied r a) = l'.filter (Tied r a)) (ha : a ∈ l) : a ∈ l' := by
  have hmem : a ∈ l.filter (Tied r a) := List.mem_filter.2 ⟨ha, decide_eq_true (tied_self a)⟩
  rw [h] at hmem
  exact List.mem_of_mem_filter hmem

/-- A sorted list is determined by the order of tied elements. -/
theorem eq_of_filter_tied {s s' : List α} (hs : s.Pairwise r) (hs' : s'.Pairwise r)
    (h : ∀ a, s.filter (Tied r a) = s'.filter (Tied r a)) : s = s' := by
  induction s generalizing s' with
  | nil =>
    cases s' with
    | nil => rfl
    | cons b t' => exact absurd (mem_of_filter_eq (h b).symm List.mem_cons_self) List.not_mem_nil
  | cons a t ih =>
    cases s' with
    | nil => exact absurd (mem_of_filter_eq (h a) List.mem_cons_self) List.not_mem_nil
    | cons b t' =>
      have hab : r a b := by
        rcases List.mem_cons.1 (mem_of_filter_eq (h b).symm List.mem_cons_self) with rfl | hb
        · exact (tied_self _).1
        · exact (List.pairwise_cons.1 hs).1 b hb
      have hba : r b a := by
        rcases List.mem_cons.1 (mem_of_filter_eq (h a) List.mem_cons_self) with rfl | ha
        · exact (tied_self _).1
        · exact (List.pairwise_cons.1 hs').1 a ha
      have hhead := h a
      have htied : Tied r a b := ⟨hab, hba⟩
      rw [filter_cons_of_tied (tied_self a), filter_cons_of_tied htied] at hhead
      obtain ⟨rfl, -⟩ := List.cons.inj hhead
      refine congrArg (a :: ·) (ih hs.of_cons hs'.of_cons fun c => ?_)
      have hc := h c
      rw [List.filter_cons, List.filter_cons] at hc
      split_ifs at hc
      · exact (List.cons.inj hc).2
      · exact hc

variable [IsTrans α r]

theorem insertionSort_eq_iff {l l' : List α} :
    l.insertionSort r = l'.insertionSort r ↔
      ∀ a, l.filter (Tied r a) = l'.filter (Tied r a) := by
  constructor
  · intro h a
    rw [← filter_insertionSort a l, h, filter_insertionSort]
  · intro h
    refine eq_of_filter_tied (List.pairwise_insertionSort r l) (List.pairwise_insertionSort r l')
      fun a => ?_
    rw [filter_insertionSort, filter_insertionSort, h]

end Total

/-- Lists that sort to the same have the same elements. -/
theorem perm_of_insertionSort_eq {l l' : List α} (h : l.insertionSort r = l'.insertionSort r) :
    l.Perm l' :=
  (List.perm_insertionSort r l).symm.trans (h ▸ List.perm_insertionSort r l')

/-- Where all elements are tied, sorting changes nothing. -/
theorem insertionSort_of_tied {l : List α} (h : ∀ a b, r a b) : l.insertionSort r = l :=
  List.Pairwise.insertionSort_eq (List.pairwise_of_forall h)

/-- Where no different elements are tied, lists sort to the same when they have the same elements. -/
theorem insertionSort_eq_iff_perm [Std.Total r] [IsTrans α r] [Std.Antisymm r] {l l' : List α} :
    l.insertionSort r = l'.insertionSort r ↔ l.Perm l' := by
  refine ⟨perm_of_insertionSort_eq, fun h => ?_⟩
  refine List.Perm.eq_of_pairwise (fun a b _ _ hab hba => antisymm hab hba)
    (List.pairwise_insertionSort r l) (List.pairwise_insertionSort r l') ?_
  exact ((List.perm_insertionSort r l).trans h).trans (List.perm_insertionSort r l').symm

end StableSort
