import Mathlib.Data.List.Induction
import Mathlib.Data.List.Nodup
import Mathlib.Data.Nat.Notation
import Mathlib.Tactic.SplitIfs

/-!
# Sets in insertion order

A set whose members are listed in the order in which they were first added: a member that is added
again stays where it is. `ofList l` adds the elements of `l` one after the other, so it lists each
of them once (`nodup_ofList`) in the order of the first occurrences in `l` (`pairwise_ofList`).
-/

universe u v

namespace InsertionOrder

variable {α : Type u} {β : Type v} [DecidableEq α]

/-- `s` with the member `a`. -/
def add (s : List α) (a : α) : List α := if a ∈ s then s else s ++ [a]

/-- The elements of a list as a set. -/
def ofList (l : List α) : List α := l.foldl add []

theorem add_of_mem {s : List α} {a : α} (h : a ∈ s) : add s a = s := if_pos h

theorem add_of_notMem {s : List α} {a : α} (h : a ∉ s) : add s a = s ++ [a] := if_neg h

@[simp]
theorem mem_add {s : List α} {a b : α} : b ∈ add s a ↔ b ∈ s ∨ b = a := by
  unfold add
  split_ifs with h
  · constructor
    · exact Or.inl
    · rintro (hb | rfl)
      · exact hb
      · exact h
  · rw [List.mem_append, List.mem_singleton]

theorem ofList_append (l r : List α) : ofList (l ++ r) = r.foldl add (ofList l) :=
  List.foldl_append

theorem ofList_concat (l : List α) (a : α) : ofList (l ++ [a]) = add (ofList l) a :=
  ofList_append l [a]

@[simp]
theorem mem_ofList {l : List α} {a : α} : a ∈ ofList l ↔ a ∈ l := by
  induction l using List.reverseRecOn with
  | nil => rfl
  | append_singleton l b ih => rw [ofList_concat, mem_add, ih, List.mem_append, List.mem_singleton]

/-- The members stand in the order of their first occurrences. -/
theorem pairwise_ofList (l : List α) : (ofList l).Pairwise fun a b => l.idxOf a < l.idxOf b := by
  induction l using List.reverseRecOn with
  | nil => exact List.Pairwise.nil
  | append_singleton l c ih =>
    have hold : ∀ a ∈ ofList l, (l ++ [c]).idxOf a = l.idxOf a := fun a ha =>
      List.idxOf_append_of_mem (mem_ofList.1 ha)
    have hmembers : (ofList l).Pairwise fun a b => (l ++ [c]).idxOf a < (l ++ [c]).idxOf b := by
      refine ih.imp_of_mem fun {a b} ha hb hlt => ?_
      rw [hold a ha, hold b hb]
      exact hlt
    rw [ofList_concat]
    by_cases hc : c ∈ ofList l
    · rw [add_of_mem hc]
      exact hmembers
    · rw [add_of_notMem hc, List.pairwise_append]
      refine ⟨hmembers, List.pairwise_singleton _ _, fun a ha b hb => ?_⟩
      -- the new member first occurs at the end
      obtain rfl := List.mem_singleton.1 hb
      have hb : b ∉ l := fun h => hc (mem_ofList.2 h)
      rw [hold a ha, List.idxOf_append_of_notMem hb, List.idxOf_cons_self]
      have := List.idxOf_lt_length_of_mem (mem_ofList.1 ha)
      omega

theorem nodup_ofList (l : List α) : (ofList l).Nodup :=
  (pairwise_ofList l).imp fun h e => absurd (e ▸ h) (Nat.lt_irrefl _)

/-! ## Elements that add nothing -/

/-- An element that occurred before adds nothing. -/
theorem ofList_insert_of_mem {l : List α} {a : α} (h : a ∈ l) (r : List α) :
    ofList (l ++ a :: r) = ofList (l ++ r) := by
  rw [ofList_append, List.foldl_cons, add_of_mem (mem_ofList.2 h), ← ofList_append]

/-- Neither does an element right before its occurrence. -/
theorem ofList_insert_cons (l : List α) (a : α) (r : List α) :
    ofList (l ++ a :: a :: r) = ofList (l ++ a :: r) := by
  rw [List.append_cons l a (a :: r), List.append_cons l a r]
  exact ofList_insert_of_mem (List.mem_append_right l (List.mem_singleton_self a)) r

/-- Nor does one that is put in anywhere from its first occurrence on. -/
theorem ofList_insert {l : List α} {a : α} {n : ℕ} (hn : l.idxOf a ≤ n) (h : a ∈ l) :
    ofList (l.take n ++ a :: l.drop n) = ofList l := by
  have hlen := List.idxOf_lt_length_of_mem h
  rcases Nat.lt_or_eq_of_le hn with hlt | rfl
  · have hmem : a ∈ l.take n := by
      rw [List.mem_take_iff_getElem]
      refine ⟨l.idxOf a, by omega, List.getElem_idxOf hlen⟩
    rw [ofList_insert_of_mem hmem, List.take_append_drop]
  · rw [List.drop_eq_getElem_cons hlen, List.getElem_idxOf hlen, ofList_insert_cons]
    conv_rhs => rw [← List.take_append_drop (l.idxOf a) l, List.drop_eq_getElem_cons hlen,
      List.getElem_idxOf hlen]

theorem foldl_add_of_forall {a : α} {l : List α} (h : ∀ b ∈ l, b = a) (hl : l ≠ []) (s : List α) :
    l.foldl add s = add s a := by
  induction l generalizing s with
  | nil => exact absurd rfl hl
  | cons b l ih =>
    obtain rfl := h b List.mem_cons_self
    rw [List.foldl_cons]
    cases l with
    | nil => rfl
    | cons c l =>
      rw [ih (fun d hd => h d (List.mem_cons_of_mem b hd)) (List.cons_ne_nil _ _)]
      exact add_of_mem (mem_add.2 (.inr rfl))

/-- Where every element is replaced by copies of itself, the members without copies are left out. -/
theorem ofList_flatMap {g : α → List α} {l : List α} (h : ∀ a ∈ l, ∀ b ∈ g a, b = a) :
    ofList (l.flatMap g) = (ofList l).filter (g · ≠ []) := by
  induction l using List.reverseRecOn with
  | nil => rfl
  | append_singleton l a ih =>
    have hl := ih fun b hb => h b (List.mem_append_left _ hb)
    rw [List.flatMap_append, List.flatMap_singleton, ofList_append, ofList_concat, hl]
    by_cases hg : g a = []
    · rw [hg, List.foldl_nil]
      by_cases ha : a ∈ ofList l
      · rw [add_of_mem ha]
      · rw [add_of_notMem ha, List.filter_append, List.filter_cons_of_neg (by simp [hg])]
        rw [List.filter_nil, List.append_nil]
    · rw [foldl_add_of_forall (h a (List.mem_append_right _ (List.mem_singleton_self a))) hg]
      by_cases ha : a ∈ ofList l
      · rw [add_of_mem ha, add_of_mem (List.mem_filter.2 ⟨ha, by simpa using hg⟩)]
      · rw [add_of_notMem ha, add_of_notMem fun hmem => ha (List.mem_filter.1 hmem).1,
          List.filter_append, List.filter_cons_of_pos (by simpa using hg), List.filter_nil]

/-! ## Images -/

/-- What is mapped to an element first occurs no earlier than the element. -/
theorem idxOf_filterMap_le [DecidableEq β] (f : α → Option β) {l : List α} {a : α} {b : β}
    (hb : f a = some b) (ha : a ∈ l) : (l.filterMap f).idxOf b ≤ l.idxOf a := by
  induction l with
  | nil => exact absurd ha List.not_mem_nil
  | cons c l ih =>
    by_cases hc : c = a
    · subst hc
      rw [List.filterMap_cons_some hb, List.idxOf_cons_self]
      exact Nat.zero_le _
    · have ha := ih ((List.mem_cons.1 ha).resolve_left (Ne.symm hc))
      rw [List.idxOf_cons_ne _ hc]
      cases hfc : f c with
      | none =>
        rw [List.filterMap_cons_none hfc]
        omega
      | some d =>
        rw [List.filterMap_cons_some hfc]
        by_cases hd : d = b
        · rw [hd, List.idxOf_cons_self]
          exact Nat.zero_le _
        · rw [List.idxOf_cons_ne _ hd]
          omega

omit [DecidableEq α] in
/-- Mapped elements first occur in the order of the elements that are first mapped to them. -/
theorem findIdx_lt_of_idxOf_filterMap_lt [DecidableEq β] (f : α → Option β) {l : List α} {b c : β}
    (h : (l.filterMap f).idxOf b < (l.filterMap f).idxOf c) :
    l.findIdx (fun a => f a = some b) < l.findIdx fun a => f a = some c := by
  induction l with
  | nil => exact absurd h (Nat.lt_irrefl _)
  | cons a l ih =>
    rw [List.findIdx_cons, List.findIdx_cons]
    cases ha : f a with
    | none =>
      rw [List.filterMap_cons_none ha] at h
      exact Nat.succ_lt_succ (ih h)
    | some d =>
      rw [List.filterMap_cons_some ha] at h
      by_cases hc : d = c
      · rw [hc, List.idxOf_cons_self] at h
        exact absurd h (Nat.not_lt_zero _)
      · rw [List.idxOf_cons_ne _ hc] at h
        by_cases hb : d = b
        · simp [hb, hb ▸ hc]
        · rw [List.idxOf_cons_ne _ hb] at h
          simpa [hb, hc] using ih (Nat.lt_of_succ_lt_succ h)

end InsertionOrder
