import Mathlib.Data.List.Basic
import Mathlib.Data.List.Pairwise
import Mathlib.Data.Nat.Notation
import Mathlib.Data.List.TakeWhile

/-!
# Patterns with greedy wildcards

A pattern is a list of literals and of runs of one or more elements that meet a test. A *reading* of
a text gives every run its part of the text, from the left end of the text on; what is left of the
text does not matter. A backtracking search takes the readings in the order in which every run takes
as much as it can (`readings`), and tries one place after the other.

* `mem_readings_iff`: the readings are those of the relation `Reads`;
* `head_readings_iff`: the preferred reading is the one that no other one exceeds, where one reading
  exceeds another when it gives more to the first run in which they differ (`Greedier`);
* `search_eq_none_iff`: nothing is found exactly when no place has a reading.
-/

universe u

namespace Wildcards

variable {α : Type u}

/-- A part of a pattern. -/
inductive Part (α : Type u) where
  | literal (a : α)
  /-- One or more elements that meet a test, as many as possible. -/
  | run (p : α → Bool)

/-- The ways in which a run can take its part of a text, the longest first, with what is left. -/
def runs (p : α → Bool) : List α → List (List α × List α)
  | [] => []
  | a :: s =>
      if p a then ((runs p s).map fun r => (a :: r.1, r.2)) ++ [([a], s)] else []

/-- The parts that the runs take. -/
inductive Reads : List (Part α) → List α → List (List α) → Prop where
  | nil (s : List α) : Reads [] s []
  | literal {as : List (Part α)} {s : List α} {w : List (List α)} (a : α) :
      Reads as s w → Reads (.literal a :: as) (a :: s) w
  | run {as : List (Part α)} {s : List α} {w : List (List α)} {p : α → Bool} {part : List α} :
      part ≠ [] → (∀ a ∈ part, p a = true) → Reads as s w →
      Reads (.run p :: as) (part ++ s) (part :: w)

/-- One reading gives more to the first run in which it differs from the other. -/
def Greedier : List (List α) → List (List α) → Prop
  | part :: w, part' :: w' => part'.length < part.length ∨ part = part' ∧ Greedier w w'
  | _, _ => False

theorem Greedier.asymm {w w' : List (List α)} (h : Greedier w w') : ¬ Greedier w' w := by
  induction w generalizing w' with
  | nil => exact fun _ => h
  | cons part w ih =>
    cases w' with
    | nil => exact h.elim
    | cons part' w' =>
      rintro (h' | ⟨rfl, h'⟩)
      · rcases h with h | ⟨rfl, -⟩
        · omega
        · omega
      · rcases h with h | ⟨-, h⟩
        · omega
        · exact ih h h'

/-! ## One run -/

theorem runs_cons (p : α → Bool) (a : α) (s : List α) : runs p (a :: s) =
    if p a then ((runs p s).map fun r => (a :: r.1, r.2)) ++ [([a], s)] else [] := rfl

theorem mem_runs_iff {p : α → Bool} {s : List α} {r : List α × List α} :
    r ∈ runs p s ↔ r.1 ≠ [] ∧ (∀ a ∈ r.1, p a = true) ∧ s = r.1 ++ r.2 := by
  induction s generalizing r with
  | nil =>
    refine iff_of_false List.not_mem_nil ?_
    rintro ⟨hne, -, h⟩
    exact hne (List.append_eq_nil_iff.1 h.symm).1
  | cons a s ih =>
    rw [runs_cons]
    split_ifs with ha
    · rw [List.mem_append, List.mem_map, List.mem_singleton]
      constructor
      · rintro (⟨r', hr', rfl⟩ | rfl)
        · obtain ⟨-, hall, rfl⟩ := ih.1 hr'
          exact ⟨List.cons_ne_nil _ _, List.forall_mem_cons.2 ⟨ha, hall⟩, rfl⟩
        · exact ⟨List.cons_ne_nil _ _, List.forall_mem_singleton.2 ha, rfl⟩
      · obtain ⟨part, rest⟩ := r
        rintro ⟨hne, hall, h⟩
        cases part with
        | nil => exact absurd rfl hne
        | cons b part =>
          obtain ⟨rfl, rfl⟩ := List.cons.inj h
          by_cases hpart : part = []
          · subst hpart
            exact Or.inr rfl
          · exact Or.inl ⟨(part, rest), ih.2 ⟨hpart, (List.forall_mem_cons.1 hall).2, rfl⟩, rfl⟩
    · refine iff_of_false List.not_mem_nil ?_
      rintro ⟨hne, hall, h⟩
      cases hr : r.1 with
      | nil => exact hne hr
      | cons b part =>
        rw [hr] at hall h
        obtain ⟨rfl, -⟩ := List.cons.inj h
        exact ha (hall _ List.mem_cons_self)

theorem pairwise_runs (p : α → Bool) (s : List α) :
    (runs p s).Pairwise fun r r' => r'.1.length < r.1.length := by
  induction s with
  | nil => exact List.Pairwise.nil
  | cons a s ih =>
    rw [runs_cons]
    split_ifs
    · rw [List.pairwise_append, List.pairwise_map]
      refine ⟨ih.imp fun h => Nat.succ_lt_succ h, List.pairwise_singleton _ _, ?_⟩
      intro r hr r' hr'
      obtain ⟨r₀, hr₀, rfl⟩ := List.mem_map.1 hr
      rw [List.mem_singleton.1 hr']
      exact Nat.succ_lt_succ (List.length_pos_iff.2 (mem_runs_iff.1 hr₀).1)
    · exact List.Pairwise.nil

/-! ## Readings -/

variable [DecidableEq α]

/-- The readings of a text, in the order in which a backtracking search takes them. -/
def readings : List (Part α) → List α → List (List (List α))
  | [], _ => [[]]
  | .literal _ :: _, [] => []
  | .literal a :: as, b :: s => if a = b then readings as s else []
  | .run p :: as, s => (runs p s).flatMap fun r => (readings as r.2).map (r.1 :: ·)

theorem readings_nil (s : List α) : readings [] s = [[]] := rfl

theorem readings_literal (a b : α) (as : List (Part α)) (s : List α) :
    readings (.literal a :: as) (b :: s) = if a = b then readings as s else [] := rfl

theorem readings_run (p : α → Bool) (as : List (Part α)) (s : List α) :
    readings (.run p :: as) s = (runs p s).flatMap fun r => (readings as r.2).map (r.1 :: ·) := rfl

theorem mem_readings_iff {as : List (Part α)} {s : List α} {w : List (List α)} :
    w ∈ readings as s ↔ Reads as s w := by
  induction as generalizing s w with
  | nil =>
    rw [readings_nil, List.mem_singleton]
    constructor
    · rintro rfl
      exact .nil s
    · rintro ⟨⟩
      rfl
  | cons part as ih =>
    cases part with
    | literal a =>
      cases s with
      | nil => exact iff_of_false List.not_mem_nil (by rintro ⟨⟩)
      | cons b s =>
        rw [readings_literal]
        split_ifs with hab
        · subst hab
          rw [ih]
          constructor
          · exact Reads.literal a
          · rintro ⟨⟩
            assumption
        · refine iff_of_false List.not_mem_nil ?_
          rintro ⟨⟩
          exact hab rfl
    | run p =>
      rw [readings_run, List.mem_flatMap]
      constructor
      · rintro ⟨r, hr, hw⟩
        obtain ⟨w', hw', rfl⟩ := List.mem_map.1 hw
        obtain ⟨hne, hall, rfl⟩ := mem_runs_iff.1 hr
        exact .run hne hall (ih.1 hw')
      · intro h
        cases h with
        | run hne hall h =>
          exact ⟨(_, _), mem_runs_iff.2 ⟨hne, hall, rfl⟩, List.mem_map_of_mem (ih.2 h)⟩

/-- Every reading comes before those that it exceeds. -/
theorem pairwise_readings (as : List (Part α)) (s : List α) :
    (readings as s).Pairwise Greedier := by
  induction as generalizing s with
  | nil => exact List.pairwise_singleton _ _
  | cons part as ih =>
    cases part with
    | literal a =>
      cases s with
      | nil => exact List.Pairwise.nil
      | cons b s =>
        rw [readings_literal]
        split_ifs
        · exact ih s
        · exact List.Pairwise.nil
    | run p =>
      rw [readings_run, List.pairwise_flatMap]
      constructor
      · intro r _
        rw [List.pairwise_map]
        exact (ih r.2).imp fun h => Or.inr ⟨rfl, h⟩
      · refine (pairwise_runs p s).imp fun h => ?_
        intro w hw w' hw'
        obtain ⟨v, -, rfl⟩ := List.mem_map.1 hw
        obtain ⟨v', -, rfl⟩ := List.mem_map.1 hw'
        exact Or.inl h

/-- The reading that is preferred is the one that no other one exceeds. -/
theorem head_readings_iff {as : List (Part α)} {s : List α} {w : List (List α)} :
    (readings as s).head? = some w ↔ Reads as s w ∧ ∀ w', Reads as s w' → ¬ Greedier w' w := by
  have hpair := pairwise_readings as s
  have hmem : ∀ {v}, v ∈ readings as s ↔ Reads as s v := mem_readings_iff
  cases hl : readings as s with
  | nil =>
    rw [hl] at hmem
    refine iff_of_false (by rintro ⟨⟩) ?_
    rintro ⟨h, -⟩
    exact List.not_mem_nil (hmem.2 h)
  | cons v l =>
    rw [hl] at hpair hmem
    rw [List.pairwise_cons] at hpair
    rw [List.head?_cons, Option.some_inj]
    constructor
    · rintro rfl
      refine ⟨hmem.1 List.mem_cons_self, fun w' hw' hg => ?_⟩
      rcases List.mem_cons.1 (hmem.2 hw') with rfl | hin
      · exact hg.asymm hg
      · exact hg.asymm (hpair.1 w' hin)
    · rintro ⟨hw, hmax⟩
      rcases List.mem_cons.1 (hmem.2 hw) with rfl | hin
      · rfl
      · exact absurd (hpair.1 w hin) (hmax v (hmem.1 List.mem_cons_self))

/-! ## Searching -/

/-- The preferred reading at the first place that has one. -/
def search (as : List (Part α)) : List α → Option (List (List α))
  | [] => (readings as []).head?
  | a :: s => (readings as (a :: s)).head?.or (search as s)

theorem search_cons (as : List (Part α)) (a : α) (s : List α) :
    search as (a :: s) = (readings as (a :: s)).head?.or (search as s) := rfl

theorem head_readings_eq_none {as : List (Part α)} {s : List α} :
    (readings as s).head? = none ↔ ∀ w, ¬ Reads as s w := by
  rw [List.head?_eq_none_iff, List.eq_nil_iff_forall_not_mem]
  exact forall_congr' fun w => not_congr mem_readings_iff

theorem search_eq_none_iff {as : List (Part α)} {s : List α} :
    search as s = none ↔ ∀ t, t <:+ s → ∀ w, ¬ Reads as t w := by
  induction s with
  | nil =>
    refine head_readings_eq_none.trans ?_
    constructor
    · intro h t ht
      rw [List.suffix_nil.1 ht]
      exact h
    · exact fun h => h [] (List.suffix_refl _)
  | cons a s ih =>
    rw [search_cons, Option.or_eq_none_iff, ih, head_readings_eq_none]
    constructor
    · rintro ⟨h, hs⟩ t ht
      rcases List.suffix_cons_iff.1 ht with rfl | ht
      · exact h
      · exact hs t ht
    · intro h
      exact ⟨h _ (List.suffix_refl _), fun t ht => h t (ht.trans (List.suffix_cons a s))⟩

theorem reads_of_search {as : List (Part α)} {s : List α} {w : List (List α)}
    (h : search as s = some w) : ∃ t, t <:+ s ∧ Reads as t w := by
  induction s with
  | nil => exact ⟨[], List.suffix_refl _, (head_readings_iff.1 h).1⟩
  | cons a s ih =>
    rw [search_cons, Option.or_eq_some_iff] at h
    rcases h with h | ⟨-, h⟩
    · exact ⟨_, List.suffix_refl _, (head_readings_iff.1 h).1⟩
    · obtain ⟨t, ht, hr⟩ := ih h
      exact ⟨t, ht.trans (List.suffix_cons a s), hr⟩

/-- A reading at the very beginning is preferred to all others. -/
theorem search_of_reads {as : List (Part α)} {s : List α} {w : List (List α)} (h : Reads as s w) :
    search as s = (readings as s).head? := by
  cases s with
  | nil => rfl
  | cons a s =>
    rw [search_cons]
    cases hr : (readings as (a :: s)).head? with
    | none => exact absurd h (head_readings_eq_none.1 hr w)
    | some v => rfl

end Wildcards
