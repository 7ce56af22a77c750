import Mathlib.Data.List.Basic

/-!
# Joining texts and splitting them again

Texts joined with a separator character come back when the result is split at the separator, with
two exceptions: no text at all comes back as one empty text (`split_join`), and a text that contains
the separator never comes back (`not_mem_of_mem_split`).

A text before the first separator is the first part (`split_append`), so two texts joined with one
separator are found again when the first has none.
-/

namespace Splitting

/-- The texts between the separators. -/
def split (sep : Char) (s : String) : List String := (s.toList.splitOn sep).map String.ofList

/-- The texts with a separator between any two. -/
def join (sep : Char) (l : List String) : String := String.intercalate (String.singleton sep) l

variable {sep : Char}

theorem not_mem_of_mem_splitOn {l part : List Char} (h : part ∈ l.splitOn sep) : sep ∉ part := by
  induction l generalizing part with
  | nil =>
    rw [List.splitOn_nil, List.mem_singleton] at h
    rw [h]
    exact List.not_mem_nil
  | cons c l ih =>
    rw [List.splitOn_cons_eq_if_modifyHead] at h
    split_ifs at h with hc
    · rcases List.mem_cons.1 h with rfl | h
      · exact List.not_mem_nil
      · exact ih h
    · cases hs : l.splitOn sep with
      | nil =>
        rw [hs] at h
        cases h
      | cons first rest =>
        rw [hs] at h ih
        rcases List.mem_cons.1 h with rfl | h
        · rw [List.mem_cons, not_or]
          exact ⟨fun he => hc (beq_iff_eq.2 he.symm), ih List.mem_cons_self⟩
        · exact ih (List.mem_cons_of_mem _ h)

theorem not_mem_of_mem_split {s t : String} (h : t ∈ split sep s) : sep ∉ t.toList := by
  obtain ⟨part, hpart, rfl⟩ := List.mem_map.1 h
  rw [String.toList_ofList]
  exact not_mem_of_mem_splitOn hpart

theorem split_join {l : List String} (h : ∀ s ∈ l, sep ∉ s.toList) :
    split sep (join sep l) = if l = [] then [""] else l := by
  rw [split, join, ← String.toList_split_char]
  exact String.toList_split_intercalate h

/-! ## Words -/

/-- The parts that are not empty. -/
def words (sep : Char) (s : String) : List String := (split sep s).filter (· ≠ "")

theorem mem_words {s t : String} (h : t ∈ words sep s) : t ≠ "" ∧ sep ∉ t.toList := by
  obtain ⟨hsplit, hne⟩ := List.mem_filter.1 h
  exact ⟨of_decide_eq_true hne, not_mem_of_mem_split hsplit⟩

theorem words_join {l : List String} (h : ∀ s ∈ l, s ≠ "" ∧ sep ∉ s.toList) : words sep (join sep l) = l := by
  rw [words, split_join fun s hs => (h s hs).2]
  split_ifs with hl
  · subst hl
    rfl
  · exact List.filter_eq_self.2 fun s hs => decide_eq_true (h s hs).1

/-! ## Two texts with one separator -/

theorem split_eq_singleton {s : String} (h : sep ∉ s.toList) : split sep s = [s] := by
  rw [split, List.splitOn_eq_singleton h, List.map_singleton, String.ofList_toList]

/-- What stands before the first separator is the first part. -/
theorem split_append {s : String} (h : sep ∉ s.toList) (t : String) :
    split sep (s ++ String.singleton sep ++ t) = s :: split sep t := by
  rw [split, String.toList_append, String.toList_append, String.toList_singleton, List.append_assoc,
    List.singleton_append, List.splitOn_append_cons_self_of_not_mem h, List.map_cons,
    String.ofList_toList]
  rfl

/-- The first part is the whole text just when there is no separator. -/
theorem head?_split_eq_some {s : String} : (split sep s).head? = some s ↔ sep ∉ s.toList := by
  refine ⟨fun h => not_mem_of_mem_split (List.mem_of_head? h), fun h => ?_⟩
  rw [split_eq_singleton h]
  rfl

/-- Where the first text has no separator, both texts are found again in the joined text. -/
theorem append_inj {s s' t t' : String} (hs : sep ∉ s.toList) (hs' : sep ∉ s'.toList)
    (h : s ++ String.singleton sep ++ t = s' ++ String.singleton sep ++ t') : s = s' ∧ t = t' := by
  have hsplit := congrArg (split sep) h
  rw [split_append hs, split_append hs'] at hsplit
  obtain rfl := (List.cons.inj hsplit).1
  exact ⟨rfl, String.append_right_inj _ |>.1 h⟩

end Splitting
