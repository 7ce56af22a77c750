import StytchBrowser.Lib.OrderedMap

/-!
# Items grouped under keys

A map from keys to rows stands for the list of its items, each with the key of its row (`listed`).
Writing a row replaces the items of its key (`listed_set`), so a row to which an item is added adds
this item (`listed_push`).
-/

universe u v w

namespace Grouping

variable {κ : Type u} {α : Type v} {β : Type w} [DecidableEq κ] (items : α → List β)

/-- The items of a row, with its key. -/
def keyed (e : κ × α) : List (κ × β) := (items e.2).map (e.1, ·)

/-- The items of all rows. -/
def listed (m : OrderedMap κ α) : List (κ × β) := m.entries.flatMap (keyed items)

theorem mem_listed {m : OrderedMap κ α} {k : κ} {b : β} :
    (k, b) ∈ listed items m ↔ ∃ row, m.get k = some row ∧ b ∈ items row := by
  simp only [listed, keyed, List.mem_flatMap, List.mem_map, Prod.mk.injEq, OrderedMap.get_eq_some_iff]
  constructor
  · rintro ⟨⟨k', row⟩, he, b', hb, rfl, rfl⟩
    exact ⟨row, he, hb⟩
  · rintro ⟨row, he, hb⟩
    exact ⟨(k, row), he, b, hb, rfl, rfl⟩

theorem listed_set (m : OrderedMap κ α) (k : κ) (row : α) :
    (listed items (m.set k row)).Perm (keyed items (k, row) ++ listed items (m.erase k)) :=
  (m.entries_set_perm k row).flatMap_right (keyed items)

theorem listed_of_get {m : OrderedMap κ α} {k : κ} {row : α} (h : m.get k = some row) :
    (listed items m).Perm (keyed items (k, row) ++ listed items (m.erase k)) := by
  have hset := listed_set items m k row
  rwa [OrderedMap.set_eq_self h] at hset

theorem listed_set_of_none {m : OrderedMap κ α} {k : κ} (h : m.get k = none) (row : α) :
    (listed items (m.set k row)).Perm (keyed items (k, row) ++ listed items m) := by
  have hset := listed_set items m k row
  rwa [OrderedMap.erase_of_get_eq_none h] at hset

omit [DecidableEq κ] in
theorem keyed_append {k : κ} {row row' : α} {b : β} (h : items row' = items row ++ [b]) :
    keyed items (k, row') = keyed items (k, row) ++ [(k, b)] := by
  rw [keyed, keyed, h, List.map_append]
  rfl

/-- An item at the end of the row of its key. -/
theorem listed_push {m : OrderedMap κ α} {k : κ} {row row' : α} {b : β} (hm : m.get k = some row)
    (h : items row' = items row ++ [b]) :
    (listed items (m.set k row')).Perm (listed items m ++ [(k, b)]) := by
  refine (listed_set items m k row').trans ?_
  rw [keyed_append items h, List.append_assoc]
  refine (List.perm_append_comm.append_left _).trans ?_
  rw [← List.append_assoc]
  exact (listed_of_get items hm).symm.append_right _

/-- An item in a new row. -/
theorem listed_push_new {m : OrderedMap κ α} {k : κ} {row : α} {b : β} (hm : m.get k = none)
    (h : items row = [b]) : (listed items (m.set k row)).Perm (listed items m ++ [(k, b)]) := by
  refine (listed_set_of_none items hm row).trans ?_
  rw [keyed, h]
  exact List.perm_append_comm

/-- In a list of rows with distinct keys only one row has a given key. -/
theorem flatMap_of_key {l : List α} {key : α → κ} (hl : (l.map key).Nodup) {row : α} (hrow : row ∈ l)
    (f : α → List β) : (l.flatMap fun row' => if key row' = key row then f row' else []) = f row := by
  induction l with
  | nil => cases hrow
  | cons head l ih =>
    rw [List.map_cons, List.nodup_cons] at hl
    rw [List.flatMap_cons]
    rcases List.mem_cons.1 hrow with rfl | hmem
    · have hrest : (l.flatMap fun row' => if key row' = key row then f row' else []) = [] := by
        refine List.flatMap_eq_nil_iff.2 fun row' hrow' => if_neg fun hkey => hl.1 ?_
        exact hkey ▸ List.mem_map_of_mem hrow'
      rw [if_pos rfl, hrest, List.append_nil]
    · have hne : key head ≠ key row := fun hkey => hl.1 (hkey ▸ List.mem_map_of_mem hmem)
      rw [if_neg hne, List.nil_append]
      exact ih hl.2 hmem

end Grouping
