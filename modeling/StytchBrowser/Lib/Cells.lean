import Mathlib.Data.List.Basic

/-!
# Mutable cells

Values that are shared by reference live in the cells of a heap. `alloc` makes a cell, whose reference
is fresh, and `modify` changes what one cell holds: the cells there were keep their values, but for the
one that is changed. The value of a reference that was never given out is the default one.
-/

/-- The cells, in the order in which they were made. -/
abbrev Heap (α : Type) := List α

/-- The place of a cell. -/
abbrev Ref := ℕ

namespace Heap

variable {α : Type}

/-- What a cell holds. -/
def read [Inhabited α] (heap : Heap α) (ref : Ref) : α := heap.getD ref default

/-- A new cell. -/
def alloc (value : α) : StateM (Heap α) Ref := fun heap => (heap.length, heap ++ [value])

/-- A cell with `f` applied to what it holds. -/
def modify (heap : Heap α) (ref : Ref) (f : α → α) : Heap α := List.modify heap ref f

variable {heap : Heap α} {ref : Ref}

@[simp] theorem length_alloc (value : α) : (alloc value heap).2.length = heap.length + 1 :=
  List.length_append

@[simp] theorem length_modify (f : α → α) : (modify heap ref f).length = heap.length :=
  List.length_modify _ _ _

variable [Inhabited α]

@[simp] theorem read_alloc (value : α) : read (alloc value heap).2 (alloc value heap).1 = value := by
  simp [read, alloc, List.getD]

theorem read_alloc_of_lt (h : ref < heap.length) (value : α) :
    read (alloc value heap).2 ref = read heap ref := by
  rw [read, alloc, List.getD, List.getElem?_append_left h]
  rfl

theorem read_modify (h : ref < heap.length) (f : α → α) :
    read (modify heap ref f) ref = f (read heap ref) := by
  simp [read, modify, List.getD, h]

theorem read_modify_of_ne {ref' : Ref} (h : ref ≠ ref') (f : α → α) :
    read (modify heap ref f) ref' = read heap ref' := by
  simp [read, modify, List.getD, h]

/-- Changing a cell to what it holds changes nothing. -/
theorem modify_of_fixed {f : α → α} (h : f (read heap ref) = read heap ref) :
    modify heap ref f = heap := by
  refine List.ext_getElem? fun i => ?_
  by_cases hi : ref = i
  · subst hi
    cases hget : heap[ref]? with
    | none => simp [modify, hget]
    | some a =>
      have hread : read heap ref = a := by simp [read, List.getD, hget]
      simp [modify, hget, hread ▸ h]
  · simp [modify, hi]

end Heap
