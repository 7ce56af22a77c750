import Mathlib.Data.List.Basic
import Mathlib.Tactic.SplitIfs

/-!
# Debounced functions

Each call of a debounced function clears its timer and sets it anew, so that the function is invoked
with the arguments of the last call, once no call has come for `waitFor`. A timer fires when it is
due or later.

* `Spaced`: two invocations are at least `waitFor` apart, and a timer that is set is not due before
  that. Calls, the passing of time and the firing of the timer keep it.
-/

universe u

/-- A debounced function: the time, the timer with the time it is due and the arguments, and the
invocations, newest first. -/
structure Debounced (α : Type u) where
  now : ℕ := 0
  timeout : Option (ℕ × α) := none
  invoked : List (ℕ × α) := []

namespace Debounced

variable {α : Type u} {waitFor : ℕ} {d d' : Debounced α}

/-- A call: `clearTimeout` and `setTimeout`. -/
def call (waitFor : ℕ) (args : α) (d : Debounced α) : Debounced α :=
  { d with timeout := some (d.now + waitFor, args) }

def wait (n : ℕ) (d : Debounced α) : Debounced α := { d with now := d.now + n }

/-- The timer fires: the arguments of the invocation. -/
def fire (d : Debounced α) : Option (α × Debounced α) :=
  match d.timeout with
  | none => none
  | some (due, args) =>
      if due ≤ d.now then
        some (args, { d with timeout := none, invoked := (d.now, args) :: d.invoked })
      else none

theorem fire_eq_some {args : α} (h : d.fire = some (args, d')) : ∃ due, d.timeout = some (due, args) ∧
    due ≤ d.now ∧ d' = { d with timeout := none, invoked := (d.now, args) :: d.invoked } := by
  unfold fire at h
  split at h
  · cases h
  · next due args' htimeout =>
    split_ifs at h with hdue
    obtain ⟨rfl, rfl⟩ := Prod.mk.inj (Option.some.inj h)
    exact ⟨due, htimeout, hdue, rfl⟩

/-- Invocations are at least `waitFor` apart. -/
structure Spaced (waitFor : ℕ) (d : Debounced α) : Prop where
  pairwise : d.invoked.Pairwise fun later earlier => earlier.1 + waitFor ≤ later.1
  past : ∀ e ∈ d.invoked, e.1 ≤ d.now
  due : ∀ e ∈ d.invoked, ∀ t ∈ d.timeout, e.1 + waitFor ≤ t.1

theorem spaced_new (now : ℕ) : Spaced waitFor ({ now := now } : Debounced α) :=
  ⟨.nil, by simp, by simp⟩

theorem Spaced.call (h : Spaced waitFor d) (args : α) : Spaced waitFor (d.call waitFor args) := by
  refine ⟨h.pairwise, h.past, fun e he t ht => ?_⟩
  obtain rfl := Option.some.inj ht
  exact Nat.add_le_add_right (h.past e he) waitFor

theorem Spaced.wait (h : Spaced waitFor d) (n : ℕ) : Spaced waitFor (d.wait n) :=
  ⟨h.pairwise, fun e he => Nat.le_add_right_of_le (h.past e he), h.due⟩

theorem Spaced.fire (h : Spaced waitFor d) {args : α} (hfire : d.fire = some (args, d')) :
    Spaced waitFor d' := by
  obtain ⟨due, htimeout, hdue, rfl⟩ := fire_eq_some hfire
  refine ⟨List.pairwise_cons.2 ⟨fun e he => ?_, h.pairwise⟩, ?_, fun _ _ _ ht => by cases ht⟩
  · exact Nat.le_trans (h.due e he _ htimeout) hdue
  · rintro e (_ | ⟨_, he⟩)
    · exact Nat.le_refl _
    · exact h.past e he

end Debounced
