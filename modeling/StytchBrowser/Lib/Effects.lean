import Mathlib.Data.List.Basic

/-!
# Components with effects

A component has a state, the values of its hooks. What one callback sets is committed together.
After a commit the effects whose dependencies have changed since the commit before run in the order
of their declaration, each on the values that were committed; the updates that they queue make the
next commit, until there are none.

`settle` runs the commits that an update leads to. Its number of commits is bounded by an argument;
`settle_of_quiet` and `settle_of_updates` give the result commit by commit.
-/

universe u v

namespace Effects

variable {σ : Type u} {ω : Type v}

/-- An effect of a component. -/
structure Effect (σ : Type u) (ω : Type v) where
  /-- A dependency is not what it was at the commit before. -/
  due : σ → σ → Bool
  /-- The updates that are queued and the calls that are made, from the values of the render. -/
  run : σ → List (σ → σ) × List ω

variable (effects : List (Effect σ ω))

/-- The updates that the effects of a commit queue. -/
def updates (old new : σ) : List (σ → σ) :=
  effects.flatMap fun e => if e.due old new then (e.run new).1 else []

/-- The calls that the effects of a commit make. -/
def calls (old new : σ) : List ω :=
  effects.flatMap fun e => if e.due old new then (e.run new).2 else []

/-- Apply queued updates. -/
def applyAll (fs : List (σ → σ)) (s : σ) : σ := fs.foldl (fun s f => f s) s

/-- Commit `new` after `old` and go on until nothing is queued, with at most `n` commits: the state
reached and the calls made. -/
def settle : ℕ → σ → σ → Option (σ × List ω)
  | 0, _, _ => none
  | n + 1, old, new =>
      if (updates effects old new).isEmpty then some (new, calls effects old new)
      else (settle n new (applyAll (updates effects old new) new)).map fun r =>
        (r.1, calls effects old new ++ r.2)

variable {effects} {old new : σ} {n : ℕ}

theorem settle_of_quiet (h : updates effects old new = []) :
    settle effects (n + 1) old new = some (new, calls effects old new) := by
  rw [settle, h]
  rfl

theorem settle_of_updates {fs : List (σ → σ)} (h : updates effects old new = fs) (hne : fs ≠ []) :
    settle effects (n + 1) old new =
      (settle effects n new (applyAll fs new)).map fun r => (r.1, calls effects old new ++ r.2) := by
  rw [settle, h, if_neg]
  rwa [List.isEmpty_iff]

/-- A commit whose updates are followed by a commit that does nothing. -/
theorem settle_twice {fs : List (σ → σ)} (h : updates effects old new = fs) (hne : fs ≠ [])
    (hquiet : updates effects new (applyAll fs new) = [] ∧ calls effects new (applyAll fs new) = []) :
    settle effects (n + 2) old new = some (applyAll fs new, calls effects old new) := by
  rw [settle_of_updates h hne, settle_of_quiet hquiet.1, Option.map_some, hquiet.2, List.append_nil]

end Effects
