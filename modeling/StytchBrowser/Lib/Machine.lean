import Mathlib.Logic.Basic
import Mathlib.Tactic.SplitIfs

/-!
# Guarded runs of a machine

A `Machine` has a set of initial states and a partial `next` function: `next s a = none` when the
action `a` is not enabled in `s`. A *guard* restricts the actions that may be taken, looking at the
history, the state and the action; `Machine.Reach M C h s` says that the history `h` (newest action
first) leads from an initial state to `s`, every step meeting the guard `C`.

* `Reach.invariant`: what holds at the start and is kept by every guarded step holds of every
  history and state reached.
* `Since M C p q h s`: a run to `s` in which a step meeting `p` was taken and no step meeting `q`
  since; `Since.invariant` is its induction rule.
* `exec`, `reach_of_exec`: running the actions of a history reaches the state it computes.
-/

universe u v

/-- A machine over states `σ` and labelled actions `α`. -/
structure Machine (σ : Type u) (α : Type v) where
  /-- The states a run may start in. -/
  init : σ → Prop
  /-- What an action does, `none` when it is not enabled. -/
  next : σ → α → Option σ

namespace Machine

variable {σ : Type u} {α : Type v}

/-- A guard on the steps of a run. -/
abbrev Guard (σ : Type u) (α : Type v) := List α → σ → α → Prop

/-- The guard that admits every step. -/
def anyStep : Guard σ α := fun _ _ _ => True

/-- The histories (newest action first) and states of the runs whose steps all meet `C`. -/
inductive Reach (M : Machine σ α) (C : Guard σ α) : List α → σ → Prop where
  | start {s : σ} : M.init s → Reach M C [] s
  | step {h : List α} {s s' : σ} {a : α} :
      Reach M C h s → C h s a → M.next s a = some s' → Reach M C (a :: h) s'

variable {M : Machine σ α} {C : Guard σ α}

/-- The induction rule of runs. -/
theorem Reach.invariant {I : List α → σ → Prop} (hinit : ∀ s, M.init s → I [] s)
    (hstep : ∀ h s a s', I h s → C h s a → M.next s a = some s' → I (a :: h) s')
    {h : List α} {s : σ} (hr : Reach M C h s) : I h s := by
  induction hr with
  | start h0 => exact hinit _ h0
  | step _ hc hn ih => exact hstep _ _ _ _ ih hc hn

/-! ## What holds since an event -/

variable (M C) in
/-- The runs in which a step meeting `p` was taken and no step meeting `q` since. -/
inductive Since (p q : σ → α → Prop) : List α → σ → Prop where
  | now {h : List α} {s s' : σ} {a : α} :
      Reach M C h s → C h s a → M.next s a = some s' → p s a → Since p q (a :: h) s'
  | later {h : List α} {s s' : σ} {a : α} :
      Since p q h s → C h s a → M.next s a = some s' → ¬ q s a → Since p q (a :: h) s'

variable {p q : σ → α → Prop}

theorem Since.reach {h : List α} {s : σ} (hs : Since M C p q h s) : Reach M C h s := by
  induction hs with
  | now hr hc hn _ => exact hr.step hc hn
  | later _ hc hn _ ih => exact ih.step hc hn

/-- What a `p`-step establishes and every step but a `q`-step keeps, holds since the `p`-step. -/
theorem Since.invariant {J : σ → Prop}
    (hp : ∀ h s a s', Reach M C h s → C h s a → M.next s a = some s' → p s a → J s')
    (hq : ∀ h s a s', Since M C p q h s → J s → C h s a → M.next s a = some s' → ¬ q s a → J s')
    {h : List α} {s : σ} (hs : Since M C p q h s) : J s := by
  induction hs with
  | now hr hc hn h => exact hp _ _ _ _ hr hc hn h
  | later hs hc hn h ih => exact hq _ _ _ _ hs ih hc hn h

/-! ## Running a list of actions -/

variable (M) in
/-- Run a list of actions, oldest first. -/
def exec : σ → List α → Option σ
  | s, [] => some s
  | s, a :: as => (M.next s a).bind fun s' => exec s' as

theorem Reach.exec {h : List α} {s t : σ} (hr : Reach M Machine.anyStep h s) {as : List α}
    (he : M.exec s as = some t) : Reach M Machine.anyStep (as.reverse ++ h) t := by
  induction as generalizing h s with
  | nil =>
    obtain rfl := Option.some.inj he
    exact hr
  | cons a as ih =>
    obtain ⟨s', hs', he⟩ := Option.bind_eq_some_iff.1 he
    rw [List.reverse_cons, List.append_assoc]
    exact ih (hr.step trivial hs') he

/-- The state that a history computes is reached with it. -/
theorem reach_of_exec {s t : σ} (h0 : M.init s) {h : List α}
    (he : M.exec s h.reverse = some t) : Reach M anyStep h t := by
  simpa using (Reach.start h0).exec he

end Machine
