import Mathlib.Data.List.Basic

/-!
# Programs that ask

A `Dialog` puts questions, goes on with the answers, and ends with a result. Each question `q` has its
own type of answers, `ans q`. `Runs d asked a` says that `d` may put the questions of `asked`, be
answered as it says, and end with `a`.

* `runs_bind`: the runs of one dialog after another.
* `handle` answers each question by a dialog of its own, and `runs_handle` gives its runs.
-/

universe u v w

/-- A program that puts questions of `ρ`, answered in `ans`, and ends in `α`. -/
inductive Dialog (ρ : Type u) (ans : ρ → Type v) (α : Type w) where
  | done (a : α)
  | ask (q : ρ) (next : ans q → Dialog ρ ans α)

namespace Dialog

variable {ρ : Type u} {ans : ρ → Type v} {α β : Type w}

/-- One dialog after another. -/
def bind : Dialog ρ ans α → (α → Dialog ρ ans β) → Dialog ρ ans β
  | done a, f => f a
  | ask q next, f => ask q fun answer => (next answer).bind f

/-- The questions put, each with its answer, oldest first, and the result. -/
def Runs : Dialog ρ ans α → List (Sigma ans) → α → Prop
  | done a, asked, b => asked = [] ∧ b = a
  | ask q next, asked, b => ∃ answer rest, asked = ⟨q, answer⟩ :: rest ∧ (next answer).Runs rest b

variable {d : Dialog ρ ans α} {asked : List (Sigma ans)}

@[simp] theorem runs_done {a b : α} : (done a : Dialog ρ ans α).Runs asked b ↔ asked = [] ∧ b = a :=
  Iff.rfl

@[simp] theorem runs_ask {q : ρ} {next : ans q → Dialog ρ ans α} {b : α} :
    (ask q next).Runs asked b ↔
      ∃ answer rest, asked = ⟨q, answer⟩ :: rest ∧ (next answer).Runs rest b :=
  Iff.rfl

/-- A dialog whose questions can be answered has a run. -/
theorem exists_runs [∀ q, Inhabited (ans q)] (d : Dialog ρ ans α) : ∃ asked b, d.Runs asked b := by
  induction d with
  | done a => exact ⟨[], a, rfl, rfl⟩
  | ask q next ih =>
    obtain ⟨rest, b, h⟩ := ih default
    exact ⟨⟨q, default⟩ :: rest, b, default, rest, rfl, h⟩

/-- One question, with a result for every answer. -/
theorem runs_once {q : ρ} {f : ans q → α} {b : α} :
    (ask q fun answer => done (f answer)).Runs asked b ↔
      ∃ answer, asked = [⟨q, answer⟩] ∧ b = f answer := by
  constructor
  · rintro ⟨answer, rest, rfl, rfl, rfl⟩
    exact ⟨answer, rfl, rfl⟩
  · rintro ⟨answer, rfl, rfl⟩
    exact ⟨answer, [], rfl, rfl, rfl⟩

theorem runs_bind {f : α → Dialog ρ ans β} {b : β} :
    (d.bind f).Runs asked b ↔
      ∃ before after a, asked = before ++ after ∧ d.Runs before a ∧ (f a).Runs after b := by
  induction d generalizing asked with
  | done a =>
    constructor
    · exact fun h => ⟨[], asked, a, rfl, ⟨rfl, rfl⟩, h⟩
    · rintro ⟨before, after, a', rfl, ⟨rfl, rfl⟩, h⟩
      exact h
  | ask q next ih =>
    constructor
    · rintro ⟨answer, rest, rfl, h⟩
      obtain ⟨before, after, a, rfl, hbefore, hafter⟩ := (ih answer).1 h
      exact ⟨⟨q, answer⟩ :: before, after, a, rfl, ⟨answer, before, rfl, hbefore⟩, hafter⟩
    · rintro ⟨before, after, a, rfl, ⟨answer, rest, rfl, hbefore⟩, hafter⟩
      exact ⟨answer, rest ++ after, rfl, (ih answer).2 ⟨rest, after, a, rfl, hbefore, hafter⟩⟩

/-! ### Dialogs that may fail -/

section Except

variable {ε : Type w} {α β : Type w} {ans : ρ → Type v} {asked : List (Sigma ans)}

/-- One dialog after another that did not fail. -/
def andThen (d : Dialog ρ ans (Except ε α)) (f : α → Dialog ρ ans (Except ε β)) :
    Dialog ρ ans (Except ε β) :=
  d.bind fun
    | .ok a => f a
    | .error e => done (.error e)

theorem runs_andThen {d : Dialog ρ ans (Except ε α)} {f : α → Dialog ρ ans (Except ε β)}
    {r : Except ε β} :
    (d.andThen f).Runs asked r ↔ (∃ e, d.Runs asked (.error e) ∧ r = .error e) ∨
      ∃ before after a, asked = before ++ after ∧ d.Runs before (.ok a) ∧ (f a).Runs after r := by
  rw [andThen, runs_bind]
  constructor
  · rintro ⟨before, after, result, rfl, hbefore, hafter⟩
    cases result with
    | ok a => exact .inr ⟨before, after, a, rfl, hbefore, hafter⟩
    | error e =>
      obtain ⟨rfl, rfl⟩ := hafter
      rw [List.append_nil]
      exact .inl ⟨e, hbefore, rfl⟩
  · rintro (⟨e, h, rfl⟩ | ⟨before, after, a, rfl, hbefore, hafter⟩)
    · exact ⟨asked, [], .error e, (List.append_nil asked).symm, h, rfl, rfl⟩
    · exact ⟨before, after, .ok a, rfl, hbefore, hafter⟩

end Except

/-! ### Answering the questions of a dialog -/

section Handle

variable {σ : Type u} {ans : ρ → Type w} {ans' : σ → Type v} {α : Type w}
variable (h : ∀ q, Dialog σ ans' (ans q))

/-- Each question is answered by a dialog. -/
def handle : Dialog ρ ans α → Dialog σ ans' α
  | done a => done a
  | ask q next => (h q).bind fun answer => (next answer).handle

/-- The questions of `asked` are those put to answer the questions of `outer`. -/
inductive Answered : List (Sigma ans) → List (Sigma ans') → Prop where
  | nil : Answered [] []
  | cons {q : ρ} {answer : ans q} {outer : List (Sigma ans)} {part asked : List (Sigma ans')} :
      (h q).Runs part answer → Answered outer asked → Answered (⟨q, answer⟩ :: outer) (part ++ asked)

variable {h}

theorem Answered.append {outer₁ outer₂ : List (Sigma ans)} {asked : List (Sigma ans')}
    (ha : Answered h (outer₁ ++ outer₂) asked) :
    ∃ before after, asked = before ++ after ∧ Answered h outer₁ before ∧ Answered h outer₂ after := by
  induction outer₁ generalizing asked with
  | nil => exact ⟨[], asked, rfl, .nil, ha⟩
  | cons q outer₁ ih =>
    cases ha with
    | cons hpart hrest =>
      obtain ⟨before, after, rfl, hbefore, hafter⟩ := ih hrest
      exact ⟨_ ++ before, after, (List.append_assoc ..).symm, .cons hpart hbefore, hafter⟩

theorem runs_handle {d : Dialog ρ ans α} {asked : List (Sigma ans')} {a : α} :
    (d.handle h).Runs asked a ↔ ∃ outer, d.Runs outer a ∧ Answered h outer asked := by
  induction d generalizing asked with
  | done b =>
    constructor
    · rintro ⟨rfl, rfl⟩
      exact ⟨[], ⟨rfl, rfl⟩, .nil⟩
    · rintro ⟨outer, ⟨rfl, rfl⟩, hasked⟩
      cases hasked
      exact ⟨rfl, rfl⟩
  | ask q next ih =>
    rw [handle, runs_bind]
    constructor
    · rintro ⟨part, after, answer, rfl, hpart, hafter⟩
      obtain ⟨outer, houter, hanswered⟩ := (ih answer).1 hafter
      exact ⟨⟨q, answer⟩ :: outer, ⟨answer, outer, rfl, houter⟩, .cons hpart hanswered⟩
    · rintro ⟨_, ⟨answer, outer, rfl, houter⟩, hasked⟩
      cases hasked with
      | cons hpart hanswered => exact ⟨_, _, answer, rfl, hpart, (ih answer).2 ⟨outer, houter, hanswered⟩⟩

end Handle

end Dialog
