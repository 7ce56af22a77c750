import Mathlib.Data.List.Basic

/-!
# Requests that are awaited one after another

A list of requests is sent in order, the next one when the one before it has succeeded; the first
failure ends the sending and is what the caller gets. The answers are those of a server of which
nothing is known: the `k`-th request sent gets the `k`-th of them.

`sendAll_cases` says what has been sent and answered.
-/

universe u v

namespace Requests

variable {ρ : Type u} {ε : Type v}

/-- The requests sent, oldest first, and what each was answered. -/
abbrev Log (ρ : Type u) (ε : Type v) := List (ρ × Except ε Unit)

/-- The log after requests that have all succeeded. -/
def allSent (rs : List ρ) : Log ρ ε := rs.map fun r => (r, .ok ())

@[simp] theorem allSent_nil : allSent ([] : List ρ) = ([] : Log ρ ε) := rfl

@[simp] theorem allSent_cons (r : ρ) (rs : List ρ) :
    (allSent (r :: rs) : Log ρ ε) = (r, .ok ()) :: allSent rs := rfl

theorem mem_allSent {rs : List ρ} {x : ρ × Except ε Unit} :
    x ∈ allSent rs ↔ x.1 ∈ rs ∧ x.2 = .ok () := by
  obtain ⟨r, a⟩ := x
  simp only [allSent, List.mem_map, Prod.mk.injEq]
  constructor
  · rintro ⟨r', hr, rfl, rfl⟩
    exact ⟨hr, rfl⟩
  · rintro ⟨hr, rfl⟩
    exact ⟨r, hr, rfl, rfl⟩

variable (answers : ℕ → Except ε Unit)

/-- Send the requests in order until one fails. -/
def sendAll : List ρ → Log ρ ε → Log ρ ε × Except ε Unit
  | [], log => (log, .ok ())
  | r :: rs, log =>
      match answers log.length with
      | .ok () => sendAll rs (log ++ [(r, .ok ())])
      | .error e => (log ++ [(r, .error e)], .error e)

/-- The first `n` answers from the `k`-th on are successes. -/
def Succeed (k n : ℕ) : Prop := ∀ i < n, answers (k + i) = .ok ()

variable {answers}

theorem Succeed.zero (k : ℕ) : Succeed answers k 0 := fun _ hi => absurd hi (Nat.not_lt_zero _)

theorem succeed_succ {k n : ℕ} :
    Succeed answers k (n + 1) ↔ answers k = .ok () ∧ Succeed answers (k + 1) n := by
  constructor
  · intro h
    refine ⟨h 0 n.succ_pos, fun i hi => ?_⟩
    have := h (i + 1) (Nat.succ_lt_succ hi)
    rwa [Nat.add_comm i, ← Nat.add_assoc] at this
  · rintro ⟨h0, h⟩ i hi
    cases i with
    | zero => exact h0
    | succ i =>
      have := h i (Nat.lt_of_succ_lt_succ hi)
      rwa [Nat.add_assoc, Nat.add_comm 1] at this

/-- There is one first failure. -/
theorem Succeed.le_of_error {k m n : ℕ} {e : ε} (hm : Succeed answers k m)
    (hn : answers (k + n) = .error e) : m ≤ n := by
  by_contra hlt
  have hok := hm n (Nat.lt_of_not_le hlt)
  rw [hn] at hok
  cases hok

variable (answers) in
/-- Either all requests succeed, or those before the first failure do and it is the last one sent. -/
theorem sendAll_cases (rs : List ρ) (log : Log ρ ε) :
    (Succeed answers log.length rs.length ∧
        sendAll answers rs log = (log ++ allSent rs, .ok ())) ∨
      ∃ done r rest e, rs = done ++ r :: rest ∧ Succeed answers log.length done.length ∧
        answers (log.length + done.length) = .error e ∧
        sendAll answers rs log = (log ++ allSent done ++ [(r, .error e)], .error e) := by
  induction rs generalizing log with
  | nil => exact .inl ⟨.zero _, by simp [sendAll]⟩
  | cons r rs ih =>
    rw [sendAll]
    cases ha : answers log.length with
    | error e => exact .inr ⟨[], r, rs, e, rfl, .zero _, ha, by simp⟩
    | ok u =>
      have ih := ih (log ++ [(r, .ok ())])
      rw [List.length_append, List.length_singleton] at ih
      rcases ih with ⟨hs, he⟩ | ⟨done, r', rest, e, rfl, hs, hf, he⟩
      · refine .inl ⟨succeed_succ.2 ⟨ha, hs⟩, he.trans ?_⟩
        rw [allSent_cons, List.append_assoc]
        rfl
      · refine .inr ⟨r :: done, r', rest, e, rfl, succeed_succ.2 ⟨ha, hs⟩, ?_, he.trans ?_⟩
        · rw [List.length_cons, ← hf]
          congr 1
          omega
        · simp

theorem sendAll_of_succeed {rs : List ρ} {log : Log ρ ε}
    (h : Succeed answers log.length rs.length) :
    sendAll answers rs log = (log ++ allSent rs, .ok ()) := by
  rcases sendAll_cases answers rs log with
    ⟨-, he⟩ | ⟨done, r, rest, e, rfl, -, hf, -⟩
  · exact he
  · have hle := h.le_of_error hf
    rw [List.length_append, List.length_cons] at hle
    omega

end Requests
