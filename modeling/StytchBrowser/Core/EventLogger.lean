import Mathlib.Data.Nat.Notation
import StytchBrowser.Lib.Machine

/-!
# The event logger

An `EventLogger` collects events in a batch and hands the batch over for submission when it is full,
when its interval timer fires, and when it is flushed. What becomes of a submission does not matter to
it: errors are ignored, and `flush` replaces the batch before it waits for anything.

`Run` is a logger with the submissions that it has made, oldest first.
-/

namespace StytchBrowser.Core

universe u v

/-- `EventLogger`, for telemetry data `τ` and events `ε`. -/
structure EventLogger (τ : Type u) (ε : Type v) where
  maxBatchSize : ℕ
  logEventURL : String
  batch : List (τ × ε)

namespace EventLogger

variable {τ : Type u} {ε : Type v}

/-- What `flush` submits. -/
structure Submission (τ : Type u) (ε : Type v) where
  url : String
  batchToSubmit : List (τ × ε)

/-- The constructor, whose interval timer calls `flush`. -/
def new (maxBatchSize : ℕ) (logEventURL : String) : EventLogger τ ε := ⟨maxBatchSize, logEventURL, []⟩

/-- `flush`. -/
def flush (el : EventLogger τ ε) : EventLogger τ ε × Option (Submission τ ε) :=
  if el.batch = [] then (el, none)
  else ({ el with batch := [] }, some ⟨el.logEventURL, el.batch⟩)

/-- `logEvent`. -/
def logEvent (telemetry : τ) (event : ε) (el : EventLogger τ ε) :
    EventLogger τ ε × Option (Submission τ ε) :=
  let el := { el with batch := el.batch ++ [(telemetry, event)] }
  if el.maxBatchSize ≤ el.batch.length then el.flush else (el, none)

/-- What can happen to a logger. -/
inductive Action (τ : Type u) (ε : Type v) where
  | logEvent (telemetry : τ) (event : ε)
  | flush
  /-- The interval timer fires. -/
  | timer

/-- What a logger does. -/
def act (el : EventLogger τ ε) : Action τ ε → EventLogger τ ε × Option (Submission τ ε)
  | .logEvent telemetry event => el.logEvent telemetry event
  | .flush => el.flush
  | .timer => el.flush

/-- The events that an action logs. -/
def Action.logged : Action τ ε → List (τ × ε)
  | .logEvent telemetry event => [(telemetry, event)]
  | .flush => []
  | .timer => []

/-- A logger and its submissions. -/
structure Run (τ : Type u) (ε : Type v) where
  logger : EventLogger τ ε
  submitted : List (Submission τ ε)

/-- The runs of a logger. -/
def runs (maxBatchSize : ℕ) (logEventURL : String) : Machine (Run τ ε) (Action τ ε) where
  init r := r = ⟨new maxBatchSize logEventURL, []⟩
  next r a := some ⟨(r.logger.act a).1, r.submitted ++ (r.logger.act a).2.toList⟩

/-! ## One action -/

/-- What a submission takes out of the batch. -/
def taken (s : Option (Submission τ ε)) : List (τ × ε) :=
  s.toList.flatMap Submission.batchToSubmit

theorem flush_conserves (el : EventLogger τ ε) :
    taken el.flush.2 ++ el.flush.1.batch = el.batch := by
  unfold flush
  split_ifs with hb
  · exact List.nil_append _
  · simp [taken]

/-- An action moves events from the batch to a submission and appends what it logs. -/
theorem act_conserves (el : EventLogger τ ε) (a : Action τ ε) :
    taken (el.act a).2 ++ (el.act a).1.batch = el.batch ++ a.logged := by
  cases a with
  | logEvent telemetry event =>
    dsimp only [act, logEvent]
    split_ifs with hmax
    · rw [flush_conserves]
      rfl
    · rfl
  | flush => exact (flush_conserves el).trans (List.append_nil _).symm
  | timer => exact (flush_conserves el).trans (List.append_nil _).symm

theorem flush_maxBatchSize (el : EventLogger τ ε) : el.flush.1.maxBatchSize = el.maxBatchSize := by
  unfold flush
  split_ifs <;> rfl

theorem act_maxBatchSize (el : EventLogger τ ε) (a : Action τ ε) :
    (el.act a).1.maxBatchSize = el.maxBatchSize := by
  cases a with
  | logEvent telemetry event =>
    dsimp only [act, logEvent]
    split_ifs
    · exact flush_maxBatchSize _
    · rfl
  | flush => exact flush_maxBatchSize el
  | timer => exact flush_maxBatchSize el

theorem flush_batch (el : EventLogger τ ε) : el.flush.1.batch = [] := by
  unfold flush
  split_ifs with hb
  · exact hb
  · rfl

/-- The batch stays below the limit. -/
theorem act_length_lt {el : EventLogger τ ε} (h : el.batch.length < el.maxBatchSize)
    (a : Action τ ε) : (el.act a).1.batch.length < el.maxBatchSize := by
  have hflush : ∀ e : EventLogger τ ε, e.flush.1.batch.length < el.maxBatchSize := by
    intro e
    rw [flush_batch, List.length_nil]
    omega
  cases a with
  | logEvent telemetry event =>
    dsimp only [act, logEvent]
    split_ifs with hmax
    · exact hflush _
    · dsimp only at hmax ⊢
      omega
  | flush => exact hflush el
  | timer => exact hflush el

theorem flush_submission {el : EventLogger τ ε} {s : Submission τ ε} (hs : el.flush.2 = some s) :
    s.batchToSubmit = el.batch ∧ el.batch ≠ [] := by
  unfold flush at hs
  split_ifs at hs with hb
  obtain rfl := Option.some.inj hs
  exact ⟨rfl, hb⟩

/-- What is submitted is not empty and within the limit. -/
theorem act_submission {el : EventLogger τ ε} (h : el.batch.length < el.maxBatchSize)
    {a : Action τ ε} {s : Submission τ ε} (hs : (el.act a).2 = some s) :
    s.batchToSubmit ≠ [] ∧ s.batchToSubmit.length ≤ el.maxBatchSize := by
  cases a with
  | logEvent telemetry event =>
    dsimp only [act, logEvent] at hs
    split_ifs at hs with hmax
    obtain ⟨hb, hne⟩ := flush_submission hs
    rw [hb]
    refine ⟨hne, ?_⟩
    rw [List.length_append, List.length_singleton]
    omega
  | flush | timer =>
    obtain ⟨hb, hne⟩ := flush_submission hs
    rw [hb]
    exact ⟨hne, by omega⟩

/-! ## Runs -/

/-- What holds of every run: no event is lost, repeated or moved, and every batch fits. -/
structure Conserves (maxBatchSize : ℕ) (h : List (Action τ ε)) (r : Run τ ε) : Prop where
  limit : r.logger.maxBatchSize = maxBatchSize
  below : r.logger.batch.length < maxBatchSize
  /-- The submitted batches and then the buffered events are the events logged. -/
  events : r.submitted.flatMap Submission.batchToSubmit ++ r.logger.batch =
    h.reverse.flatMap Action.logged
  fits : ∀ s ∈ r.submitted, s.batchToSubmit ≠ [] ∧ s.batchToSubmit.length ≤ maxBatchSize

theorem conserves_of_reach {maxBatchSize : ℕ} (hmax : 1 ≤ maxBatchSize) {logEventURL : String}
    {h : List (Action τ ε)} {r : Run τ ε}
    (hr : (runs maxBatchSize logEventURL).Reach Machine.anyStep h r) :
    Conserves maxBatchSize h r := by
  refine hr.invariant (I := Conserves maxBatchSize) ?_ ?_
  · rintro _ rfl
    exact ⟨rfl, hmax, rfl, fun s hs => absurd hs List.not_mem_nil⟩
  · rintro h r a _ hi - hn
    obtain rfl := Option.some.inj hn
    have hlt : r.logger.batch.length < r.logger.maxBatchSize := hi.limit ▸ hi.below
    constructor
    · exact (act_maxBatchSize r.logger a).trans hi.limit
    · exact hi.limit ▸ act_length_lt hlt a
    · calc (r.submitted ++ (r.logger.act a).2.toList).flatMap Submission.batchToSubmit ++
            (r.logger.act a).1.batch
          = r.submitted.flatMap Submission.batchToSubmit ++
              (taken (r.logger.act a).2 ++ (r.logger.act a).1.batch) := by
            rw [List.flatMap_append, List.append_assoc]
            rfl
        _ = (r.submitted.flatMap Submission.batchToSubmit ++ r.logger.batch) ++ a.logged := by
            rw [act_conserves, List.append_assoc]
        _ = (a :: h).reverse.flatMap Action.logged := by
            rw [hi.events, List.reverse_cons, List.flatMap_append, List.flatMap_singleton]
    · intro s hs
      rcases List.mem_append.1 hs with hs | hs
      · exact hi.fits s hs
      · exact hi.limit ▸ act_submission hlt (Option.mem_toList.1 hs)

/-- Over every run the submitted batches followed by the buffered events are the events logged, in
their order, and every submitted batch has between one and `maxBatchSize` events. -/
theorem logger_conserves_events {maxBatchSize : ℕ} (hmax : 1 ≤ maxBatchSize) (logEventURL : String)
    (h : List (Action τ ε)) (r : Run τ ε)
    (hr : (runs maxBatchSize logEventURL).Reach Machine.anyStep h r) :
    r.submitted.flatMap Submission.batchToSubmit ++ r.logger.batch =
        h.reverse.flatMap Action.logged ∧
      ∀ s ∈ r.submitted, s.batchToSubmit ≠ [] ∧ s.batchToSubmit.length ≤ maxBatchSize :=
  ⟨(conserves_of_reach hmax hr).events, (conserves_of_reach hmax hr).fits⟩

/-- Three events and a timer with batches of two. -/
theorem logger_conserves_three_events :
    ∃ r : Run Unit ℕ, (runs 2 "/events").Reach Machine.anyStep
        [.timer, .logEvent () 3, .logEvent () 2, .logEvent () 1] r ∧
      r.submitted.flatMap Submission.batchToSubmit ++ r.logger.batch = [((), 1), ((), 2), ((), 3)] := by
  obtain ⟨r, hr⟩ : ∃ r : Run Unit ℕ, (runs 2 "/events").Reach Machine.anyStep
      [.timer, .logEvent () 3, .logEvent () 2, .logEvent () 1] r :=
    ⟨_, Machine.reach_of_exec rfl rfl⟩
  exact ⟨r, hr, (logger_conserves_events (by decide) "/events" _ r hr).1⟩

end EventLogger

end StytchBrowser.Core
