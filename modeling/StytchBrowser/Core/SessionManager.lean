import Mathlib.Algebra.Group.Int.Defs
import Mathlib.Logic.Function.Basic
import StytchBrowser.Core.SessionClient

/-!
# The session managers of a page

`World ι` holds the session managers `ι` that share the registry of `SessionManager`, with the timer
of each and its loops of `_reauthenticateWithBackoff`. A loop waits for a request in flight, for its
`catch` clause to look at the answer, and for the backoff; once it has ended, the continuation of
`performBackgroundRefresh` (`then` or `catch`) is still to run.

Notifications of the store, calls of the methods, firings of timers and answers to requests are
steps that can come in any order. `timeout` is `some .fired` after the timer has fired, because the
code forgets a handle only when it cancels it.
-/

namespace StytchBrowser.Core.SessionManager

/-- The timer a manager holds a handle of. -/
inductive Timer where
  | pending
  | fired
  deriving DecidableEq

/-- What a request resolves or rejects with. -/
inductive Answer where
  | success
  | error (errorType : Option String)
  deriving DecidableEq

/-- How far a call of `_reauthenticateWithBackoff` is; `count` counts its retries. -/
inductive Loop where
  | inFlight (count : ℕ)
  | answered (count : ℕ) (answer : Answer)
  | sleeping (count : ℕ) (delay : ℤ)
  /-- The loop has returned; the `then` of `performBackgroundRefresh` has not run. -/
  | resolved
  /-- The loop was rejected; the `catch` of `performBackgroundRefresh` has not run. -/
  | rejected
  | settled
  deriving DecidableEq

/-- `timeoutForAttempt`, with its random jitter. -/
def timeoutForAttempt (count : ℕ) (jitter : ℤ) : ℤ := jitter + 2000 * 2 ^ min count 7

/-- The `catch` clause of the loop, or its return. -/
def Loop.resume (jitter : ℤ) (count : ℕ) : Answer → Loop
  | .success => .resolved
  | .error errorType =>
      if isUnrecoverableError errorType then .rejected
      else .sleeping (count + 1) (timeoutForAttempt (count + 1) jitter)

/-- A `SessionManager`; `requests` are the `session_duration_minutes` of the requests it sent. -/
structure Manager where
  publicToken : String
  keepSessionAlive : Bool
  timeout : Option Timer
  lastAuthenticationSessionDuration : Option ℕ
  loops : List Loop
  requests : List (Option ℕ)

/-- The constructor of `SessionManager`. -/
def Manager.new (publicToken : String) (keepSessionAlive : Bool) : Manager :=
  ⟨publicToken, keepSessionAlive, none, none, [], []⟩

/-- A request to `authenticate`. -/
def Manager.authenticate (m : Manager) : Manager :=
  { m with requests :=
      (if m.keepSessionAlive then m.lastAuthenticationSessionDuration else none) :: m.requests }

/-- The managers of a page and their registry. -/
structure World (ι : Type) where
  managers : ι → Manager
  registry : String → Option ι
  hasWarned : Bool

/-- What can happen on a page. -/
inductive Action (ι : Type) where
  | performBackgroundRefresh (i : ι)
  | scheduleBackgroundRefresh (i : ι)
  | cancelBackgroundRefresh (i : ι)
  | onDataChange (i : ι) (notification : Notification)
  | fire (i : ι)
  | answer (i : ι) (k : ℕ) (answer : Answer)
  | resume (i : ι) (k : ℕ) (jitter : ℤ)
  | wake (i : ι) (k : ℕ)
  | andThen (i : ι) (k : ℕ)
  | andCatch (i : ι) (k : ℕ)

/-- The manager an action belongs to. -/
def Action.manager {ι : Type} : Action ι → ι
  | .performBackgroundRefresh i => i
  | .scheduleBackgroundRefresh i => i
  | .cancelBackgroundRefresh i => i
  | .onDataChange i _ => i
  | .fire i => i
  | .answer i _ _ => i
  | .resume i _ _ => i
  | .wake i _ => i
  | .andThen i _ => i
  | .andCatch i _ => i

namespace World

variable {ι : Type} [DecidableEq ι]

def modify (w : World ι) (i : ι) (f : Manager → Manager) : World ι :=
  { w with managers := Function.update w.managers i (f (w.managers i)) }

/-- Replace the `k`th loop of a manager. -/
def setLoop (w : World ι) (i : ι) (k : ℕ) (loop : Loop) : World ι :=
  w.modify i fun m => { m with loops := m.loops.set k loop }

/-- `SessionManagerRegistry.unregister`. -/
def unregister (w : World ι) (i : ι) : World ι :=
  if w.registry (w.managers i).publicToken = some i then
    { w with registry := Function.update w.registry (w.managers i).publicToken none }
  else w

/-- `cancelBackgroundRefresh`. -/
def cancelBackgroundRefresh (w : World ι) (i : ι) : World ι :=
  if (w.managers i).timeout.isSome then
    (w.unregister i).modify i fun m => { m with timeout := none }
  else w

/-- The part of `register` that deals with another manager that is registered. -/
def cancelOther (w : World ι) (i : ι) : World ι :=
  match w.registry (w.managers i).publicToken with
  | some other =>
      if other ≠ i then ({ w with hasWarned := true } : World ι).cancelBackgroundRefresh other else w
  | none => w

/-- `SessionManagerRegistry.register`. -/
def register (w : World ι) (i : ι) : World ι :=
  let w := w.cancelOther i
  { w with registry := Function.update w.registry (w.managers i).publicToken (some i) }

/-- `scheduleBackgroundRefresh`. -/
def scheduleBackgroundRefresh (w : World ι) (i : ι) : World ι :=
  ((w.cancelBackgroundRefresh i).register i).modify i fun m => { m with timeout := some .pending }

/-- `performBackgroundRefresh` up to its first await. -/
def performBackgroundRefresh (w : World ι) (i : ι) : World ι :=
  w.modify i fun m => { m.authenticate with loops := m.loops ++ [.inFlight 0] }

/-- The first statement of `_onDataChange`. -/
def recordDuration (w : World ι) (i : ι) (notification : Notification) : World ι :=
  if notification.state.isSome ∧ notification.sessionDurationMinutes.any (· ≠ 0) then
    w.modify i fun m =>
      { m with lastAuthenticationSessionDuration := notification.sessionDurationMinutes }
  else w

/-- `_onDataChange`. -/
def onDataChange (w : World ι) (i : ι) (notification : Notification) : World ι :=
  if shouldTryRefresh notification.state then
    (w.recordDuration i notification).scheduleBackgroundRefresh i
  else (w.recordDuration i notification).cancelBackgroundRefresh i

/-- One step of a page, `none` when the step is not possible. The `catch` of a rejected refresh
destroys the session, and the store notifies the manager of that. -/
def next (w : World ι) : Action ι → Option (World ι)
  | .performBackgroundRefresh i => some (w.performBackgroundRefresh i)
  | .scheduleBackgroundRefresh i => some (w.scheduleBackgroundRefresh i)
  | .cancelBackgroundRefresh i => some (w.cancelBackgroundRefresh i)
  | .onDataChange i notification => some (w.onDataChange i notification)
  | .fire i =>
      if (w.managers i).timeout = some .pending then
        some ((w.modify i fun m => { m with timeout := some .fired }).performBackgroundRefresh i)
      else none
  | .answer i k answer =>
      match (w.managers i).loops[k]? with
      | some (.inFlight count) => some (w.setLoop i k (.answered count answer))
      | _ => none
  | .resume i k jitter =>
      match (w.managers i).loops[k]? with
      | some (.answered count answer) => some (w.setLoop i k (Loop.resume jitter count answer))
      | _ => none
  | .wake i k =>
      match (w.managers i).loops[k]? with
      | some (.sleeping count _) =>
          some ((w.setLoop i k (.inFlight count)).modify i Manager.authenticate)
      | _ => none
  | .andThen i k =>
      match (w.managers i).loops[k]? with
      | some .resolved => some ((w.setLoop i k .settled).scheduleBackgroundRefresh i)
      | _ => none
  | .andCatch i k =>
      match (w.managers i).loops[k]? with
      | some .rejected => some ((w.setLoop i k .settled).onDataChange i ⟨none, none⟩)
      | _ => none

/-- The steps of a page as a relation. -/
inductive Step (w : World ι) : Action ι → World ι → Prop where
  | performBackgroundRefresh (i : ι) :
      Step w (.performBackgroundRefresh i) (w.performBackgroundRefresh i)
  | scheduleBackgroundRefresh (i : ι) :
      Step w (.scheduleBackgroundRefresh i) (w.scheduleBackgroundRefresh i)
  | cancelBackgroundRefresh (i : ι) :
      Step w (.cancelBackgroundRefresh i) (w.cancelBackgroundRefresh i)
  | onDataChange (i : ι) (notification : Notification) :
      Step w (.onDataChange i notification) (w.onDataChange i notification)
  | fire (i : ι) : (w.managers i).timeout = some .pending → Step w (.fire i)
      ((w.modify i fun m => { m with timeout := some .fired }).performBackgroundRefresh i)
  | answer (i : ι) (k : ℕ) {count : ℕ} {answer : Answer} :
      (w.managers i).loops[k]? = some (.inFlight count) →
      Step w (.answer i k answer) (w.setLoop i k (.answered count answer))
  | resume (i : ι) (k : ℕ) {jitter : ℤ} {count : ℕ} {answer : Answer} :
      (w.managers i).loops[k]? = some (.answered count answer) →
      Step w (.resume i k jitter) (w.setLoop i k (Loop.resume jitter count answer))
  | wake (i : ι) (k : ℕ) {count : ℕ} {delay : ℤ} :
      (w.managers i).loops[k]? = some (.sleeping count delay) →
      Step w (.wake i k) ((w.setLoop i k (.inFlight count)).modify i Manager.authenticate)
  | andThen (i : ι) (k : ℕ) : (w.managers i).loops[k]? = some .resolved →
      Step w (.andThen i k) ((w.setLoop i k .settled).scheduleBackgroundRefresh i)
  | andCatch (i : ι) (k : ℕ) : (w.managers i).loops[k]? = some .rejected →
      Step w (.andCatch i k) ((w.setLoop i k .settled).onDataChange i ⟨none, none⟩)

theorem step_of_next {w w' : World ι} {a : Action ι} (hn : w.next a = some w') : w.Step a w' := by
  cases a with
  | performBackgroundRefresh i =>
    obtain rfl := Option.some.inj hn
    exact .performBackgroundRefresh i
  | scheduleBackgroundRefresh i =>
    obtain rfl := Option.some.inj hn
    exact .scheduleBackgroundRefresh i
  | cancelBackgroundRefresh i =>
    obtain rfl := Option.some.inj hn
    exact .cancelBackgroundRefresh i
  | onDataChange i notification =>
    obtain rfl := Option.some.inj hn
    exact .onDataChange i notification
  | fire i =>
    obtain ⟨hpending, rfl⟩ := Option.ite_some_none_eq_some.1 hn
    exact .fire i hpending
  | answer i k answer =>
    simp only [next] at hn
    split at hn
    · next hk =>
      obtain rfl := Option.some.inj hn
      exact .answer i k hk
    · cases hn
  | resume i k jitter =>
    simp only [next] at hn
    split at hn
    · next hk =>
      obtain rfl := Option.some.inj hn
      exact .resume i k hk
    · cases hn
  | wake i k =>
    simp only [next] at hn
    split at hn
    · next hk =>
      obtain rfl := Option.some.inj hn
      exact .wake i k hk
    · cases hn
  | andThen i k =>
    simp only [next] at hn
    split at hn
    · next hk =>
      obtain rfl := Option.some.inj hn
      exact .andThen i k hk
    · cases hn
  | andCatch i k =>
    simp only [next] at hn
    split at hn
    · next hk =>
      obtain rfl := Option.some.inj hn
      exact .andCatch i k hk
    · cases hn

end World

/-- The runs of a page whose managers are constructed with the given tokens and options. -/
def sessionManagers {ι : Type} [DecidableEq ι] (publicToken : ι → String)
    (keepSessionAlive : ι → Bool) : Machine (World ι) (Action ι) where
  init w := w = ⟨fun i => .new (publicToken i) (keepSessionAlive i), fun _ => none, false⟩
  next := World.next

end StytchBrowser.Core.SessionManager
