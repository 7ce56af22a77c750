import StytchBrowser.Core.SessionManager

/-!
# The background refresh runs once and stops at logout

`cancelBackgroundRefresh` clears the timer of a manager and knows nothing of its loops: a loop that
sleeps sends its next request, a loop that has returned schedules the next refresh, and a timer that
fires starts a loop beside one that still retries. The guard `contained` admits the steps that find
no loop in such a position. Over the runs it admits, a manager never has two loops alive, and from a
logout to the next login it has no timer pending and sends no request.
-/

namespace StytchBrowser.Core.SessionManager

open Machine Slots

/-- A call of `_reauthenticateWithBackoff` that has not ended. -/
def Loop.alive : Loop → Bool
  | .inFlight _ => true
  | .answered _ _ => true
  | .sleeping _ _ => true
  | _ => false

def Answer.unrecoverable : Answer → Bool
  | .success => false
  | .error errorType => isUnrecoverableError errorType

/-- A loop that neither sends another request nor has the refresh scheduled again, unless its
request in flight succeeds or fails with an error that is retried. -/
def Loop.halts : Loop → Bool
  | .inFlight _ => true
  | .answered _ answer => answer.unrecoverable
  | .sleeping _ _ => false
  | .resolved => false
  | .rejected => true
  | .settled => true

/-- The manager has no timer pending and no loop that sleeps. -/
def Manager.NoTimer (m : Manager) : Prop :=
  m.timeout ≠ some .pending ∧
    ∀ (k : ℕ) (loop : Loop), m.loops[k]? = some loop → ∀ count delay, loop ≠ .sleeping count delay

/-! ## What the timer operations leave alone -/

/-- `m'` has the loops and the requests of `m`, and no timer that `m` does not have. -/
structure Manager.Calmer (m m' : Manager) : Prop where
  loops : m'.loops = m.loops
  requests : m'.requests = m.requests
  timeout : m'.timeout = m.timeout ∨ m'.timeout = none

theorem Manager.Calmer.refl (m : Manager) : m.Calmer m := ⟨rfl, rfl, .inl rfl⟩

theorem Manager.Calmer.trans {m₁ m₂ m₃ : Manager} (h : m₁.Calmer m₂) (h' : m₂.Calmer m₃) :
    m₁.Calmer m₃ := by
  refine ⟨h'.loops.trans h.loops, h'.requests.trans h.requests, ?_⟩
  rcases h'.timeout with ht | ht
  · rw [ht]
    exact h.timeout
  · exact .inr ht

namespace World

variable {ι : Type} [DecidableEq ι]

theorem managers_modify_self (w : World ι) (i : ι) (f : Manager → Manager) :
    (w.modify i f).managers i = f (w.managers i) := Function.update_self ..

theorem managers_modify_of_ne (w : World ι) {i j : ι} (hji : j ≠ i) (f : Manager → Manager) :
    (w.modify i f).managers j = w.managers j := Function.update_of_ne hji ..

@[simp] theorem managers_unregister (w : World ι) (i : ι) :
    (w.unregister i).managers = w.managers := by
  unfold unregister
  split_ifs <;> rfl

theorem calmer_cancel (w : World ι) (i j : ι) :
    (w.managers j).Calmer ((w.cancelBackgroundRefresh i).managers j) := by
  unfold cancelBackgroundRefresh
  split_ifs
  · by_cases hji : j = i
    · subst hji
      rw [managers_modify_self, managers_unregister]
      exact ⟨rfl, rfl, .inr rfl⟩
    · rw [managers_modify_of_ne _ hji, managers_unregister]
      exact .refl _
  · exact .refl _

theorem timeout_cancel (w : World ι) (i : ι) :
    ((w.cancelBackgroundRefresh i).managers i).timeout = none := by
  unfold cancelBackgroundRefresh
  split_ifs with h
  · rw [managers_modify_self]
  · exact Option.not_isSome_iff_eq_none.1 h

theorem calmer_register (w : World ι) (i j : ι) :
    (w.managers j).Calmer ((w.register i).managers j) := by
  change (w.managers j).Calmer ((w.cancelOther i).managers j)
  unfold cancelOther
  split
  · split_ifs
    · exact calmer_cancel { w with hasWarned := true } _ j
    · exact .refl _
  · exact .refl _

theorem calmer_schedule_of_ne (w : World ι) {i j : ι} (hji : j ≠ i) :
    (w.managers j).Calmer ((w.scheduleBackgroundRefresh i).managers j) := by
  unfold scheduleBackgroundRefresh
  rw [managers_modify_of_ne _ hji]
  exact (calmer_cancel w i j).trans (calmer_register _ i j)

theorem loops_schedule (w : World ι) (i : ι) :
    ((w.scheduleBackgroundRefresh i).managers i).loops = (w.managers i).loops ∧
      ((w.scheduleBackgroundRefresh i).managers i).requests = (w.managers i).requests := by
  unfold scheduleBackgroundRefresh
  rw [managers_modify_self]
  have h := (calmer_cancel w i i).trans (calmer_register _ i i)
  exact ⟨h.loops, h.requests⟩

theorem calmer_recordDuration (w : World ι) (i j : ι) (notification : Notification) :
    (w.managers j).Calmer ((w.recordDuration i notification).managers j) := by
  unfold recordDuration
  split_ifs
  · by_cases hji : j = i
    · subst hji
      rw [managers_modify_self]
      exact ⟨rfl, rfl, .inl rfl⟩
    · rw [managers_modify_of_ne _ hji]
      exact .refl _
  · exact .refl _

theorem calmer_onDataChange_of_ne (w : World ι) {i j : ι} (hji : j ≠ i)
    (notification : Notification) :
    (w.managers j).Calmer ((w.onDataChange i notification).managers j) := by
  have h := calmer_recordDuration w i j notification
  unfold onDataChange
  split_ifs
  · exact h.trans (calmer_schedule_of_ne _ hji)
  · exact h.trans (calmer_cancel _ _ _)

theorem calmer_onDataChange_of_loss (w : World ι) (i : ι) {notification : Notification}
    (hloss : shouldTryRefresh notification.state = false) :
    (w.managers i).Calmer ((w.onDataChange i notification).managers i) ∧
      ((w.onDataChange i notification).managers i).timeout = none := by
  unfold onDataChange
  rw [hloss]
  exact ⟨(calmer_recordDuration w i i notification).trans (calmer_cancel _ _ _),
    timeout_cancel _ i⟩

theorem loops_onDataChange (w : World ι) (i : ι) (notification : Notification) :
    ((w.onDataChange i notification).managers i).loops = (w.managers i).loops ∧
      ((w.onDataChange i notification).managers i).requests = (w.managers i).requests := by
  have h := calmer_recordDuration w i i notification
  unfold onDataChange
  split_ifs
  · have hs := loops_schedule (w.recordDuration i notification) i
    exact ⟨hs.1.trans h.loops, hs.2.trans h.requests⟩
  · have hc := h.trans (calmer_cancel (w.recordDuration i notification) i i)
    exact ⟨hc.loops, hc.requests⟩

theorem calmer_setLoop_of_ne (w : World ι) {i j : ι} (hji : j ≠ i) (k : ℕ) (loop : Loop) :
    (w.managers j).Calmer ((w.setLoop i k loop).managers j) := by
  rw [setLoop, managers_modify_of_ne _ hji]
  exact .refl _

theorem calmer_perform_of_ne (w : World ι) {i j : ι} (hji : j ≠ i) :
    (w.managers j).Calmer ((w.performBackgroundRefresh i).managers j) := by
  rw [performBackgroundRefresh, managers_modify_of_ne _ hji]
  exact .refl _

/-- A step of one manager only ever cancels the timers of the others. -/
theorem calmer_of_ne {w w' : World ι} {a : Action ι} (hn : w.next a = some w') {j : ι}
    (hj : j ≠ a.manager) : (w.managers j).Calmer (w'.managers j) := by
  cases step_of_next hn with
  | performBackgroundRefresh i =>
    exact calmer_perform_of_ne w hj
  | scheduleBackgroundRefresh i =>
    exact calmer_schedule_of_ne w hj
  | cancelBackgroundRefresh i =>
    exact calmer_cancel w i j
  | onDataChange i notification =>
    exact calmer_onDataChange_of_ne w hj notification
  | fire i _ =>
    have h := calmer_perform_of_ne (w.modify i fun m => { m with timeout := some .fired }) hj
    rwa [managers_modify_of_ne _ (show j ≠ i from hj)] at h
  | answer i k _ =>
    exact calmer_setLoop_of_ne w hj k _
  | resume i k _ =>
    exact calmer_setLoop_of_ne w hj k _
  | wake i k _ =>
    rw [managers_modify_of_ne _ (show j ≠ i from hj)]
    exact calmer_setLoop_of_ne w hj k _
  | andThen i k _ =>
    exact (calmer_setLoop_of_ne w hj k _).trans (calmer_schedule_of_ne _ hj)
  | andCatch i k _ =>
    exact (calmer_setLoop_of_ne w hj k _).trans (calmer_onDataChange_of_ne _ hj _)

end World

/-! ## Logout -/

section Runs

variable {ι : Type} [DecidableEq ι]

/-- Whether the last of a manager's cancellations, losses of the session and logins was no login,
along the history `h`. -/
def stopped (i : ι) : List (Action ι) → Bool
  | [] => false
  | .cancelBackgroundRefresh j :: h => decide (j = i) || stopped i h
  | .onDataChange j notification :: h =>
      if j = i then !shouldTryRefresh notification.state else stopped i h
  | .andCatch j _ :: h => decide (j = i) || stopped i h
  | _ :: h => stopped i h

/-- The steps that find no loop or timer which the source forgets about. -/
def admitted (h : List (Action ι)) (w : World ι) : Action ι → Bool
  | .performBackgroundRefresh i => !(w.managers i).loops.any Loop.alive && !stopped i h
  | .scheduleBackgroundRefresh i => !stopped i h
  | .cancelBackgroundRefresh i => (w.managers i).loops.all Loop.halts
  | .onDataChange i notification =>
      shouldTryRefresh notification.state || (w.managers i).loops.all Loop.halts
  | .fire i => !(w.managers i).loops.any Loop.alive
  | .answer i _ answer => !stopped i h || answer.unrecoverable
  | .andCatch i _ => (w.managers i).loops.all Loop.halts
  | _ => true

/-- The guard of the runs whose steps are all admitted. -/
def contained : Guard (World ι) (Action ι) := fun h w a => admitted h w a

/-- A manager that a logout has stopped for good. -/
structure Manager.Quiet (m : Manager) : Prop where
  timer : m.timeout ≠ some .pending
  halts : ∀ (k : ℕ) (loop : Loop), m.loops[k]? = some loop → loop.halts

structure Manager.Ok (stopped : Bool) (m : Manager) : Prop where
  one : AtMostOne (fun loop => Loop.alive loop) m.loops
  quiet : stopped → m.Quiet

theorem Manager.Quiet.calmer {m m' : Manager} (h : m.Quiet) (hm : m.Calmer m') : m'.Quiet := by
  refine ⟨?_, hm.loops ▸ h.halts⟩
  rcases hm.timeout with ht | ht
  · exact ht ▸ h.timer
  · rw [ht]
    exact nofun

theorem Manager.Ok.calmer {b : Bool} {m m' : Manager} (h : m.Ok b) (hm : m.Calmer m') : m'.Ok b :=
  ⟨hm.loops ▸ h.one, fun hb => (h.quiet hb).calmer hm⟩

theorem Manager.Quiet.noTimer {m : Manager} (h : m.Quiet) : m.NoTimer := by
  refine ⟨h.timer, fun k loop hk count delay hloop => ?_⟩
  have hhalts := h.halts k loop hk
  rw [hloop] at hhalts
  cases hhalts

/-- Nothing is alive among loops that were all searched in vain. -/
theorem not_alive_of_any {loops : List Loop} (h : (!loops.any Loop.alive) = true) :
    ∀ (k : ℕ) (loop : Loop), loops[k]? = some loop → ¬ (loop.alive = true) := by
  intro k loop hk
  rw [Bool.not_eq_true', List.any_eq_false] at h
  exact h loop (List.mem_of_getElem? hk)

theorem halts_of_all {loops : List Loop} (h : loops.all Loop.halts = true) :
    ∀ (k : ℕ) (loop : Loop), loops[k]? = some loop → loop.halts = true := by
  intro k loop hk
  exact List.all_eq_true.1 h loop (List.mem_of_getElem? hk)

theorem stopped_of_ne {i : ι} {a : Action ι} (hi : i ≠ a.manager) (h : List (Action ι)) :
    stopped i (a :: h) = stopped i h := by
  cases a with
  | cancelBackgroundRefresh j => simp [stopped, decide_eq_false (Ne.symm hi : j ≠ i)]
  | onDataChange j notification => simp [stopped, (Ne.symm hi : j ≠ i)]
  | andCatch j k => simp [stopped, decide_eq_false (Ne.symm hi : j ≠ i)]
  | _ => rfl

theorem Loop.alive_of_resume {jitter : ℤ} {count : ℕ} {answer : Answer} :
    (Loop.resume jitter count answer).alive → (Loop.answered count answer).alive := fun _ => rfl

theorem Loop.halts_resume {jitter : ℤ} {count : ℕ} {answer : Answer}
    (h : (Loop.answered count answer).halts) : (Loop.resume jitter count answer).halts := by
  cases answer with
  | success => cases h
  | error errorType =>
    have herror : isUnrecoverableError errorType = true := h
    simp only [Loop.resume, if_pos herror, Loop.halts]

open World in
/-- A step of a manager keeps at most one of its loops alive, and keeps it quiet from a logout to
the next login. -/
theorem ok_step {h : List (Action ι)} {w w' : World ι} {a : Action ι}
    (hok : (w.managers a.manager).Ok (stopped a.manager h)) (hg : contained h w a)
    (hn : w.next a = some w') : (w'.managers a.manager).Ok (stopped a.manager (a :: h)) := by
  cases step_of_next hn with
  | performBackgroundRefresh i =>
    simp only [contained, admitted, Bool.and_eq_true, Bool.not_eq_true'] at hg
    simp only [Action.manager, performBackgroundRefresh, managers_modify_self, stopped, hg.2]
    refine ⟨AtMostOne.concat (not_alive_of_any ?_), nofun⟩
    rw [hg.1]
    rfl
  | scheduleBackgroundRefresh i =>
    simp only [contained, admitted, Bool.not_eq_true'] at hg
    simp only [Action.manager, stopped, hg]
    exact ⟨(loops_schedule w i).1 ▸ hok.one, nofun⟩
  | cancelBackgroundRefresh i =>
    have hc := calmer_cancel w i i
    refine ⟨hc.loops ▸ hok.one, fun _ => ⟨?_, ?_⟩⟩
    · change ((w.cancelBackgroundRefresh i).managers i).timeout ≠ _
      rw [timeout_cancel]
      exact nofun
    · change ∀ k loop, ((w.cancelBackgroundRefresh i).managers i).loops[k]? = some loop → _
      rw [hc.loops]
      exact halts_of_all hg
  | onDataChange i notification =>
    refine ⟨(loops_onDataChange w i notification).1 ▸ hok.one, fun hs => ?_⟩
    simp only [Action.manager, stopped, if_true, Bool.not_eq_true'] at hs
    simp only [contained, admitted, hs, Bool.false_or] at hg
    obtain ⟨hc, ht⟩ := calmer_onDataChange_of_loss w i hs
    refine ⟨?_, ?_⟩
    · change ((w.onDataChange i notification).managers i).timeout ≠ _
      rw [ht]
      exact nofun
    · change ∀ k loop, ((w.onDataChange i notification).managers i).loops[k]? = some loop → _
      rw [hc.loops]
      exact halts_of_all hg
  | fire i hpending =>
    simp only [Action.manager, performBackgroundRefresh, managers_modify_self, stopped]
    exact ⟨AtMostOne.concat (not_alive_of_any hg), fun hs => absurd hpending (hok.quiet hs).timer⟩
  | answer i k hk =>
    simp only [Action.manager, setLoop, managers_modify_self, stopped]
    refine ⟨hok.one.set hk fun _ => rfl, fun hs => ⟨(hok.quiet hs).timer, ?_⟩⟩
    simp only [contained, admitted, hs, Bool.not_true, Bool.false_or] at hg
    refine forall_set (hok.quiet hs).halts ?_
    exact hg
  | resume i k hk =>
    simp only [Action.manager, setLoop, managers_modify_self, stopped]
    refine ⟨hok.one.set hk Loop.alive_of_resume, fun hs => ⟨(hok.quiet hs).timer, ?_⟩⟩
    exact forall_set (hok.quiet hs).halts (Loop.halts_resume ((hok.quiet hs).halts k _ hk))
  | wake i k hk =>
    simp only [Action.manager, setLoop, managers_modify_self, stopped]
    refine ⟨hok.one.set hk fun _ => rfl, fun hs => ?_⟩
    exact absurd ((hok.quiet hs).halts k _ hk) nofun
  | andThen i k hk =>
    have hl := (loops_schedule (w.setLoop i k .settled) i).1
    simp only [setLoop, managers_modify_self] at hl
    refine ⟨?_, fun hs => absurd ((hok.quiet hs).halts k _ hk) nofun⟩
    simp only [Action.manager, setLoop, hl]
    exact hok.one.set hk nofun
  | andCatch i k hk =>
    obtain ⟨hc, ht⟩ := @calmer_onDataChange_of_loss _ _ (w.setLoop i k .settled) i
      ⟨none, none⟩ rfl
    have hl := hc.loops
    simp only [setLoop, managers_modify_self] at hl
    refine ⟨?_, fun _ => ⟨?_, ?_⟩⟩
    · simp only [Action.manager, setLoop, hl]
      exact hok.one.set hk nofun
    · simp only [Action.manager, ht]
      exact nofun
    · simp only [Action.manager, setLoop, hl]
      exact forall_set (halts_of_all hg) rfl

theorem ok_of_reach {publicToken : ι → String} {keepSessionAlive : ι → Bool}
    {h : List (Action ι)} {w : World ι}
    (hr : Reach (sessionManagers publicToken keepSessionAlive) contained h w) (i : ι) :
    (w.managers i).Ok (stopped i h) := by
  refine hr.invariant (I := fun h w => ∀ i, (w.managers i).Ok (stopped i h)) ?_ ?_ i
  · rintro _ rfl i
    exact ⟨AtMostOne.nil, nofun⟩
  · intro h w a w' hok hg hn i
    by_cases hi : i = a.manager
    · subst hi
      exact ok_step (hok _) hg hn
    · rw [stopped_of_ne hi]
      exact (hok i).calmer (World.calmer_of_ne hn hi)

open World in
/-- No admitted step of a quiet manager sends a request. -/
theorem requests_of_quiet {h : List (Action ι)} {w w' : World ι} {a : Action ι}
    (hq : (w.managers a.manager).Quiet) (hs : stopped a.manager h) (hg : contained h w a)
    (hn : w.next a = some w') :
    (w'.managers a.manager).requests = (w.managers a.manager).requests := by
  cases step_of_next hn with
  | performBackgroundRefresh i =>
    simp only [contained, admitted, Bool.and_eq_true, Bool.not_eq_true'] at hg
    exact absurd hs (by simp [Action.manager, hg.2])
  | scheduleBackgroundRefresh i =>
    exact (loops_schedule w i).2
  | cancelBackgroundRefresh i =>
    exact (calmer_cancel w i i).requests
  | onDataChange i notification =>
    exact (loops_onDataChange w i notification).2
  | fire i hpending => exact absurd hpending hq.timer
  | answer i k _ =>
    simp only [Action.manager, setLoop, managers_modify_self]
  | resume i k _ =>
    simp only [Action.manager, setLoop, managers_modify_self]
  | wake i k hk =>
    exact absurd (hq.halts k _ hk) nofun
  | andThen i k hk =>
    exact absurd (hq.halts k _ hk) nofun
  | andCatch i k _ =>
    have hl := (loops_onDataChange (w.setLoop i k .settled) i ⟨none, none⟩).2
    simp only [setLoop, managers_modify_self] at hl
    simp only [Action.manager, setLoop, hl]

/-- Over every contained run a manager has at most one loop alive, and from a logout to the next
login it has no timer pending and sends no request. -/
theorem refresh_runs_once_and_stops {publicToken : ι → String} {keepSessionAlive : ι → Bool}
    {h : List (Action ι)} {w : World ι}
    (hr : Reach (sessionManagers publicToken keepSessionAlive) contained h w) (i : ι) :
    AtMostOne (fun loop => Loop.alive loop) (w.managers i).loops ∧
      (stopped i h → (w.managers i).NoTimer ∧
        ∀ a w', contained h w a → w.next a = some w' →
          (w'.managers i).requests = (w.managers i).requests) := by
  have hok := ok_of_reach hr i
  refine ⟨hok.one, fun hs => ⟨(hok.quiet hs).noTimer, fun a w' hg hn => ?_⟩⟩
  by_cases hi : i = a.manager
  · subst hi
    exact requests_of_quiet (hok.quiet hs) hs hg hn
  · exact (World.calmer_of_ne hn hi).requests

end Runs

/-- A notification of a login. -/
def login : Notification :=
  ⟨some (OrderedMap.empty.set "session" (some (.obj []))), none⟩

/-- A refresh on page load, answered and followed by its timer, then a logout. -/
theorem refresh_runs_once_and_stops_logout :
    ∃ h w, Reach (sessionManagers (fun _ : Unit => "token") fun _ => false) contained h w ∧
      AtMostOne (fun loop => Loop.alive loop) (w.managers ()).loops ∧
      (w.managers ()).requests.length = 1 ∧ (w.managers ()).NoTimer := by
  have hr : Reach (sessionManagers (fun _ : Unit => "token") fun _ => false) contained
      [.onDataChange () ⟨none, none⟩, .andThen () 0, .resume () 0 0, .answer () 0 .success,
        .performBackgroundRefresh ()] _ :=
    .step (.step (.step (.step (.step (.start rfl) rfl rfl) rfl rfl) rfl rfl) rfl rfl) rfl rfl
  have h := refresh_runs_once_and_stops hr ()
  exact ⟨_, _, hr, h.1, rfl, (h.2 rfl).1⟩

/-- A logout between the end of a loop and its continuation leaves a timer pending, and a timer that
fires while a loop retries starts a second loop. -/
theorem refresh_survives_logout :
    (∃ h w, Reach (sessionManagers (fun _ : Unit => "token") fun _ => false) anyStep h w ∧
      stopped () h ∧ (w.managers ()).timeout = some .pending) ∧
    ∃ h w, Reach (sessionManagers (fun _ : Unit => "token") fun _ => false) anyStep h w ∧
      ¬ AtMostOne (fun loop => Loop.alive loop) (w.managers ()).loops := by
  constructor
  · have hr : Reach (sessionManagers (fun _ : Unit => "token") fun _ => false) anyStep
        [.andThen () 0, .onDataChange () ⟨none, none⟩, .resume () 0 0, .answer () 0 .success,
          .performBackgroundRefresh ()] _ :=
      reach_of_exec rfl rfl
    exact ⟨_, _, hr, rfl, rfl⟩
  · have hr : Reach (sessionManagers (fun _ : Unit => "token") fun _ => false) anyStep
        [.fire (), .onDataChange () login, .resume () 0 0, .answer () 0 (.error none),
          .performBackgroundRefresh ()] _ :=
      reach_of_exec rfl rfl
    refine ⟨_, _, hr, fun hone => ?_⟩
    exact absurd (hone 0 1 _ _ rfl rfl rfl rfl) (by decide)

end StytchBrowser.Core.SessionManager
