import StytchBrowser.Core.BackgroundRefresh

/-!
# One pending refresh timer per public token

A timer is armed in one place, `scheduleBackgroundRefresh`, which registers its manager first. The
registry entry of a token is written by the managers with that token only, so the two halves of the
guarantee are kept in step by one invariant, `World.Ok`: a manager that holds a timer handle, fired
or not, is the one its token is registered to.
-/

namespace StytchBrowser.Core.SessionManager

open Machine

namespace World

variable {ι : Type} [DecidableEq ι]

/-- The registry and the timer handles agree. -/
structure Ok (publicToken : ι → String) (w : World ι) : Prop where
  token : ∀ i, (w.managers i).publicToken = publicToken i
  /-- A token is registered to one of its own managers. -/
  keyed : ∀ t i, w.registry t = some i → publicToken i = t
  registered : ∀ i, (w.managers i).timeout.isSome → w.registry (publicToken i) = some i

variable {publicToken : ι → String} {w : World ι}

/-! ## Changes of one manager -/

/-- A change of one manager that arms no timer. -/
theorem Ok.modify (h : w.Ok publicToken) (i : ι) {f : Manager → Manager}
    (htoken : (f (w.managers i)).publicToken = (w.managers i).publicToken)
    (htimeout : (f (w.managers i)).timeout.isSome → (w.managers i).timeout.isSome) :
    (w.modify i f).Ok publicToken := by
  refine ⟨fun j => ?_, h.keyed, fun j hj => h.registered j ?_⟩
  · by_cases hji : j = i
    · subst hji
      rw [managers_modify_self, htoken, h.token]
    · rw [managers_modify_of_ne _ hji, h.token]
  · by_cases hji : j = i
    · subst hji
      rw [managers_modify_self] at hj
      exact htimeout hj
    · rwa [managers_modify_of_ne _ hji] at hj

theorem Ok.setLoop (h : w.Ok publicToken) (i : ι) (k : ℕ) (loop : Loop) :
    (w.setLoop i k loop).Ok publicToken :=
  h.modify i rfl id

theorem Ok.performBackgroundRefresh (h : w.Ok publicToken) (i : ι) :
    (w.performBackgroundRefresh i).Ok publicToken :=
  h.modify i rfl id

theorem Ok.recordDuration (h : w.Ok publicToken) (i : ι) (notification : Notification) :
    (w.recordDuration i notification).Ok publicToken := by
  unfold World.recordDuration
  split_ifs
  · exact h.modify i rfl id
  · exact h

/-! ## Cancelling -/

theorem registry_unregister_of_ne (w : World ι) (i : ι) {t : String}
    (ht : w.registry t ≠ some i) : (w.unregister i).registry t = w.registry t := by
  unfold unregister
  split_ifs with hi
  · refine Function.update_of_ne ?_ ..
    rintro rfl
    exact ht hi
  · rfl

theorem registry_unregister (h : w.Ok publicToken) (i : ι) (t : String) :
    (w.unregister i).registry t = w.registry t ∨
      (w.unregister i).registry t = none ∧ publicToken i = t := by
  by_cases ht : w.registry t = some i
  · refine .inr ⟨?_, h.keyed t i ht⟩
    have hi : (w.managers i).publicToken = t := (h.token i).trans (h.keyed t i ht)
    unfold unregister
    rw [hi, if_pos ht]
    exact Function.update_self ..
  · exact .inl (registry_unregister_of_ne w i ht)

theorem registry_cancel (h : w.Ok publicToken) (i : ι) (t : String) :
    (w.cancelBackgroundRefresh i).registry t = w.registry t ∨
      (w.cancelBackgroundRefresh i).registry t = none ∧ publicToken i = t := by
  unfold cancelBackgroundRefresh
  split_ifs
  · exact registry_unregister h i t
  · exact .inl rfl

theorem managers_cancel_of_ne (w : World ι) {i j : ι} (hji : j ≠ i) :
    (w.cancelBackgroundRefresh i).managers j = w.managers j := by
  unfold cancelBackgroundRefresh
  split_ifs
  · rw [managers_modify_of_ne _ hji, managers_unregister]
  · rfl

theorem publicToken_cancel (w : World ι) (i j : ι) :
    ((w.cancelBackgroundRefresh i).managers j).publicToken = (w.managers j).publicToken := by
  by_cases hji : j = i
  · subst hji
    unfold cancelBackgroundRefresh
    split_ifs
    · rw [managers_modify_self, managers_unregister]
    · rfl
  · rw [managers_cancel_of_ne w hji]

theorem Ok.cancelBackgroundRefresh (h : w.Ok publicToken) (i : ι) :
    (w.cancelBackgroundRefresh i).Ok publicToken := by
  refine ⟨fun j => (publicToken_cancel w i j).trans (h.token j), fun t j ht => ?_, fun j hj => ?_⟩
  · rcases registry_cancel h i t with he | ⟨he, -⟩
    · exact h.keyed t j (he ▸ ht)
    · rw [he] at ht
      cases ht
  · have hji : j ≠ i := by
      rintro rfl
      rw [timeout_cancel] at hj
      cases hj
    rw [managers_cancel_of_ne w hji] at hj
    have hreg := h.registered j hj
    unfold World.cancelBackgroundRefresh
    split_ifs
    · refine (registry_unregister_of_ne w i ?_).trans hreg
      rw [hreg]
      exact fun he => hji (Option.some.inj he)
    · exact hreg

/-! ## Scheduling -/

theorem Ok.cancelOther (h : w.Ok publicToken) (i : ι) : (w.cancelOther i).Ok publicToken := by
  unfold World.cancelOther
  split
  · split_ifs
    · exact Ok.cancelBackgroundRefresh (w := { w with hasWarned := true })
        ⟨h.token, h.keyed, h.registered⟩ _
    · exact h
  · exact h

/-- Registering takes the timers of the other managers of the token away. -/
theorem timeout_cancelOther (h : w.Ok publicToken) {i j : ι} (hji : j ≠ i)
    (ht : publicToken j = publicToken i) : ((w.cancelOther i).managers j).timeout = none := by
  by_contra hne
  rw [← ne_eq, Option.ne_none_iff_isSome] at hne
  have hcalm : (w.managers j).Calmer ((w.cancelOther i).managers j) := calmer_register w i j
  have hj : (w.managers j).timeout.isSome := by
    rcases hcalm.timeout with he | he
    · rwa [he] at hne
    · rw [he] at hne
      cases hne
  have hreg : w.registry (w.managers i).publicToken = some j := by
    rw [h.token, ← ht]
    exact h.registered j hj
  unfold cancelOther at hne
  rw [hreg] at hne
  dsimp only at hne
  rw [if_pos hji, timeout_cancel] at hne
  cases hne

theorem managers_cancelOther_of_token (h : w.Ok publicToken) {i j : ι}
    (ht : publicToken j ≠ publicToken i) : (w.cancelOther i).managers j = w.managers j := by
  unfold cancelOther
  split
  · next other hother =>
    split_ifs
    · refine managers_cancel_of_ne { w with hasWarned := true } ?_
      rintro rfl
      rw [h.token] at hother
      exact ht (h.keyed _ _ hother)
    · rfl
  · rfl

theorem registry_cancelOther_of_token (h : w.Ok publicToken) {i : ι} {t : String}
    (ht : t ≠ publicToken i) : (w.cancelOther i).registry t = w.registry t := by
  unfold cancelOther
  split
  · next other hother =>
    rw [h.token] at hother
    split_ifs
    · have h' : ({ w with hasWarned := true } : World ι).Ok publicToken :=
        ⟨h.token, h.keyed, h.registered⟩
      rcases registry_cancel h' other t with he | ⟨-, he⟩
      · exact he
      · exact absurd (he.symm.trans (h.keyed _ _ hother)) ht
    · rfl
  · rfl

theorem registry_schedule (h : w.Ok publicToken) (i : ι) :
    (w.scheduleBackgroundRefresh i).registry =
      Function.update ((w.cancelBackgroundRefresh i).cancelOther i).registry (publicToken i)
        (some i) := by
  have htoken := ((h.cancelBackgroundRefresh i).cancelOther i).token i
  rw [← htoken]
  rfl

theorem managers_schedule_of_ne (w : World ι) {i j : ι} (hji : j ≠ i) :
    (w.scheduleBackgroundRefresh i).managers j =
      ((w.cancelBackgroundRefresh i).cancelOther i).managers j :=
  managers_modify_of_ne _ hji _

theorem Ok.scheduleBackgroundRefresh (h : w.Ok publicToken) (i : ι) :
    (w.scheduleBackgroundRefresh i).Ok publicToken := by
  have hc := h.cancelBackgroundRefresh i
  have ho := hc.cancelOther i
  refine ⟨fun j => ?_, fun t j ht => ?_, fun j hj => ?_⟩
  · by_cases hji : j = i
    · subst hji
      unfold World.scheduleBackgroundRefresh
      rw [managers_modify_self]
      exact ho.token j
    · rw [managers_schedule_of_ne w hji]
      exact ho.token j
  · rw [registry_schedule h] at ht
    by_cases hti : t = publicToken i
    · subst hti
      rw [Function.update_self] at ht
      rw [Option.some.inj ht]
    · rw [Function.update_of_ne hti] at ht
      exact ho.keyed t j ht
  · rw [registry_schedule h]
    by_cases hji : j = i
    · subst hji
      rw [Function.update_self]
    · rw [managers_schedule_of_ne w hji] at hj
      -- another manager that still holds a handle has another token
      have hti : publicToken j ≠ publicToken i := by
        intro ht
        rw [timeout_cancelOther hc hji ht] at hj
        cases hj
      rw [Function.update_of_ne hti]
      exact ho.registered j hj

theorem timeout_schedule_of_token (h : w.Ok publicToken) {i j : ι} (hji : j ≠ i)
    (ht : publicToken j = publicToken i) :
    ((w.scheduleBackgroundRefresh i).managers j).timeout = none := by
  rw [managers_schedule_of_ne w hji]
  exact timeout_cancelOther (h.cancelBackgroundRefresh i) hji ht

theorem managers_schedule_of_token (h : w.Ok publicToken) {i j : ι}
    (ht : publicToken j ≠ publicToken i) :
    (w.scheduleBackgroundRefresh i).managers j = w.managers j := by
  have hji : j ≠ i := fun hji => ht (congrArg publicToken hji)
  rw [managers_schedule_of_ne w hji]
  exact (managers_cancelOther_of_token (h.cancelBackgroundRefresh i) ht).trans
    (managers_cancel_of_ne w hji)

theorem registry_schedule_of_token (h : w.Ok publicToken) {i : ι} {t : String}
    (ht : t ≠ publicToken i) : (w.scheduleBackgroundRefresh i).registry t = w.registry t := by
  rw [registry_schedule h, Function.update_of_ne ht,
    registry_cancelOther_of_token (h.cancelBackgroundRefresh i) ht]
  rcases registry_cancel h i t with he | ⟨-, he⟩
  · exact he
  · exact absurd he.symm ht

/-! ## Runs -/

theorem Ok.onDataChange (h : w.Ok publicToken) (i : ι) (notification : Notification) :
    (w.onDataChange i notification).Ok publicToken := by
  have hr := h.recordDuration i notification
  unfold World.onDataChange
  split_ifs
  · exact hr.scheduleBackgroundRefresh i
  · exact hr.cancelBackgroundRefresh i

theorem Ok.next (h : w.Ok publicToken) {w' : World ι} {a : Action ι} (hn : w.next a = some w') :
    w'.Ok publicToken := by
  cases step_of_next hn with
  | performBackgroundRefresh i =>
    exact h.performBackgroundRefresh i
  | scheduleBackgroundRefresh i =>
    exact h.scheduleBackgroundRefresh i
  | cancelBackgroundRefresh i =>
    exact h.cancelBackgroundRefresh i
  | onDataChange i notification =>
    exact h.onDataChange i notification
  | fire i hpending =>
    refine Ok.performBackgroundRefresh (h.modify i rfl fun _ => ?_) i
    rw [hpending]
    rfl
  | answer i k _ =>
    exact h.setLoop i k _
  | resume i k _ =>
    exact h.setLoop i k _
  | wake i k _ =>
    exact (h.setLoop i k _).modify i rfl id
  | andThen i k _ =>
    exact (h.setLoop i k _).scheduleBackgroundRefresh i
  | andCatch i k _ =>
    exact (h.setLoop i k _).onDataChange i _

end World

variable {ι : Type} [DecidableEq ι] {publicToken : ι → String} {keepSessionAlive : ι → Bool}

theorem ok_world_of_reach {h : List (Action ι)} {w : World ι}
    (hr : Reach (sessionManagers publicToken keepSessionAlive) anyStep h w) : w.Ok publicToken := by
  refine hr.invariant (I := fun _ w => w.Ok publicToken) ?_ fun _ _ _ _ hok _ hn => hok.next hn
  rintro _ rfl
  exact ⟨fun _ => rfl, nofun, nofun⟩

/-- In every reachable state the pending timer of a token is that of the manager it is registered
to, and scheduling by a manager takes the timers of its rivals and leaves other tokens alone. -/
theorem one_timer_per_token {h : List (Action ι)} {w : World ι}
    (hr : Reach (sessionManagers publicToken keepSessionAlive) anyStep h w) :
    (∀ i, (w.managers i).timeout = some .pending → w.registry (publicToken i) = some i) ∧
      (∀ i j, (w.managers i).timeout = some .pending → (w.managers j).timeout = some .pending →
        publicToken i = publicToken j → i = j) ∧
      ∀ i,
        (∀ j, j ≠ i → publicToken j = publicToken i →
          ((w.scheduleBackgroundRefresh i).managers j).timeout = none) ∧
        (∀ j, publicToken j ≠ publicToken i →
          (w.scheduleBackgroundRefresh i).managers j = w.managers j) ∧
        ∀ t, t ≠ publicToken i → (w.scheduleBackgroundRefresh i).registry t = w.registry t := by
  have hok := ok_world_of_reach hr
  have hpending : ∀ i, (w.managers i).timeout = some .pending →
      w.registry (publicToken i) = some i :=
    fun i hi => hok.registered i (by rw [hi]; rfl)
  refine ⟨hpending, fun i j hi hj ht => ?_, fun i => ⟨fun j hji ht => ?_, fun j ht => ?_,
    fun t ht => ?_⟩⟩
  · have hreg := hpending i hi
    rw [ht, hpending j hj] at hreg
    exact (Option.some.inj hreg).symm
  · exact World.timeout_schedule_of_token hok hji ht
  · exact World.managers_schedule_of_token hok ht
  · exact World.registry_schedule_of_token hok ht

/-- The second of two managers of one token takes the timer over. -/
theorem one_timer_per_token_takeover :
    ∃ h w, Reach (sessionManagers (fun _ : Bool => "token") fun _ => false) anyStep h w ∧
      (w.managers true).timeout = some .pending ∧ w.registry "token" = some true ∧
      (w.managers false).timeout ≠ some .pending := by
  have hr : Reach (sessionManagers (fun _ : Bool => "token") fun _ => false) anyStep
      [.scheduleBackgroundRefresh true, .onDataChange false login] _ :=
    reach_of_exec rfl rfl
  have h := one_timer_per_token hr
  refine ⟨_, _, hr, rfl, h.1 true rfl, fun hfalse => ?_⟩
  exact absurd (h.2.1 false true hfalse rfl rfl) (by decide)

end StytchBrowser.Core.SessionManager
