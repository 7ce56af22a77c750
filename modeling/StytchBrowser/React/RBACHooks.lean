import StytchBrowser.Core.B2BRBACClient
import StytchBrowser.Lib.Pipeline

/-!
# `useStytchIsAuthorized` and `withStytchPermissions`

The hook and the wrapper ask the B2B RBAC client in an effect whose dependencies are the arguments
and the array `session?.roles` of the session context; the hook asks the synchronous way in another
effect when its arguments change. Neither depends on the organization, whose custom roles are part of
the policy.

The client is the one of `Core.B2BRBAC`, with only the calls of the component under way: other calls
change nothing that the component reads.

* `underWay_run`: the calls are answered in the order in which they were made;
* `hooks_converge`: when the component, with nothing left to do, shows the decision of the client.
-/

namespace StytchBrowser.React

open Machine
open StytchBrowser.Core.B2BRBAC
open Pipeline
open StytchBrowser.Core (RBACPolicyRaw)

/-- The two components. -/
inductive HookKind where
  | useStytchIsAuthorized
  | withStytchPermissions
  deriving DecidableEq

/-- What a component of the kind asks. -/
def HookKind.asks : HookKind → Query → Bool
  | .useStytchIsAuthorized, .isAuthorized _ _ => true
  | .withStytchPermissions, .allPermissions => true
  | _, _ => false

structure Hook where
  client : Client
  /-- `session?.roles` of the session context. -/
  shown : Option RolesArray
  /-- The dependencies of the effects in the last render. -/
  rendered : Option (Query × Option RolesArray)
  /-- The dependencies that the effects last ran with. -/
  ran : Option (Query × Option RolesArray)
  /-- The state of the component, once there is one, and whether it is from the cache. -/
  value : Option (Bool × Decision)

inductive HookAction where
  | update (st : StoreState)
  | arrive (rbacPolicy : Option RBACPolicyRaw)
  /-- The microtask at the head of the queue runs. -/
  | run
  /-- The provider reads the session again, and keeps the slice it has if the two pass for equal. -/
  | refresh (kept : Bool)
  | render (query : Query)
  /-- The effects of the last render run. -/
  | effects

/-- The elements of an array of roles that may be missing. -/
def idsOf (roles : Option RolesArray) : List String := (roles.map (·.ids)).getD []

namespace Hook

/-- The state after the callback on the promise of a call, which is not called when it is rejected. -/
def settled (value : Option (Bool × Decision)) : Option Job → Option (Bool × Decision)
  | some (.settle _ (.ok decision)) => some (false, decision)
  | _ => value

/-- The effect of `useStytchIsAuthorized` that runs when the arguments have changed. -/
def syncEffect (s : Hook) : Query → Except TypeError (Option (Bool × Decision))
  | .isAuthorized resourceId action =>
      if s.ran.map Prod.fst = some (.isAuthorized resourceId action) then .ok s.value
      else (isAuthorizedSync s.client.cachedPolicy s.client.store resourceId action).map
        fun b => some (true, .authorized b)
  | .allPermissions => .ok s.value

/-- The effects run. An effect that throws unmounts the component. -/
def effects (s : Hook) : Option Hook :=
  match s.rendered with
  | none => none
  | some (query, roles) =>
      match s.syncEffect query with
      | .error _ => none
      | .ok value => some { s with
          value := value
          client := if s.ran = some (query, roles) then s.client else s.client.call query
          ran := some (query, roles) }

def next (kind : HookKind) (s : Hook) : HookAction → Option Hook
  | .update st => some { s with client := s.client.update st }
  | .arrive rbacPolicy =>
      if s.client.dynamicConfig.isNone then some { s with client := s.client.arrive rbacPolicy }
      else none
  | .run => s.client.run.map fun client =>
      { s with client := client, value := settled s.value s.client.queue.head? }
  | .refresh kept =>
      some { s with shown := if kept then s.shown else s.client.store.session.bind (·.roles) }
  | .render query => if kind.asks query then some { s with rendered := some (query, s.shown) } else none
  | .effects => s.effects

end Hook

/-- A component of the kind, from its mounting on. -/
def hooks (kind : HookKind) : Machine Hook HookAction where
  init s := clients.init s.client ∧ s.rendered = none ∧ s.ran = none ∧ s.value = none
  next := Hook.next kind

/-- Nothing is left to do: every promise has settled, the effects have run for the last render, and
that has the arguments and the role ids of now. -/
structure Settled (s : Hook) : Prop where
  queue : s.client.queue = []
  waiting : s.client.waiting = []
  ran : s.ran = s.rendered
  rendered : ∃ query, s.rendered = some (query, s.shown)
  shown : idsOf s.shown = roleIds s.client.store

/-- The component shows what the client answers now, if that does not throw. -/
def ShowsDecision (s : Hook) : Query → Prop
  | .isAuthorized resourceId action =>
      ∀ b, isAuthorizedSync s.client.cachedPolicy s.client.store resourceId action = .ok b →
        ∃ fromCache, s.value = some (fromCache, .authorized b)
  | .allPermissions => ∃ data, s.client.dynamicConfig = some data ∧
      ∀ map, ((policyOf data).effectivePolicy (customRoles s.client.store)).allPermissionsForCaller
          (roleIds s.client.store) = .ok map →
        ∃ fromCache, s.value = some (fromCache, .permissions map)

/-- The dynamic configuration has a policy, which the hook needs to agree with `isAuthorizedSync`. -/
def BringsPolicy (kind : HookKind) : Guard Hook HookAction := fun _ _ a =>
  match a with
  | .arrive none => kind = .withStytchPermissions
  | _ => True

/-- The effects run with new dependencies. -/
def EffectRuns (s : Hook) : HookAction → Prop
  | .effects => s.ran ≠ s.rendered
  | _ => False

/-- An update that the effect has no dependency for: it changes the custom roles, or takes the role
ids back to those that the effect last ran with. -/
def ChangesUnseen (s : Hook) : HookAction → Prop
  | .update st => customRoles st ≠ customRoles s.client.store ∨
      ∃ query roles, s.ran = some (query, roles) ∧ roleIds s.client.store ≠ idsOf roles ∧
        roleIds st = idsOf roles
  | _ => False

/-! ## The calls under way -/

/-- How far a call is. -/
def jobStage : Job → ℕ
  | .resume _ => 0
  | .answer _ _ _ => 1
  | .settle _ _ => 2

/-- The calls under way, oldest first. -/
def underWay (c : Client) : List Job := pipeline jobStage 3 c.queue ++ c.waiting.map .resume

/-- The calls wait for the policy until it arrives. -/
structure OneList (c : Client) : Prop where
  pending : c.dynamicConfig = none → c.queue = []
  arrived : c.dynamicConfig ≠ none → c.waiting = []

variable {c c' : Client}

theorem OneList.call (hc : OneList c) (query : Query) : OneList (c.call query) := by
  unfold Client.call
  split_ifs with hsome
  · refine ⟨fun hnone => ?_, hc.arrived⟩
    rw [show c.dynamicConfig = none from hnone] at hsome
    cases hsome
  · exact ⟨hc.pending, fun hne => absurd (Option.isSome_iff_ne_none.2 hne) hsome⟩

theorem OneList.update (hc : OneList c) (st : StoreState) : OneList (c.update st) :=
  ⟨fun hnone => List.map_eq_nil_iff.2 (hc.pending hnone),
    fun hne => List.map_eq_nil_iff.2 (hc.arrived hne)⟩

theorem OneList.run (hc : OneList c) (hn : c.run = some c') : OneList c' := by
  unfold Client.run at hn
  split at hn
  · next data job queue hdata _ =>
    obtain rfl := Option.some.inj hn
    refine ⟨fun hnone => ?_, hc.arrived⟩
    rw [show c.dynamicConfig = none from hnone] at hdata
    cases hdata
  · cases hn

/-- A call that is made is the last one. -/
theorem underWay_call (hc : OneList c) (query : Query) :
    underWay (c.call query) = underWay c ++ [.resume ⟨query, [c.store]⟩] := by
  unfold Client.call
  split_ifs with hsome
  · have hwaiting := hc.arrived (Option.isSome_iff_ne_none.1 hsome)
    simp only [underWay, hwaiting, List.map_nil, List.append_nil]
    exact pipeline_append_first (by simp [jobStage]) c.queue
  · simp only [underWay, List.map_append, List.map_cons, List.map_nil, List.append_assoc]

theorem pipeline_see (st : StoreState) (n : ℕ) (queue : List Job) :
    pipeline jobStage n (queue.map (Job.see st)) = (pipeline jobStage n queue).map (Job.see st) := by
  have hstage : ∀ job, jobStage (Job.see st job) = jobStage job := fun job => by cases job <;> rfl
  induction n with
  | zero => rfl
  | succ n ih =>
    rw [pipeline, pipeline, ih, List.map_append, List.filter_map]
    simp only [Function.comp_def, hstage]

theorem underWay_update (c : Client) (st : StoreState) :
    underWay (c.update st) = (underWay c).map (Job.see st) := by
  simp only [underWay, Client.update, pipeline_see, List.map_append, List.map_map]
  rfl

/-- The calls that waited are queued in their order. -/
theorem underWay_arrive (c : Client) (data : Option RBACPolicyRaw) :
    underWay (c.arrive data) = underWay c := by
  have happ : pipeline jobStage 3 (c.queue ++ c.waiting.map Job.resume) =
      pipeline jobStage 3 c.queue ++ c.waiting.map Job.resume :=
    pipeline_append_first (by simp [jobStage]) c.queue
  simp only [underWay, Client.arrive, happ, List.map_nil, List.append_nil]

/-- A job that is run takes its call to the next stage, or ends the oldest call. -/
theorem underWay_run (hn : c.run = some c') :
    ∃ data job, c.dynamicConfig = some data ∧ c.queue.head? = some job ∧
      c'.dynamicConfig = some data ∧ c'.cachedPolicy = c.cachedPolicy ∧ c'.store = c.store ∧
      ((∃ job' before after, c.follow data job = some job' ∧
          underWay c = before ++ job :: after ∧ underWay c' = before ++ job' :: after) ∨
        (∃ call result, job = .settle call result ∧ underWay c = job :: underWay c')) := by
  unfold Client.run at hn
  split at hn
  · next data job queue hdata hqueue =>
    obtain rfl := Option.some.inj hn
    refine ⟨data, job, hdata, by rw [hqueue]; rfl, hdata, rfl, rfl, ?_⟩
    have hadvance : ∀ job', c.follow data job = some job' → jobStage job' = jobStage job + 1 →
        jobStage job + 1 < 3 → ∃ job' before after, c.follow data job = some job' ∧
          underWay c = before ++ job :: after ∧
          underWay { c with queue := queue ++ (c.follow data job).toList } =
            before ++ job' :: after := by
      intro job' hfollow hnext hlast
      obtain ⟨before, after, hleft, hright⟩ := pipeline_advance hnext hlast queue
      refine ⟨job', before, after ++ c.waiting.map .resume, hfollow, ?_, ?_⟩
      · rw [underWay, hqueue, hleft, List.append_assoc, List.cons_append]
      · rw [hfollow, underWay, Option.toList_some, hright, List.append_assoc, List.cons_append]
    cases job with
    | resume call => exact .inl (hadvance _ rfl rfl (by simp [jobStage]))
    | answer call policy mergedIn => exact .inl (hadvance _ rfl rfl (by simp [jobStage]))
    | settle call result =>
      refine .inr ⟨call, result, rfl, ?_⟩
      have hfinish : pipeline jobStage 3 (.settle call result :: queue) =
          .settle call result :: pipeline jobStage 3 queue :=
        @pipeline_finish Job jobStage 2 (.settle call result) rfl queue
      simp only [underWay, hqueue, hfinish, Client.follow, Option.toList_none, List.append_nil,
        List.cons_append]
  · cases hn

/-! ## The newest call -/

/-- What the policy answers in the current state. -/
def evaluation (c : Client) (data : Option RBACPolicyRaw) (query : Query) :
    Except TypeError Decision :=
  query.evaluate ((policyOf data).effectivePolicy (customRoles c.store)) (roleIds c.store)

/-- A job that is going to give, or has, the current answer. -/
def Current (c : Client) (query : Query) : Job → Prop
  | .resume call => call.query = query
  | .answer call policy _ => call.query = query ∧ ∀ data, c.dynamicConfig = some data →
      policy = (policyOf data).effectivePolicy (customRoles c.store)
  | .settle _ result => ∀ data, c.dynamicConfig = some data → result = evaluation c data query

/-- The newest call under way is going to give the current answer; when there is none, the component
has it. -/
def Newest (s : Hook) (query : Query) : Prop :=
  match (underWay s.client).getLast? with
  | some job => Current s.client query job
  | none => ∃ data, s.client.dynamicConfig = some data ∧
      ∀ decision, evaluation s.client data query = .ok decision →
        ∃ fromCache, s.value = some (fromCache, decision)

/-- What holds since the effect last ran. -/
def Awaits (s : Hook) : Prop :=
  ∀ query roles, s.ran = some (query, roles) → idsOf roles = roleIds s.client.store → Newest s query

/-- What holds of every component whose client has a policy when it has a configuration. -/
structure Hook.Ok (kind : HookKind) (s : Hook) : Prop where
  oneList : OneList s.client
  cached : kind = .useStytchIsAuthorized → ∀ data, s.client.dynamicConfig = some data →
    s.client.cachedPolicy = some (policyOf data)
  asked : ∀ query roles, s.rendered = some (query, roles) → kind.asks query = true

variable {kind : HookKind} {s s' : Hook}

theorem newest_of_some {query : Query} {job : Job} (h : (underWay s.client).getLast? = some job)
    (hjob : Current s.client query job) : Newest s query := by
  unfold Newest
  rw [h]
  exact hjob

theorem current_of_newest {query : Query} {job : Job} (h : (underWay s.client).getLast? = some job)
    (hnew : Newest s query) : Current s.client query job := by
  unfold Newest at hnew
  rwa [h] at hnew

theorem cached_call (c : Client) (query : Query) :
    (c.call query).cachedPolicy = c.cachedPolicy ∧ (c.call query).dynamicConfig = c.dynamicConfig := by
  unfold Client.call
  split_ifs <;> exact ⟨rfl, rfl⟩

theorem effects_cases (hn : s.effects = some s') :
    ∃ query roles, s.rendered = some (query, roles) ∧ s'.rendered = s.rendered ∧
      s'.shown = s.shown ∧ s'.ran = s.rendered ∧
      (s.ran = s.rendered ∧ s'.client = s.client ∧ s'.value = s.value ∨
        s.ran ≠ s.rendered ∧ s'.client = s.client.call query) := by
  unfold Hook.effects at hn
  split at hn
  · cases hn
  · next query roles hrendered =>
    split at hn
    · cases hn
    · next value hsync =>
      obtain rfl := Option.some.inj hn
      refine ⟨query, roles, hrendered, rfl, rfl, hrendered.symm, ?_⟩
      rw [hrendered]
      by_cases hran : s.ran = some (query, roles)
      · refine .inl ⟨hran, by simp only [if_pos hran], ?_⟩
        cases query with
        | isAuthorized resourceId action =>
          rw [Hook.syncEffect, if_pos (by rw [hran]; rfl)] at hsync
          exact (Except.ok.inj hsync).symm
        | allPermissions => exact (Except.ok.inj hsync).symm
      · exact .inr ⟨hran, by simp only [if_neg hran]⟩

theorem Hook.Ok.step (hs : s.Ok kind) {h : List HookAction} {a : HookAction}
    (hc : BringsPolicy kind h s a) (hn : Hook.next kind s a = some s') : s'.Ok kind := by
  cases a with
  | update st =>
    obtain rfl := Option.some.inj hn
    exact ⟨hs.oneList.update st, hs.cached, hs.asked⟩
  | arrive data =>
    simp only [Hook.next] at hn
    split_ifs at hn
    obtain rfl := Option.some.inj hn
    refine ⟨⟨nofun, fun _ => rfl⟩, fun hkind data' hdata => ?_, hs.asked⟩
    obtain rfl : data = data' := Option.some.inj hdata
    cases data with
    | none =>
      rw [BringsPolicy, hkind] at hc
      cases hc
    | some raw => rfl
  | run =>
    obtain ⟨c', hrun, rfl⟩ := Option.map_eq_some_iff.1 hn
    obtain ⟨data, -, hdata, -, hdata', hcached, -⟩ := underWay_run hrun
    refine ⟨hs.oneList.run hrun, fun hkind data' h' => ?_, hs.asked⟩
    rw [hdata'] at h'
    rw [hcached]
    exact hs.cached hkind data' (hdata.trans h')
  | refresh kept =>
    obtain rfl := Option.some.inj hn
    exact ⟨hs.oneList, hs.cached, hs.asked⟩
  | render query =>
    simp only [Hook.next] at hn
    split_ifs at hn with hasks
    obtain rfl := Option.some.inj hn
    refine ⟨hs.oneList, hs.cached, fun query' roles h => ?_⟩
    cases h
    exact hasks
  | effects =>
    obtain ⟨query, roles, hrendered, hrendered', -, -, ⟨-, hclient, -⟩ | ⟨-, hclient⟩⟩ :=
      effects_cases hn
    · exact ⟨hclient ▸ hs.oneList, hclient ▸ hs.cached, hrendered' ▸ hs.asked⟩
    · obtain ⟨hcached, hconfig⟩ := cached_call s.client query
      refine ⟨hclient ▸ hs.oneList.call query, fun hkind data hdata => ?_, hrendered' ▸ hs.asked⟩
      rw [hclient] at hdata ⊢
      rw [hcached]
      exact hs.cached hkind data (hconfig.symm.trans hdata)

theorem ok_of_reach {h : List HookAction} (hr : Reach (hooks kind) (BringsPolicy kind) h s) :
    s.Ok kind := by
  refine hr.invariant (I := fun _ s => s.Ok kind) ?_ fun h s a s' hs hc hn => hs.step hc hn
  rintro s ⟨⟨hconfig, hwaiting, hqueue⟩, hrendered, -, -⟩
  refine ⟨⟨fun _ => hqueue, fun _ => hwaiting⟩, fun _ data hdata => ?_, fun _ _ h => ?_⟩
  · rw [hconfig] at hdata
    cases hdata
  · rw [hrendered] at h
    cases h

theorem Current.congr {query : Query} {job : Job} (hconfig : c'.dynamicConfig = c.dynamicConfig)
    (hstore : c'.store = c.store) (h : Current c query job) : Current c' query job := by
  cases job <;> simpa only [Current, evaluation, hconfig, hstore] using h

/-- A job that is run hands the current answer on. -/
theorem Current.follow {query : Query} {data : Option RBACPolicyRaw} {job job' : Job}
    (hdata : c.dynamicConfig = some data) (h : Current c query job)
    (hfollow : c.follow data job = some job') : Current c query job' := by
  cases job with
  | resume call =>
    obtain rfl := Option.some.inj hfollow
    refine ⟨h, fun data' hdata' => ?_⟩
    obtain rfl : data = data' := Option.some.inj (hdata.symm.trans hdata')
    rfl
  | answer call policy mergedIn =>
    obtain rfl := Option.some.inj hfollow
    obtain ⟨rfl, hpolicy⟩ := h
    intro data' hdata'
    rw [hpolicy data' hdata']
    rfl
  | settle call result => cases hfollow

/-- An update that keeps the custom roles and the role ids changes no answer. -/
theorem Newest.update {query : Query} {st : StoreState}
    (hcustom : customRoles st = customRoles s.client.store)
    (hroles : roleIds st = roleIds s.client.store) (h : Newest s query) :
    Newest { s with client := s.client.update st } query := by
  unfold Newest at h ⊢
  rw [underWay_update, List.getLast?_map]
  cases hlast : (underWay s.client).getLast? with
  | none =>
    rw [hlast] at h
    simpa only [Option.map_none, evaluation, Client.update, hcustom, hroles] using h
  | some job =>
    rw [hlast] at h
    cases job <;>
      simpa only [Option.map_some, Job.see, Call.see, Current, evaluation, Client.update, hcustom,
        hroles] using h

/-- The calls that wait are going to give the current answer, whichever policy arrives. -/
theorem Newest.arrive {query : Query} (hc : OneList s.client) (hnone : s.client.dynamicConfig = none)
    (data : Option RBACPolicyRaw) (h : Newest s query) :
    Newest { s with client := s.client.arrive data } query := by
  have hall : underWay s.client = s.client.waiting.map .resume := by
    rw [underWay, hc.pending hnone]
    rfl
  cases hlast : (underWay s.client).getLast? with
  | none =>
    unfold Newest at h
    rw [hlast] at h
    obtain ⟨data', hdata', -⟩ := h
    rw [hnone] at hdata'
    cases hdata'
  | some job =>
    have hjob := current_of_newest hlast h
    refine newest_of_some ((congrArg List.getLast? (underWay_arrive s.client data)).trans hlast) ?_
    rw [hall, List.getLast?_map] at hlast
    obtain ⟨call, -, rfl⟩ := Option.map_eq_some_iff.1 hlast
    exact hjob

theorem Newest.run {query : Query} (hrun : s.client.run = some c') (h : Newest s query) :
    Newest { s with client := c', value := Hook.settled s.value s.client.queue.head? } query := by
  obtain ⟨data, job, hdata, hhead, hdata', -, hstore, hcase⟩ := underWay_run hrun
  have hconfig : c'.dynamicConfig = s.client.dynamicConfig := hdata'.trans hdata.symm
  rcases hcase with ⟨job', before, after, hfollow, hleft, hright⟩ | ⟨call, result, rfl, hleft⟩
  · -- the newest call stays the newest one
    cases hafter : after.getLast? with
    | none =>
      obtain rfl := List.getLast?_eq_none_iff.1 hafter
      have hlast : (underWay s.client).getLast? = some job := by
        rw [hleft, List.getLast?_concat]
      have hlast' : (underWay c').getLast? = some job' := by
        rw [hright, List.getLast?_concat]
      exact newest_of_some hlast'
        (((current_of_newest hlast h).follow hdata hfollow).congr hconfig hstore)
    | some last =>
      have hlast : ∀ first, (before ++ first :: after).getLast? = some last := fun first => by
        rw [List.getLast?_append, List.getLast?_cons, hafter]
        rfl
      exact newest_of_some ((congrArg List.getLast? hright).trans (hlast job'))
        ((current_of_newest ((congrArg List.getLast? hleft).trans (hlast job)) h).congr hconfig hstore)
  · cases hafter : (underWay c').getLast? with
    | none =>
      -- the last call ends, and the component takes its answer
      have hlast : (underWay s.client).getLast? = some (.settle call result) := by
        rw [hleft, List.getLast?_eq_none_iff.1 hafter]
        rfl
      have hresult : result = evaluation s.client data query := current_of_newest hlast h data hdata
      unfold Newest
      rw [hafter]
      refine ⟨data, hdata', fun decision hdecision => ⟨false, ?_⟩⟩
      have hok : result = .ok decision := by
        rw [hresult, ← hdecision, evaluation, evaluation, hstore]
      rw [hhead, hok]
      rfl
    | some last =>
      have hlast : (underWay s.client).getLast? = some last := by
        rw [hleft, List.getLast?_cons, hafter]
        rfl
      exact newest_of_some hafter ((current_of_newest hlast h).congr hconfig hstore)

/-- An effect that runs makes the newest call. -/
theorem awaits_of_effects (hc : OneList s.client) (hran : s.ran ≠ s.rendered)
    (hn : s.effects = some s') : Awaits s' := by
  obtain ⟨query, roles, hrendered, -, -, hran', ⟨hsame, -⟩ | ⟨-, hclient⟩⟩ := effects_cases hn
  · exact absurd hsame hran
  · intro query' roles' h _
    obtain ⟨rfl, rfl⟩ := Prod.mk.inj (Option.some.inj ((hran'.trans hrendered).symm.trans h))
    have hlast : (underWay s'.client).getLast? = some (.resume ⟨query, [s.client.store]⟩) := by
      rw [hclient, underWay_call hc, List.getLast?_concat]
    exact newest_of_some hlast rfl

theorem Awaits.step (hs : s.Ok kind) (ha : Awaits s) {a : HookAction} (hn : Hook.next kind s a = some s')
    (hseen : ¬ ChangesUnseen s a) : Awaits s' := by
  cases a with
  | update st =>
    obtain rfl := Option.some.inj hn
    obtain ⟨hcustom, hback⟩ := not_or.1 hseen
    intro query roles hran hids
    have hroles : roleIds s.client.store = idsOf roles := by
      by_contra hne
      exact hback ⟨query, roles, hran, hne, hids.symm⟩
    exact (ha query roles hran hroles.symm).update (not_not.1 hcustom) (hids.symm.trans hroles.symm)
  | arrive data =>
    simp only [Hook.next] at hn
    split_ifs at hn with hnone
    obtain rfl := Option.some.inj hn
    exact fun query roles hran hids =>
      (ha query roles hran hids).arrive hs.oneList (Option.isNone_iff_eq_none.1 hnone) data
  | run =>
    obtain ⟨c', hrun, rfl⟩ := Option.map_eq_some_iff.1 hn
    obtain ⟨-, -, -, -, -, -, hstore, -⟩ := underWay_run hrun
    exact fun query roles hran hids =>
      (ha query roles hran (hids.trans (congrArg roleIds hstore))).run hrun
  | refresh kept =>
    obtain rfl := Option.some.inj hn
    exact ha
  | render query =>
    simp only [Hook.next] at hn
    split_ifs at hn
    obtain rfl := Option.some.inj hn
    exact ha
  | effects =>
    by_cases hran : s.ran = s.rendered
    · obtain ⟨-, -, -, -, -, hran', ⟨-, hclient, hvalue⟩ | ⟨hne, -⟩⟩ := effects_cases hn
      · intro query roles h hids
        rw [hclient] at hids
        have hnew := ha query roles (hran.trans (hran'.symm.trans h)) hids
        unfold Newest at hnew ⊢
        rwa [hclient, hvalue]
      · exact absurd hran hne
    · exact awaits_of_effects hs.oneList hran hn

/-- A component that has nothing left to do shows the current decision, when no change that its effect
does not depend on was made since the effect ran. -/
theorem hooks_converge {h : List HookAction}
    (hs : Since (hooks kind) (BringsPolicy kind) EffectRuns ChangesUnseen h s) (hset : Settled s) :
    ∃ query roles, s.rendered = some (query, roles) ∧ ShowsDecision s query := by
  have hok := ok_of_reach hs.reach
  have hawaits : Awaits s := by
    refine hs.invariant ?_ ?_
    · intro h s a s' hr _ hn hruns
      cases a with
      | effects => exact awaits_of_effects (ok_of_reach hr).oneList hruns hn
      | update st => cases hruns
      | arrive data => cases hruns
      | run => cases hruns
      | refresh kept => cases hruns
      | render query => cases hruns
    · exact fun h s a s' hs ha _ hn hseen => ha.step (ok_of_reach hs.reach) hn hseen
  obtain ⟨query, hrendered⟩ := hset.rendered
  have hnew := hawaits query s.shown (hset.ran.trans hrendered) hset.shown
  have hnone : underWay s.client = [] := by
    rw [underWay, hset.queue, hset.waiting]
    rfl
  unfold Newest at hnew
  rw [hnone] at hnew
  obtain ⟨data, hdata, hvalue⟩ := hnew
  refine ⟨query, s.shown, hrendered, ?_⟩
  cases query with
  | isAuthorized resourceId action =>
    have hkind : kind = .useStytchIsAuthorized := by
      have hasks := hok.asked _ _ hrendered
      cases kind with
      | useStytchIsAuthorized => rfl
      | withStytchPermissions => cases hasks
    intro b hb
    refine hvalue _ ?_
    have hsync : evaluation s.client data (.isAuthorized resourceId action) =
        (isAuthorizedSync s.client.cachedPolicy s.client.store resourceId action).map .authorized := by
      rw [hok.cached hkind data hdata]
      rfl
    rw [hsync, hb]
    rfl
  | allPermissions =>
    refine ⟨data, hdata, fun map hmap => hvalue _ ?_⟩
    show Except.map _ _ = _
    rw [hmap]
    rfl

/-- A component that is mounted on the store. -/
def newHook (st : StoreState) : Hook := ⟨newClient st, none, none, none, none⟩

theorem init_newHook (kind : HookKind) (st : StoreState) : (hooks kind).init (newHook st) :=
  ⟨init_newClient st, rfl, rfl, rfl⟩

def editDocuments : Query := .isAuthorized "documents" "edit"

/-- The member has the role, the policy arrives, and the call of the first effect is answered. -/
theorem hooks_converge_editor :
    ∃ h s, Since (hooks .useStytchIsAuthorized) (BringsPolicy .useStytchIsAuthorized) EffectRuns
        ChangesUnseen h s ∧ s.value = some (false, .authorized true) ∧
      ∃ query roles, s.rendered = some (query, roles) ∧ ShowsDecision s query := by
  have hr : Reach (hooks .useStytchIsAuthorized) (BringsPolicy .useStytchIsAuthorized)
      [.render editDocuments, .refresh false, .arrive (some bareProject)] _ :=
    .step (.step (.step (.start (init_newHook _ editorInAcme)) trivial rfl) trivial rfl) trivial rfl
  have hs : Since (hooks .useStytchIsAuthorized) (BringsPolicy .useStytchIsAuthorized) EffectRuns
      ChangesUnseen [.run, .run, .run, .effects, .render editDocuments, .refresh false,
        .arrive (some bareProject)] _ :=
    .later (.later (.later (.now hr trivial rfl nofun) trivial rfl id) trivial rfl id) trivial rfl id
  exact ⟨_, _, hs, rfl, hooks_converge hs ⟨rfl, rfl, rfl, ⟨_, rfl⟩, rfl⟩⟩

/-- The organization gets the custom role that the member has: no effect runs again, and the hook goes
on to say that the member is not authorized. -/
theorem hooks_miss_custom_roles :
    ¬ ∀ kind h s, Reach (hooks kind) anyStep h s → Settled s →
      ∃ query roles, s.rendered = some (query, roles) ∧ ShowsDecision s query := by
  intro hall
  have hr : Reach (hooks .useStytchIsAuthorized) anyStep
      [.refresh true, .update { inOther with organization := some ⟨some [editor]⟩ }, .run, .run, .run,
        .effects, .render editDocuments, .refresh false, .arrive (some bareProject)] _ :=
    reach_of_exec (init_newHook _ inOther) rfl
  obtain ⟨query, roles, hrendered, hshows⟩ := hall _ _ _ hr ⟨rfl, rfl, rfl, ⟨_, rfl⟩, rfl⟩
  obtain ⟨rfl, -⟩ := Prod.mk.inj (Option.some.inj hrendered)
  obtain ⟨fromCache, hvalue⟩ := hshows true rfl
  cases hvalue

end StytchBrowser.React
