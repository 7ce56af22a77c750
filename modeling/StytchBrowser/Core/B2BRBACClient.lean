import StytchBrowser.Core.RBACPolicy
import StytchBrowser.Lib.Machine

/-!
# The B2B RBAC client

`HeadlessB2BRBACClient` merges the project's policy with the custom roles of the organization. The
asynchronous calls read the organization after they awaited the policy, and the roles of the session
one microtask later.

Every call in flight has one microtask at a time, a job of `Client.queue`; other code may change the
store between any two of them. A call keeps the states that the store had since it was made, newest
first; the code has no such field.

* `one_snapshot_of_reach`: in which runs every call is answered from one of those states.
-/

namespace StytchBrowser.Core.B2BRBAC

open Machine

/-! ## The store -/

/-- An array `session.roles`: which one it is, and its elements. -/
structure RolesArray where
  ref : ℕ
  ids : List String
  deriving DecidableEq

structure MemberSession where
  roles : Option RolesArray

structure Organization where
  custom_roles : Option (List RBACPolicyRole)

/-- What the client reads of its subscription service. -/
structure StoreState where
  session : Option MemberSession
  organization : Option Organization

/-- `organization?.custom_roles`. -/
def customRoles (st : StoreState) : Option (List RBACPolicyRole) := st.organization.bind (·.custom_roles)

/-- `roleIds`. -/
def roleIds (st : StoreState) : List String :=
  match st.session with
  | none => []
  | some session => (session.roles.map (·.ids)).getD []

/-! ## The client -/

/-- What a caller asks. -/
inductive Query where
  | isAuthorized (resourceId action : String)
  | allPermissions
  deriving DecidableEq

/-- What it is told. -/
inductive Decision where
  | authorized (isAuthorized : Bool)
  | permissions (map : OrderedMap String (OrderedMap String Bool))

/-- The answer of a policy to a caller with the given roles. -/
def Query.evaluate (policy : RBACPolicy) (memberRoles : List String) :
    Query → Except TypeError Decision
  | .isAuthorized resourceId action =>
      (policy.callerIsAuthorized memberRoles resourceId action).map .authorized
  | .allPermissions => (policy.allPermissionsForCaller memberRoles).map .permissions

structure Call where
  query : Query
  /-- The states of the store since the call was made. -/
  seen : List StoreState

/-- A microtask of a call. -/
inductive Job where
  /-- `getEffectivePolicy` goes on after it awaited the policy. -/
  | resume (call : Call)
  /-- The callback of `then` with the policy that was merged, in the state `mergedIn`. -/
  | answer (call : Call) (policy : RBACPolicy) (mergedIn : StoreState)
  /-- The promise of the call is settled, and the caller's callback runs. -/
  | settle (call : Call) (result : Except TypeError Decision)

structure Client where
  cachedPolicy : Option RBACPolicy
  /-- The `rbacPolicy` of the dynamic configuration, when it has arrived. -/
  dynamicConfig : Option (Option RBACPolicyRaw)
  store : StoreState
  /-- The calls that await `policyPromise`. -/
  waiting : List Call
  queue : List Job

/-- What `policyPromise` is fulfilled with. -/
def policyOf : Option RBACPolicyRaw → RBACPolicy
  | none => ⟨[], []⟩
  | some raw => .fromJSON raw

/-- `isAuthorizedSync`. -/
def isAuthorizedSync (cachedPolicy : Option RBACPolicy) (st : StoreState)
    (resourceId action : String) : Except TypeError Bool :=
  match cachedPolicy with
  | none => .ok false
  | some policy =>
      (policy.effectivePolicy (customRoles st)).callerIsAuthorized (roleIds st) resourceId action

/-- What the store goes through while a call is under way. -/
def Call.see (st : StoreState) (c : Call) : Call := { c with seen := st :: c.seen }

def Job.see (st : StoreState) : Job → Job
  | .resume c => .resume (c.see st)
  | .answer c policy mergedIn => .answer (c.see st) policy mergedIn
  | .settle c result => .settle c result

/-- What can happen: other code calls the client or changes the store, the dynamic configuration
arrives, or the microtask at the head of the queue runs. -/
inductive ClientAction where
  | call (query : Query)
  | update (st : StoreState)
  | arrive (rbacPolicy : Option RBACPolicyRaw)
  | run

namespace Client

/-- `isAuthorized` and `allPermissions`. -/
def call (s : Client) (query : Query) : Client :=
  if s.dynamicConfig.isSome then { s with queue := s.queue ++ [.resume ⟨query, [s.store]⟩] }
  else { s with waiting := s.waiting ++ [⟨query, [s.store]⟩] }

def update (s : Client) (st : StoreState) : Client :=
  { s with
    store := st
    waiting := s.waiting.map (Call.see st)
    queue := s.queue.map (Job.see st) }

/-- The callback on the dynamic configuration. -/
def arrive (s : Client) (rbacPolicy : Option RBACPolicyRaw) : Client :=
  { s with
    cachedPolicy := (rbacPolicy.map RBACPolicy.fromJSON).or s.cachedPolicy
    dynamicConfig := some rbacPolicy
    waiting := []
    queue := s.queue ++ s.waiting.map .resume }

/-- The job that follows a job. -/
def follow (s : Client) (data : Option RBACPolicyRaw) : Job → Option Job
  | .resume c => some (.answer c ((policyOf data).effectivePolicy (customRoles s.store)) s.store)
  | .answer c policy _ => some (.settle c (c.query.evaluate policy (roleIds s.store)))
  | .settle _ _ => none

/-- The microtask at the head of the queue runs. -/
def run (s : Client) : Option Client :=
  match s.dynamicConfig, s.queue with
  | some data, job :: queue => some { s with queue := queue ++ (s.follow data job).toList }
  | _, _ => none

def next (s : Client) : ClientAction → Option Client
  | .call query => some (s.call query)
  | .update st => some (s.update st)
  | .arrive rbacPolicy => if s.dynamicConfig.isNone then some (s.arrive rbacPolicy) else none
  | .run => s.run

end Client

/-- A client that was constructed, with any cached policy and on any store. -/
def clients : Machine Client ClientAction where
  init s := s.dynamicConfig = none ∧ s.waiting = [] ∧ s.queue = []
  next := Client.next

/-- The result is what the policy answers in one state that the store had during the call; once a
policy has arrived, it is what `isAuthorizedSync` returns in that state. -/
def OneSnapshot (s : Client) (c : Call) (result : Except TypeError Decision) : Prop :=
  ∃ data, s.dynamicConfig = some data ∧ ∃ st ∈ c.seen,
    result = c.query.evaluate ((policyOf data).effectivePolicy (customRoles st)) (roleIds st) ∧
      (data.isSome → ∀ resourceId action, c.query = .isAuthorized resourceId action →
        result = (isAuthorizedSync s.cachedPolicy st resourceId action).map .authorized)

/-- Every call that is settled is answered from one snapshot. -/
def AnswersFromSnapshots (s : Client) : Prop :=
  ∀ c result, Job.settle c result ∈ s.queue → OneSnapshot s c result

/-- Between the two reads of a call the store keeps the role ids or the custom roles that it had at
the first of them. -/
def KeepsOneRead : Guard Client ClientAction := fun _ s a =>
  match a with
  | .update st => ∀ c policy mergedIn, Job.answer c policy mergedIn ∈ s.queue →
      roleIds st = roleIds mergedIn ∨ customRoles st = customRoles mergedIn
  | _ => True

/-! ## What is known of the jobs -/

/-- What a job has of the states that its call has seen. -/
def Job.Ok (s : Client) : Job → Prop
  | .resume c => s.store ∈ c.seen
  | .answer c policy mergedIn =>
      s.store ∈ c.seen ∧ mergedIn ∈ c.seen ∧
        (∃ data, s.dynamicConfig = some data ∧
          policy = (policyOf data).effectivePolicy (customRoles mergedIn)) ∧
        (roleIds s.store = roleIds mergedIn ∨ customRoles s.store = customRoles mergedIn)
  | .settle c result => OneSnapshot s c result

structure Ok (s : Client) : Prop where
  jobs : ∀ job ∈ s.queue, job.Ok s
  waiting : ∀ c ∈ s.waiting, s.store ∈ c.seen
  cached : ∀ raw, s.dynamicConfig = some (some raw) → s.cachedPolicy = some (.fromJSON raw)
  pending : s.dynamicConfig = none → s.queue = []

variable {s s' : Client}

/-- Where the cached policy is the one that arrived, the two ways of asking agree. -/
theorem evaluate_eq_sync {raw : RBACPolicyRaw} (h : s.cachedPolicy = some (.fromJSON raw))
    (st : StoreState) (resourceId action : String) :
    Query.evaluate ((policyOf (some raw)).effectivePolicy (customRoles st)) (roleIds st)
        (.isAuthorized resourceId action) =
      (isAuthorizedSync s.cachedPolicy st resourceId action).map .authorized := by
  rw [h]
  rfl

theorem Ok.oneSnapshot (hs : Ok s) {data : Option RBACPolicyRaw} (hdata : s.dynamicConfig = some data)
    {c : Call} {st : StoreState} (hst : st ∈ c.seen) :
    OneSnapshot s c
      (c.query.evaluate ((policyOf data).effectivePolicy (customRoles st)) (roleIds st)) := by
  refine ⟨data, hdata, st, hst, rfl, fun hsome resourceId action hquery => ?_⟩
  obtain ⟨raw, rfl⟩ := Option.isSome_iff_exists.1 hsome
  rw [hquery]
  exact evaluate_eq_sync (hs.cached raw hdata) st resourceId action

theorem Ok.call (hs : Ok s) (query : Query) : Ok (s.call query) := by
  unfold Client.call
  split_ifs with hsome
  · refine ⟨fun job hjob => ?_, hs.waiting, hs.cached, fun hnone => ?_⟩
    · rcases List.mem_append.1 hjob with hjob | hjob
      · have := hs.jobs job hjob
        cases job <;> exact this
      · obtain rfl := List.mem_singleton.1 hjob
        exact List.mem_singleton_self _
    · rw [show s.dynamicConfig = none from hnone] at hsome
      cases hsome
  · refine ⟨fun job hjob => ?_, fun c hc => ?_, hs.cached, hs.pending⟩
    · have := hs.jobs job hjob
      cases job <;> exact this
    · rcases List.mem_append.1 hc with hc | hc
      · exact hs.waiting c hc
      · obtain rfl := List.mem_singleton.1 hc
        exact List.mem_singleton_self _

theorem Ok.update (hs : Ok s) {st : StoreState}
    (hkeeps : ∀ c policy mergedIn, Job.answer c policy mergedIn ∈ s.queue →
      roleIds st = roleIds mergedIn ∨ customRoles st = customRoles mergedIn) : Ok (s.update st) := by
  refine ⟨fun job hjob => ?_, fun c hc => ?_, hs.cached, fun hnone => ?_⟩
  · obtain ⟨job, hmem, rfl⟩ := List.mem_map.1 hjob
    have hok := hs.jobs job hmem
    cases job with
    | resume c => exact List.mem_cons_self
    | answer c policy mergedIn =>
      obtain ⟨-, hmerged, hpolicy, -⟩ := hok
      exact ⟨List.mem_cons_self, List.mem_cons_of_mem _ hmerged, hpolicy, hkeeps c policy mergedIn hmem⟩
    | settle c result => exact hok
  · obtain ⟨c, -, rfl⟩ := List.mem_map.1 hc
    exact List.mem_cons_self
  · exact List.map_eq_nil_iff.2 (hs.pending hnone)

theorem Ok.arrive (hs : Ok s) (hnone : s.dynamicConfig = none) (data : Option RBACPolicyRaw) :
    Ok (s.arrive data) := by
  refine ⟨fun job hjob => ?_, nofun, fun raw hraw => ?_, nofun⟩
  · have hjob : job ∈ s.queue ++ s.waiting.map Job.resume := hjob
    rw [hs.pending hnone, List.nil_append] at hjob
    obtain ⟨c, hc, rfl⟩ := List.mem_map.1 hjob
    exact hs.waiting c hc
  · obtain rfl : data = some raw := Option.some.inj hraw
    rfl

theorem Ok.run (hs : Ok s) (hn : s.run = some s') : Ok s' := by
  unfold Client.run at hn
  split at hn
  · next data job queue hdata hqueue =>
    obtain rfl := Option.some.inj hn
    refine ⟨fun job' hjob' => ?_, hs.waiting, hs.cached, fun hnone => ?_⟩
    · rcases List.mem_append.1 hjob' with hold | hnew
      · have := hs.jobs job' (by rw [hqueue]; exact List.mem_cons_of_mem _ hold)
        cases job' <;> exact this
      · have hok := hs.jobs job (by rw [hqueue]; exact List.mem_cons_self)
        cases job with
        | resume c =>
          obtain rfl := List.mem_singleton.1 hnew
          exact ⟨hok, hok, ⟨data, hdata, rfl⟩, .inl rfl⟩
        | answer c policy mergedIn =>
          obtain rfl := List.mem_singleton.1 hnew
          obtain ⟨hstore, hmerged, ⟨data', hdata', rfl⟩, hread⟩ := hok
          obtain rfl : data = data' := Option.some.inj (hdata.symm.trans hdata')
          -- the state is the one of the first read, or the one of the second
          rcases hread with hroles | hcustom
          · rw [hroles]
            exact hs.oneSnapshot hdata hmerged
          · rw [← hcustom]
            exact hs.oneSnapshot hdata hstore
        | settle c result => cases hnew
    · rw [show s.dynamicConfig = none from hnone] at hdata
      cases hdata
  · cases hn

/-- In every run in which the store keeps one of the two reads of every call, the calls are answered
from one snapshot. -/
theorem one_snapshot_of_reach {h : List ClientAction} (hr : Reach clients KeepsOneRead h s) :
    AnswersFromSnapshots s := by
  have hok : Ok s := by
    refine hr.invariant (I := fun _ s => Ok s) ?_ ?_
    · rintro s ⟨hconfig, hwaiting, hqueue⟩
      refine ⟨fun job hjob => ?_, fun c hc => ?_, fun raw hraw => ?_, fun _ => hqueue⟩
      · rw [hqueue] at hjob
        cases hjob
      · rw [hwaiting] at hc
        cases hc
      · rw [hconfig] at hraw
        cases hraw
    · rintro _ s a s' hs hc hn
      cases a with
      | call query =>
        obtain rfl := Option.some.inj hn
        exact hs.call query
      | update st =>
        obtain rfl := Option.some.inj hn
        exact hs.update hc
      | arrive data =>
        simp only [clients, Client.next] at hn
        split_ifs at hn with hnone
        obtain rfl := Option.some.inj hn
        exact hs.arrive (Option.isNone_iff_eq_none.1 hnone) data
      | run => exact hs.run hn
  exact fun c result hmem => hok.jobs _ hmem

/-- A role of one organization. -/
def editor : RBACPolicyRole := ⟨"editor", "", [⟨"documents", ["edit"]⟩]⟩

/-- A member without roles, of the organization that has the role. -/
def inAcme : StoreState := ⟨some ⟨some ⟨0, []⟩⟩, some ⟨some [editor]⟩⟩

/-- A member with that role, of the organization that has it. -/
def editorInAcme : StoreState := ⟨some ⟨some ⟨1, ["editor"]⟩⟩, some ⟨some [editor]⟩⟩

/-- A member of another organization, with a role that it does not have any more. -/
def inOther : StoreState := ⟨some ⟨some ⟨2, ["editor"]⟩⟩, some ⟨none⟩⟩

/-- A project without roles. -/
def bareProject : RBACPolicyRaw := ⟨[], [⟨"documents", "", ["edit"]⟩], []⟩

def newClient (st : StoreState) : Client := ⟨none, none, st, [], []⟩

theorem init_newClient (st : StoreState) : clients.init (newClient st) := ⟨rfl, rfl, rfl⟩

/-- A call that waits for the policy and is answered. -/
theorem one_snapshot_editor :
    ∃ h s c, Reach clients KeepsOneRead h s ∧
      Job.settle c (.ok (.authorized true)) ∈ s.queue ∧ AnswersFromSnapshots s := by
  have hr : Reach clients KeepsOneRead
      [.run, .run, .arrive (some bareProject), .call (.isAuthorized "documents" "edit")] _ :=
    .step (.step (.step (.step (.start (init_newClient editorInAcme)) trivial rfl) trivial rfl)
      trivial rfl) trivial rfl
  exact ⟨_, _, _, hr, List.mem_singleton_self _, one_snapshot_of_reach hr⟩

/-- The organization is switched between the two reads: the roles in the one are held against the
custom roles of the other, and the caller is authorized as in neither. -/
theorem answers_across_organizations :
    ¬ ∀ h s, Reach clients anyStep h s → AnswersFromSnapshots s := by
  intro hall
  have hr : Reach clients anyStep
      [.run, .update inOther, .run, .call (.isAuthorized "documents" "edit"),
        .arrive (some bareProject)] _ := reach_of_exec (init_newClient inAcme) rfl
  obtain ⟨data, hdata, st, hst, hresult, -⟩ := hall _ _ hr _ _ (List.mem_singleton_self _)
  obtain rfl : some bareProject = data := Option.some.inj hdata
  rcases List.mem_cons.1 hst with rfl | hst
  · cases hresult
  · obtain rfl := List.mem_singleton.1 hst
    cases hresult

end StytchBrowser.Core.B2BRBAC
