import StytchBrowser.AdminPortal.RoleAssignmentChanges

/-!
# Saving automatic role assignments

* `localAssignments_spec`: the entries of each connection that are read back;
* `stored_spec`: what is stored after saving;
* `page_of_edits`: no edit and no render throws;
* `savesExactly_iff`: when saving applies exactly the edits.
-/

universe u

namespace StytchBrowser.AdminPortal.OrgRoles

open Grouping SSO

section Reading

variable {ι : Type u} [DecidableEq ι]

/-! ## The connections -/

section Connections

variable {config : Config ι}

theorem get_byId {α : Type} (f : TaggedConnection ι → α) {connection : TaggedConnection ι}
    (h : connection ∈ config.taggedConnections) :
    (byId config f).get connection.connection_id = some (f connection) :=
  (OrderedMap.get_eq_some_iff ..).2
    (List.mem_map_of_mem (f := fun c : TaggedConnection ι => (c.connection_id, f c)) h)

theorem get_byId_eq_none {α : Type} (f : TaggedConnection ι → α) {id : ι}
    (h : id ∉ config.taggedConnections.map (·.connection_id)) : (byId config f).get id = none := by
  rw [OrderedMap.get_eq_none_iff, OrderedMap.keys, byId, List.map_map]
  exact h

theorem infoOf_concat (id : ι) (l : List (String × RoleAssignment ι))
    (e : String × RoleAssignment ι) :
    infoOf id (l ++ [e]) =
      match e.2 with
      | .SSO _ id' group => if id' = id then (infoOf id l).push e.1 group else infoOf id l
      | _ => infoOf id l := by
  obtain ⟨role, a⟩ := e
  cases a with
  | Email displayName => simp [infoOf]
  | SCIM displayName groupId => simp [infoOf]
  | SSO displayName id' group =>
    by_cases hid : id' = id
    · by_cases hgroup : group = "" <;> simp [infoOf, SSORoleAssignmentInfo.push, hid, hgroup]
    · simp [infoOf, hid]

/-- Every connection has its entries of a list. -/
def Collected (config : Config ι) (l : List (String × RoleAssignment ι))
    (m : OrderedMap ι SSORoleAssignmentInfo) : Prop :=
  ∀ id, m.get id =
    if id ∈ config.taggedConnections.map (·.connection_id) then some (infoOf id l) else none

/-- One turn of the loop adds its entry. -/
theorem Collected.addLocal {l : List (String × RoleAssignment ι)}
    {m : OrderedMap ι SSORoleAssignmentInfo} (hm : Collected config l m)
    {e : String × RoleAssignment ι} (he : Savable config e.2) :
    ∃ m', addLocal m e = .ok m' ∧ Collected config (l ++ [e]) m' := by
  obtain ⟨role, a⟩ := e
  cases a with
  | Email displayName => exact ⟨m, rfl, fun id => by rw [hm, infoOf_concat]⟩
  | SCIM displayName groupId => exact ⟨m, rfl, fun id => by rw [hm, infoOf_concat]⟩
  | SSO displayName id' group =>
    have hmem : id' ∈ config.taggedConnections.map (·.connection_id) := he
    have hget : m.get id' = some (infoOf id' l) := (hm id').trans (if_pos hmem)
    refine ⟨m.set id' ((infoOf id' l).push role group), by simp [OrgRoles.addLocal, hget],
      fun id => ?_⟩
    rw [OrderedMap.get_set, infoOf_concat, hm]
    by_cases hid : id = id'
    · subst hid
      rw [if_pos rfl, if_pos hmem]
      exact congrArg some (if_pos rfl).symm
    · simp [hid, Ne.symm hid]

theorem localAssignments_spec {idMap : IdToRoleAssignments ι}
    (h : ∀ e ∈ traversed idMap, Savable config e.2) :
    ∃ m, localAssignments config idMap = .ok m ∧ Collected config (traversed idMap) m := by
  refine FailingFolds.foldlM_ok (fun id => ?_) _ fun l m e he hm => hm.addLocal (h e he)
  split_ifs with hid
  · obtain ⟨connection, hmem, rfl⟩ := List.mem_map.1 hid
    exact get_byId _ hmem
  · exact get_byId_eq_none _ hid

theorem updatedSso_spec {idMap : IdToRoleAssignments ι} (collation : Collation)
    (h : ∀ e ∈ traversed idMap, Savable config e.2) :
    ∃ sso, updatedSsoRoleAssignments collation config idMap = .ok sso ∧
      (∀ id, id ∉ config.taggedConnections.map (·.connection_id) → sso.get id = none) ∧
      ∀ connection ∈ config.taggedConnections, sso.get connection.connection_id =
        if hasUpdatedConnection collation (infoOf connection.connection_id (traversed idMap))
          connection.assignments then some (infoOf connection.connection_id (traversed idMap))
        else none := by
  obtain ⟨m, hok, hget⟩ := localAssignments_spec h
  refine ⟨_, by rw [updatedSsoRoleAssignments, hok]; rfl, fun id hid => ?_, fun connection hmem => ?_⟩
  · rw [OrderedMap.get_filter, hget, if_neg hid]
    rfl
  · rw [OrderedMap.get_filter, hget, if_pos (List.mem_map_of_mem hmem), remoteAssignments,
      get_byId _ hmem]
    simp [Option.filter]

end Connections

/-! ## What is stored -/

section Stored

variable {config : Config ι} {updates : Updates ι}

/-- The lists that are to be saved are those of connections of the page. -/
def Updates.Known (config : Config ι) (updates : Updates ι) : Prop :=
  ∀ id, id ∉ config.taggedConnections.map (·.connection_id) → updates.sso.get id = none

theorem foldl_mutate_sso (l : List (ι × SSORoleAssignmentInfo))
    (hl : ∀ e ∈ l, e.1 ∈ config.taggedConnections.map (·.connection_id)) (backend : Backend ι) :
    (l.filterMap fun e =>
        ((byId config TaggedConnection.connectionType).get e.1).map (mutateSsoConnection e)).foldl
          Backend.mutate backend =
      { backend with
        connections := l.foldl (fun acc e => acc.set e.1 e.2) backend.connections } := by
  induction l generalizing backend with
  | nil => rfl
  | cons e l ih =>
    obtain ⟨connection, hmem, hid⟩ := List.mem_map.1 (hl e List.mem_cons_self)
    have hget : (byId config TaggedConnection.connectionType).get e.1 =
        some connection.connectionType := hid ▸ get_byId _ hmem
    have ih := ih fun e' he' => hl e' (List.mem_cons_of_mem _ he')
    cases htype : connection.connectionType with
    | saml =>
      rw [List.filterMap_cons_some (by rw [hget, htype]; rfl), List.foldl_cons, ih]
      rfl
    | external =>
      rw [List.filterMap_cons_some (by rw [hget, htype]; rfl), List.foldl_cons, ih]
      rfl

/-- Saving replaces the lists that have changed. -/
theorem stored_spec (h : updates.Known config) :
    stored config updates =
      { emails := updates.emails.getD config.remoteEmails
        connections := (remoteAssignments config).merge updates.sso
        scimGroups :=
          (config.scimConnection.bind fun _ => updates.scimGroups).getD config.remoteScimGroups } := by
  have hkeys : ∀ e ∈ updates.sso.entries, e.1 ∈ config.taggedConnections.map (·.connection_id) := by
    intro e he
    by_contra hid
    have hget := (updates.sso.get_eq_some_iff e.1 e.2).2 he
    rw [h e.1 hid] at hget
    cases hget
  have hemails : ∀ (emails : Option (List RbacEmailRoleAssignment)) (backend : Backend ι),
      (emails.map Mutation.organization).toList.foldl Backend.mutate backend =
        { backend with emails := emails.getD backend.emails } := by
    intro emails backend
    cases emails <;> rfl
  have hscim : ∀ (sent : Option (List SCIMGroupRoleAssignment)) (id : ι) (backend : Backend ι),
      (sent.map (Mutation.scim id)).toList.foldl Backend.mutate backend =
        { backend with scimGroups := sent.getD backend.scimGroups } := by
    intro sent id backend
    cases sent <;> rfl
  rw [stored, handleSave, List.foldl_append, List.foldl_append, hemails, foldl_mutate_sso _ hkeys]
  cases config.scimConnection with
  | none => rfl
  | some scimConnection => exact hscim _ _ _

/-- Every mutation is one for a list that has changed. -/
theorem mem_handleSave {m : Mutation ι} (h : m ∈ handleSave config updates) :
    (∃ emails, m = .organization emails ∧ updates.emails = some emails) ∨
      (∃ id info, (m = .saml id info ∨ m = .external id info) ∧ updates.sso.get id = some info) ∨
      ∃ id groups, m = .scim id groups ∧ updates.scimGroups = some groups := by
  unfold handleSave at h
  rcases List.mem_append.1 h with h | h
  · rcases List.mem_append.1 h with h | h
    · obtain ⟨emails, hemails, rfl⟩ := Option.map_eq_some_iff.1 (Option.mem_toList.1 h)
      exact .inl ⟨emails, rfl, hemails⟩
    · obtain ⟨e, he, hm⟩ := List.mem_filterMap.1 h
      obtain ⟨connectionType, -, hm⟩ := Option.map_eq_some_iff.1 hm
      have hget := (updates.sso.get_eq_some_iff e.1 e.2).2 he
      refine .inr (.inl ⟨e.1, e.2, ?_, hget⟩)
      cases connectionType with
      | saml => exact .inl hm.symm
      | external => exact .inr hm.symm
  · obtain ⟨scimConnection, -, h⟩ := Option.bind_eq_some_iff.1 (Option.mem_toList.1 h)
    obtain ⟨groups, hgroups, rfl⟩ := Option.map_eq_some_iff.1 h
    exact .inr (.inr ⟨_, groups, rfl, hgroups⟩)

/-- A list that has not changed is not sent. -/
theorem organization_not_mem (h : updates.emails = none) (emails : List RbacEmailRoleAssignment) :
    .organization emails ∉ handleSave config updates := by
  intro hm
  rcases mem_handleSave hm with ⟨_, -, hsome⟩ | ⟨_, _, heq | heq, -⟩ | ⟨_, _, heq, -⟩
  · cases h.symm.trans hsome
  all_goals cases heq

theorem connection_not_mem {id : ι} (h : updates.sso.get id = none) (info : SSORoleAssignmentInfo) :
    .saml id info ∉ handleSave config updates ∧ .external id info ∉ handleSave config updates := by
  constructor <;> intro hm <;>
    rcases mem_handleSave hm with ⟨_, heq, -⟩ | ⟨_, _, heq | heq, hsome⟩ | ⟨_, _, heq, -⟩ <;>
    cases heq
  all_goals cases h.symm.trans hsome

theorem scim_not_mem (h : updates.scimGroups = none) (id : ι)
    (groups : List SCIMGroupRoleAssignment) : .scim id groups ∉ handleSave config updates := by
  intro hm
  rcases mem_handleSave hm with ⟨_, heq, -⟩ | ⟨_, _, heq | heq, -⟩ | ⟨_, _, -, hsome⟩
  · cases heq
  · cases heq
  · cases heq
  · cases h.symm.trans hsome

end Stored

/-! ## A render of a valid form -/

section Valid

variable {collation : Collation} {config : Config ι} {idMap : IdToRoleAssignments ι}

omit [DecidableEq ι] in
theorem Valid.savable_traversed (h : Valid config idMap) {e : String × RoleAssignment ι}
    (he : e ∈ traversed idMap) : Savable config e.2 := by
  have hlisted := ((objectEntries_perm idMap.own).flatMap_right (keyed id)).subset he
  obtain ⟨row, hrow, ha⟩ := (mem_listed id).1 hlisted
  exact h.savable e.1 row hrow e.2 ha

omit [DecidableEq ι] in
theorem Valid.rolesWithAssignments (h : Valid config idMap) :
    ∃ roles, rolesWithAssignments config idMap = .ok roles := by
  have hfold : ∃ roles, OrgRoles.rolesWithAssignments config idMap = .ok roles ∧ True := by
    refine FailingFolds.foldlM_ok (P := fun _ _ => True) trivial _ fun _ acc role hrole _ => ?_
    obtain ⟨row, -, hget, -⟩ := h.array hrole
    rw [hget]
    exact ⟨_, rfl, trivial⟩
  obtain ⟨roles, hok, -⟩ := hfold
  exact ⟨roles, hok⟩

/-- What a render reports. -/
structure Reports (collation : Collation) (config : Config ι) (idMap : IdToRoleAssignments ι)
    (updates : Updates ι) : Prop where
  emails : updates.emails = updatedEmails collation config idMap
  known : updates.Known config
  connections : ∀ connection ∈ config.taggedConnections, updates.sso.get connection.connection_id =
    if hasUpdatedConnection collation (infoOf connection.connection_id (traversed idMap))
      connection.assignments then some (infoOf connection.connection_id (traversed idMap))
    else none
  scimGroups : updates.scimGroups = updatedScimGroups config idMap

/-- A render of a valid form does not throw. -/
theorem Valid.render (h : Valid config idMap) (collation : Collation) :
    ∃ updates, render collation config idMap = .ok ⟨idMap, updates⟩ ∧
      Reports collation config idMap updates := by
  obtain ⟨roles, hroles⟩ := h.rolesWithAssignments
  obtain ⟨sso, hsso, hknown, hget⟩ := updatedSso_spec collation fun e he => h.savable_traversed he
  refine ⟨⟨updatedEmails collation config idMap, sso, updatedScimGroups config idMap⟩, ?_,
    rfl, hknown, hget, rfl⟩
  rw [OrgRoles.render, hroles, Except.bind, updates, hsso]
  rfl

omit [DecidableEq ι] in
/-- Without a connection for SCIM the form has no entries for it. -/
theorem Valid.scimGroupsOf_eq_nil (h : Valid config idMap) (hscim : config.scimConnection = none) :
    scimGroupsOf (traversed idMap) = [] := by
  refine List.filterMap_eq_nil_iff.2 fun e he => ?_
  have hsavable := h.savable_traversed he
  obtain ⟨role, a⟩ := e
  cases a with
  | Email displayName => rfl
  | SSO displayName id group => rfl
  | SCIM displayName groupId =>
    have hsome : config.scimConnection.isSome = true := hsavable
    rw [hscim] at hsome
    cases hsome

theorem Reports.applied {updates : Updates ι} (h : Valid config idMap)
    (hr : Reports collation config idMap updates) : Applied config ⟨idMap, updates⟩ := by
  have hperm := traversed_perm h.proto
  have hstored := stored_spec hr.known
  refine ⟨?_, fun connection hmem => ?_, ?_⟩
  · rw [hstored, hr.emails]
    rcases updatedEmails_cases collation config idMap with ⟨hsame, hnone⟩ | ⟨-, emails, hsome, hp⟩
    · rw [hnone]
      exact hsame.perm.symm.trans (emailsOf_perm hperm)
    · rw [hsome]
      exact hp.trans (emailsOf_perm hperm)
  · rw [hstored]
    dsimp only
    rw [OrderedMap.get_merge, hr.connections connection hmem, remoteAssignments, get_byId _ hmem]
    split_ifs with hupdated
    · exact ⟨_, rfl, infoOf_perm _ hperm⟩
    · obtain ⟨hsame, -⟩ := hasUpdatedConnection_eq_false_iff.1 (Bool.eq_false_iff.2 hupdated)
      exact ⟨_, rfl, hsame.symm.trans (infoOf_perm _ hperm)⟩
  · rw [hstored, hr.scimGroups]
    dsimp only
    refine List.Perm.trans ?_ (pairs_scimGroupsOf_perm hperm)
    rcases updatedScimGroups_cases config idMap with ⟨hsame, hnone⟩ | ⟨hne, hsome⟩
    · rw [hnone, hsame]
      cases config.scimConnection <;> rfl
    · rw [hsome]
      cases hscim : config.scimConnection with
      | some scimConnection => rfl
      | none =>
        refine absurd ?_ hne
        rw [h.scimGroupsOf_eq_nil hscim, Config.remoteScimGroups, hscim]
        rfl

/-- Sources that are unchanged are left alone exactly when they are listed in the remote order. -/
theorem Reports.quiet_iff {updates : Updates ι} (h : Valid config idMap)
    (hr : Reports collation config idMap updates) :
    Quiet config ⟨idMap, updates⟩ ↔ InOrder collation config idMap := by
  have hperm := traversed_perm h.proto
  constructor
  · intro hq
    refine ⟨fun hsame => ?_, fun connection hmem hsame => ?_, fun hsame => ?_⟩
    · have hnone := (hq.emails ((emailsOf_perm hperm).symm.trans hsame)).1
      rcases updatedEmails_cases collation config idMap with ⟨horder, -⟩ | ⟨-, emails, hsome, -⟩
      · exact horder
      · cases hnone.symm.trans (hr.emails.trans hsome)
    · have hnone := (hq.connections connection hmem ((infoOf_perm _ hperm.symm).trans hsame)).1
      rw [hr.connections connection hmem] at hnone
      split_ifs at hnone with hupdated
      exact (hasUpdatedConnection_eq_false_iff.1 (Bool.eq_false_iff.2 hupdated)).2
    · have hnone := (hq.scimGroups ((pairs_scimGroupsOf_perm hperm).symm.trans hsame)).1
      rcases updatedScimGroups_cases config idMap with ⟨heq, -⟩ | ⟨-, hsome⟩
      · exact heq
      · cases hnone.symm.trans (hr.scimGroups.trans hsome)
  · intro ho
    refine ⟨fun hsame => ?_, fun connection hmem hsame => ?_, fun hsame => ?_⟩
    · have horder := ho.emails ((emailsOf_perm hperm).trans hsame)
      have hnone : updates.emails = none := by
        rcases updatedEmails_cases collation config idMap with ⟨-, hnone⟩ | ⟨hnot, -⟩
        · exact hr.emails.trans hnone
        · exact absurd horder hnot
      exact ⟨hnone, organization_not_mem hnone⟩
    · have hsame := (infoOf_perm connection.connection_id hperm).trans hsame
      have hnone : updates.sso.get connection.connection_id = none := by
        rw [hr.connections connection hmem,
          hasUpdatedConnection_eq_false_iff.2 ⟨hsame, ho.groups connection hmem hsame⟩]
        rfl
      exact ⟨hnone, connection_not_mem hnone⟩
    · have heq := ho.scimGroups ((pairs_scimGroupsOf_perm hperm).trans hsame)
      have hnone : updates.scimGroups = none := by
        rcases updatedScimGroups_cases config idMap with ⟨-, hnone⟩ | ⟨hne, -⟩
        · exact hr.scimGroups.trans hnone
        · exact absurd heq hne
      exact ⟨hnone, scim_not_mem hnone⟩

end Valid

/-! ## The remote assignments read back -/

section Assigned

variable {config : Config ι}

omit [DecidableEq ι] in
theorem filterMap_assigned {β : Type} (f : String × RoleAssignment ι → Option β) :
    config.assigned.filterMap f =
      (config.taggedConnections.flatMap fun connection => connection.entries.filterMap f) ++
        (config.remoteEmails.map RbacEmailRoleAssignment.entry).filterMap f ++
        ((config.scimConnection.map SCIMConnection.entries).getD []).filterMap f := by
  rw [Config.assigned, List.filterMap_append, List.filterMap_append, List.filterMap_flatMap]

omit [DecidableEq ι] in
theorem filterMap_entries {β : Type} (f : String × RoleAssignment ι → Option β)
    (connection : TaggedConnection ι) :
    connection.entries.filterMap f =
      (connection.assignments.connectionRoleAssignments.filterMap fun role_id =>
        f (role_id, .SSO connection.display_name connection.connection_id "")) ++
      connection.assignments.groupRoleAssignments.filterMap fun a =>
        f (a.role_id, .SSO connection.display_name connection.connection_id a.group) := by
  rw [TaggedConnection.entries, List.filterMap_append, List.filterMap_map, List.filterMap_map]
  rfl

omit [DecidableEq ι] in
/-- What does not look at entries for SSO finds nothing among those of the connections. -/
theorem filterMap_connections {β : Type} {f : String × RoleAssignment ι → Option β}
    (h : ∀ role displayName id group, f (role, .SSO displayName id group) = none) :
    (config.taggedConnections.flatMap fun connection => connection.entries.filterMap f) = [] := by
  refine List.flatMap_eq_nil_iff.2 fun connection _ => ?_
  rw [filterMap_entries, List.filterMap_eq_nil_iff.2 fun _ _ => h .., List.nil_append]
  exact List.filterMap_eq_nil_iff.2 fun _ _ => h ..

omit [DecidableEq ι] in
theorem filterMap_emails {β : Type} {f : String × RoleAssignment ι → Option β}
    (h : ∀ role displayName, f (role, .Email displayName) = none) :
    (config.remoteEmails.map RbacEmailRoleAssignment.entry).filterMap f = [] := by
  refine List.filterMap_eq_nil_iff.2 fun e he => ?_
  obtain ⟨a, -, rfl⟩ := List.mem_map.1 he
  exact h ..

omit [DecidableEq ι] in
theorem filterMap_scim {β : Type} {f : String × RoleAssignment ι → Option β}
    (h : ∀ role displayName groupId, f (role, .SCIM displayName groupId) = none) :
    ((config.scimConnection.map SCIMConnection.entries).getD []).filterMap f = [] := by
  cases config.scimConnection with
  | none => rfl
  | some connection =>
    refine List.filterMap_eq_nil_iff.2 fun e he => ?_
    obtain ⟨a, -, rfl⟩ := List.mem_map.1 he
    exact h ..

omit [DecidableEq ι] in
theorem emailsOf_assigned : emailsOf config.assigned = config.remoteEmails := by
  rw [emailsOf, filterMap_assigned, filterMap_connections fun _ _ _ _ => rfl,
    filterMap_scim fun _ _ _ => rfl, List.nil_append, List.append_nil, List.filterMap_map]
  exact List.filterMap_some

omit [DecidableEq ι] in
theorem pairs_scimGroupsOf_assigned :
    pairs (scimGroupsOf config.assigned) = pairs config.remoteScimGroups := by
  rw [scimGroupsOf, filterMap_assigned, filterMap_connections fun _ _ _ _ => rfl,
    filterMap_emails fun _ _ => rfl, Config.remoteScimGroups]
  cases config.scimConnection with
  | none => rfl
  | some connection => simp [SCIMConnection.entries, pairs, Function.comp_def]

/-- The entries of a connection are for no other one; a group has a name. -/
theorem infoOf_entries (id : ι) {connection : TaggedConnection ι}
    (hmem : connection ∈ config.taggedConnections) :
    infoOf id connection.entries =
      if connection.connection_id = id then connection.assignments else ⟨[], []⟩ := by
  have hnamed := config.named connection hmem
  rw [infoOf, filterMap_entries, filterMap_entries]
  by_cases hid : connection.connection_id = id
  · have hgroups : (connection.assignments.groupRoleAssignments.filterMap fun a =>
        if connection.connection_id = id ∧ a.group ≠ "" then
          some (GroupRoleAssignment.mk a.group a.role_id) else none) =
        connection.assignments.groupRoleAssignments := by
      refine (List.filterMap_congr fun a ha => if_pos ⟨hid, hnamed a ha⟩).trans ?_
      exact List.filterMap_some
    have hroles : (connection.assignments.groupRoleAssignments.filterMap fun a =>
        if connection.connection_id = id ∧ a.group = "" then some a.role_id else none) = [] :=
      List.filterMap_eq_nil_iff.2 fun a ha => if_neg fun h => hnamed a ha h.2
    dsimp only
    rw [hgroups, hroles]
    simp [hid]
  · simp [hid]

/-- A field of the info of a connection, read from the entries of all connections. -/
theorem flatMap_infoOf {β : Type} (field : SSORoleAssignmentInfo → List β)
    (hfield : field ⟨[], []⟩ = []) {connection : TaggedConnection ι}
    (hmem : connection ∈ config.taggedConnections) :
    (config.taggedConnections.flatMap fun c => field (infoOf connection.connection_id c.entries)) =
      field connection.assignments := by
  have hentries : ∀ c ∈ config.taggedConnections,
      field (infoOf connection.connection_id c.entries) =
        if c.connection_id = connection.connection_id then field c.assignments else [] := by
    intro c hc
    rw [infoOf_entries _ hc]
    split_ifs
    · rfl
    · exact hfield
  exact (List.flatMap_congr hentries).trans
    (flatMap_of_key config.distinct hmem fun c => field c.assignments)

theorem infoOf_assigned {connection : TaggedConnection ι}
    (hmem : connection ∈ config.taggedConnections) :
    infoOf connection.connection_id config.assigned = connection.assignments := by
  have hroles := flatMap_infoOf SSORoleAssignmentInfo.connectionRoleAssignments rfl hmem
  have hgroups := flatMap_infoOf SSORoleAssignmentInfo.groupRoleAssignments rfl hmem
  rw [infoOf, filterMap_assigned, filterMap_assigned, filterMap_scim fun _ _ _ => rfl,
    filterMap_scim fun _ _ _ => rfl, filterMap_emails fun _ _ => rfl,
    filterMap_emails fun _ _ => rfl]
  simp only [List.append_nil]
  exact congrArg₂ SSORoleAssignmentInfo.mk hroles hgroups

end Assigned

/-! ## Runs -/

section Runs

variable {collation : Collation} {config : Config ι}

/-- Edits that start from a valid form lead to a valid form, and no render throws on the way. -/
theorem page_of_edits (edits : List (Edit ι)) (opened : Page ι) (hvalid : Valid config opened.idMap)
    (hreports : Reports collation config opened.idMap opened.updates) :
    ∃ p : Page ι, edits.foldlM
        (fun page e => (applyEdit config page.idMap e).bind (render collation config)) opened =
          .ok p ∧
      edits.foldlM (applyEdit config) opened.idMap = .ok p.idMap ∧
      Valid config p.idMap ∧ Reports collation config p.idMap p.updates := by
  induction edits generalizing opened with
  | nil => exact ⟨opened, rfl, rfl, hvalid, hreports⟩
  | cons e edits ih =>
    obtain ⟨idMap', happly, hvalid'⟩ := hvalid.applyEdit e
    obtain ⟨updates', hrender, hreports'⟩ := hvalid'.render collation
    obtain ⟨p, hp, hform, hrest⟩ := ih ⟨idMap', updates'⟩ hvalid' hreports'
    refine ⟨p, ?_, ?_, hrest⟩
    · rw [List.foldlM_cons, happly, Except.bind, hrender]
      exact hp
    · rw [List.foldlM_cons, happly]
      exact hform

/-- With the remote assignments in every source nothing is to be saved. -/
theorem disableSave_of_quiet {p : Page ι} (hq : Quiet config p) (hknown : p.updates.Known config)
    (hopened : (entries p.idMap).Perm config.assigned) : p.updates.disableSave = true := by
  have hemails := emailsOf_perm hopened
  have hscim := pairs_scimGroupsOf_perm hopened
  rw [emailsOf_assigned] at hemails
  rw [pairs_scimGroupsOf_assigned] at hscim
  have hsso : ∀ id, p.updates.sso.get id = none := by
    intro id
    by_cases hid : id ∈ config.taggedConnections.map (·.connection_id)
    · obtain ⟨connection, hmem, rfl⟩ := List.mem_map.1 hid
      have hinfo := infoOf_perm connection.connection_id hopened
      rw [infoOf_assigned hmem] at hinfo
      exact (hq.connections connection hmem hinfo).1
    · exact hknown id hid
  have hnil : p.updates.sso.entries = [] := by
    refine List.eq_nil_iff_forall_not_mem.2 fun e he => ?_
    cases (hsso e.1).symm.trans ((OrderedMap.get_eq_some_iff ..).2 he)
  rw [Updates.disableSave, (hq.emails hemails).1, (hq.scimGroups hscim).1, hnil]
  rfl

/-- The condition for exact saving: no known role has the id `__proto__`, assigned roles that are not
known have no id that objects inherit, and what is unchanged is listed in the remote order. -/
def Condition (collation : Collation) (config : Config ι) (edits : List (Edit ι)) : Prop :=
  "__proto__" ∉ config.sortedRoles ∧
    (∀ e ∈ config.assigned, Inherited e.1 → e.1 ∈ config.sortedRoles) ∧
    ∀ idMap, formAfter config edits = .ok idMap → InOrder collation config idMap

/-- Saving applies exactly the edits if and only if the condition holds, where no known role has the
id `__proto__`. -/
theorem savesExactly_iff (collation : Collation) (config : Config ι) (edits : List (Edit ι)) :
    "__proto__" ∉ config.sortedRoles ∧ SavesExactly collation config edits ↔
      Condition collation config edits := by
  refine and_congr_right fun hroles => ?_
  rcases opening_spec hroles with ⟨⟨e, he, hinherited, hunknown⟩, herr⟩ | ⟨hgood, state, hok, hopened⟩
  · refine iff_of_false ?_ fun h => hunknown (h.1 e he hinherited)
    rintro ⟨p, hp, -⟩
    rw [page, herr] at hp
    cases hp
  · have hvalid := hopened.valid
    obtain ⟨updates, hrender, hreports⟩ := hvalid.render collation
    obtain ⟨p, hp, hform, hvalid', hreports'⟩ :=
      page_of_edits edits ⟨state, updates⟩ hvalid hreports
    have hpage : page collation config edits = .ok p := by
      rw [page, hok, Except.bind, hrender]
      exact hp
    have hafter : formAfter config edits = .ok p.idMap := by
      rw [formAfter, hok]
      exact hform
    have hquiet := hreports'.quiet_iff hvalid'
    constructor
    · rintro ⟨p', hp', -, hq, -⟩
      obtain rfl := Except.ok.inj (hpage.symm.trans hp')
      refine ⟨fun e he hinherited => not_not.1 fun hnot => hgood e he ⟨hinherited, hnot⟩,
        fun idMap hidMap => ?_⟩
      obtain rfl := Except.ok.inj (hafter.symm.trans hidMap)
      exact hquiet.1 hq
    · rintro ⟨-, horder⟩
      have hq := hquiet.2 (horder p.idMap hafter)
      refine ⟨p, hpage, hreports'.applied hvalid', hq, ?_⟩
      rintro rfl
      obtain rfl := Except.ok.inj hform
      refine disableSave_of_quiet hq hreports'.known ?_
      have hentries : entries p.idMap = listed id p.idMap.own := by simp [entries, hvalid'.proto]
      rw [hentries]
      exact hopened.pairs

end Runs

end Reading

/-! ## Two roles for one domain -/

/-- The members of one domain get two roles, which the backend lists in another order than the form. -/
def sharedDomain : Config ℕ where
  isSsoEnabled := false
  isScimEnabled := false
  sortedRoles := ["admin", "editor"]
  taggedConnections := []
  rbacEmails := some [⟨"editor", "a.com"⟩, ⟨"admin", "a.com"⟩]
  scimConnection := none
  scimGroupIds := []
  distinct := List.nodup_nil
  named := fun _ h => absurd h List.not_mem_nil

/-- Without an edit saving is offered. -/
theorem shared_domain_reported_as_changed :
    ¬SavesExactly Collation.codeUnits sharedDomain [] ∧
      (page Collation.codeUnits sharedDomain []).map (·.updates.disableSave) = .ok false := by
  have hreported :
      (page Collation.codeUnits sharedDomain []).map (·.updates.disableSave) = .ok false := rfl
  refine ⟨?_, hreported⟩
  rintro ⟨p, hp, -, -, hdisable⟩
  rw [hp] at hreported
  cases (Except.ok.inj hreported).symm.trans (hdisable rfl)

end StytchBrowser.AdminPortal.OrgRoles
