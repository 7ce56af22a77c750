import StytchBrowser.AdminPortal.RoleSort
import StytchBrowser.Core.RBACLaws
import StytchBrowser.Lib.Dialog
import StytchBrowser.Lib.InsertionOrder

/-!
# The roles of a member

`handleSave` of the section with the roles of a member. A member who changes the own roles is warned
when none of the new roles is found to let members update roles. The roles that are looked at are those
of the form, in which the default role is not shown, and custom roles are looked up only by those who
may read them. `warnsRight_iff` says when that does not matter.
-/

namespace StytchBrowser.AdminPortal.Access

open StytchBrowser.Core RoleSort

/-! ## Members and the form -/

/-- The `type` of a `RoleSource`. -/
inductive RoleSourceType where
  | direct_assignment
  | email_assignment
  | sso_connection
  | sso_connection_group
  | scim_connection_group
  deriving DecidableEq

/-- `MemberRole`, with the types of its sources. -/
structure MemberRole where
  roleId : String
  sources : List RoleSourceType

structure Member where
  memberId : String
  mfaEnrolled : Bool
  isBreakglass : Bool
  roles : List MemberRole

structure AccessFormState where
  isBreakglass : Bool
  isMfaEnrolled : Bool
  explicitRoleAssignments : List String

/-- An element of `implicitRoleAssignments`. -/
structure ImplicitRoleAssignment where
  roleId : String
  sourceType : RoleSourceType

namespace Member

/-- The roles that the section shows. -/
def shownRoles (member : Member) : List MemberRole :=
  member.roles.filter fun role => role.roleId ≠ ROLE_ID_STYTCH_MEMBER

def explicitRoleAssignments (member : Member) : List String :=
  (member.shownRoles.filter fun role => role.sources.contains .direct_assignment).map
    MemberRole.roleId

def implicitRoleAssignments (member : Member) : List ImplicitRoleAssignment :=
  member.shownRoles.flatMap fun role =>
    (InsertionOrder.ofList (role.sources.filter fun source => source ≠ .direct_assignment)).map
      fun sourceType => ⟨role.roleId, sourceType⟩

/-- `remoteState`, with which the form starts when it is opened for editing. -/
def remoteState (member : Member) : AccessFormState where
  isBreakglass := member.isBreakglass
  isMfaEnrolled := member.mfaEnrolled
  explicitRoleAssignments := member.explicitRoleAssignments

end Member

namespace AccessFormState

/-- The modal for role assignments is confirmed. -/
def addRoles (state : AccessFormState) (pendingAssignments : List String) : AccessFormState :=
  { state with
    explicitRoleAssignments :=
      InsertionOrder.ofList (state.explicitRoleAssignments ++ pendingAssignments) }

/-- The `Revoke` button of a role. -/
def revoke (state : AccessFormState) (roleId : String) : AccessFormState :=
  { state with
    explicitRoleAssignments := state.explicitRoleAssignments.filter (· ≠ roleId) }

end AccessFormState

/-! ## Saving -/

/-- `useRoles`. -/
def useRoles (rbacPolicy : Option RBACPolicy) (customRoles : Option (List RBACPolicyRole))
    (includeOrgRoles : Bool) : Option (List RBACPolicyRole) :=
  let roles := rbacPolicy.map RBACPolicy.roles
  if includeOrgRoles then some (roles.getD [] ++ customRoles.getD []) else roles

def rolesCanUpdateMemberRoles (roleIds : List String) (roles : List RBACPolicyRole) : Bool :=
  (InsertionOrder.ofList roleIds).any fun roleId =>
    (roles.find? fun role => role.roleId = roleId).any fun role =>
      role.permissions.any fun permission =>
        permission.resourceId = "stytch.member" && permission.allows "update.settings.roles"

/-- `B2BOrganizationsMembersUpdateOptions`. -/
structure UpdateOptions where
  memberId : String
  mfaEnrolled : Option Bool
  isBreakglass : Option Bool
  roles : Option (List String)

/-- What saving waits for: the modal with the warning, and the request. -/
inductive Question where
  | lockoutWarning
  | update (options : UpdateOptions)

/-- Whether the warning is confirmed, and whether the request succeeds. -/
def Answer : Question → Type := fun _ => Bool

/-- Saving ends with `true` where it does not reject. -/
abbrev Saving := Dialog Question Answer Bool

/-- `if (shouldUpdate) await mutate(memberOptions)`. -/
def mutate (options : UpdateOptions) : Saving :=
  if options.mfaEnrolled.isSome || options.isBreakglass.isSome || options.roles.isSome then
    .ask (.update options) fun ok => .done ok
  else .done true

/-- `useSelf().isSelf`. -/
def isSelf (self : Option String) (memberId : String) : Bool :=
  memberId ≠ "" && self = some memberId

/-- An option that is set when it has changed. -/
def setChanged (localValue remoteValue : Bool) : Option Bool :=
  if localValue ≠ remoteValue then some localValue else none

/-- `memberOptions` before the roles are compared. -/
def memberOptions (member : Member) (localState : AccessFormState) : UpdateOptions where
  memberId := member.memberId
  mfaEnrolled := setChanged localState.isMfaEnrolled member.remoteState.isMfaEnrolled
  isBreakglass := setChanged localState.isBreakglass member.remoteState.isBreakglass
  roles := none

def handleSave (self : Option String) (roles : Option (List RBACPolicyRole)) (member : Member)
    (localState : AccessFormState) : Saving :=
  if OrgRoles.arraysHaveSameContents CodeUnits.Le localState.explicitRoleAssignments
      member.remoteState.explicitRoleAssignments then
    mutate (memberOptions member localState)
  else
    let withRoles := { memberOptions member localState with
      roles := some localState.explicitRoleAssignments }
    let roleIds := localState.explicitRoleAssignments ++
      member.implicitRoleAssignments.map ImplicitRoleAssignment.roleId
    if isSelf self member.memberId && roles.any fun roles =>
        !rolesCanUpdateMemberRoles roleIds roles then
      .ask .lockoutWarning fun confirmed =>
        bif confirmed then mutate withRoles else .done false
    else mutate withRoles

/-! ## What is claimed of the warning -/

/-- The roles of the member after the save: the default role, those of the form, and those that the
member has from other sources. -/
def rolesAfterSave (member : Member) (localState : AccessFormState) : List String :=
  ROLE_ID_STYTCH_MEMBER :: (localState.explicitRoleAssignments ++
    (member.roles.filter fun role => role.sources.any (· ≠ .direct_assignment)).map
      MemberRole.roleId)

/-- Saving asks exactly when the member could not update roles any more, and a member who declines is
not updated. -/
structure WarnsRight (save : Saving) (authorized : Except TypeError Bool) : Prop where
  asks : ∀ asked ok, save.Runs asked ok →
    ((∃ answer, ⟨.lockoutWarning, answer⟩ ∈ asked) ↔ authorized = .ok false)
  declined : ∀ asked ok, save.Runs asked ok → ⟨.lockoutWarning, false⟩ ∈ asked →
    ∀ options answer, ⟨.update options, answer⟩ ∉ asked

/-- A role that is not looked at: the default role, unless the form has it, and, where they may not be
read, the custom roles. -/
def LeftOut (customRoles : List RBACPolicyRole) (canGetOrgCustomRoles : Bool)
    (localState : AccessFormState) (role : RBACPolicyRole) : Prop :=
  role.roleId = ROLE_ID_STYTCH_MEMBER ∧
      ROLE_ID_STYTCH_MEMBER ∉ localState.explicitRoleAssignments ∨
    canGetOrgCustomRoles = false ∧ role ∈ customRoles

/-- A role that lets members update roles. -/
abbrev Grants (role : RBACPolicyRole) : Prop := role.Grants "stytch.member" "update.settings.roles"

/-- Where a role that is left out, or an id that is looked up in the prototype of the index, would
count, a role that is looked at lets members update roles. -/
structure NothingLost (policy : RBACPolicy) (customRoles : List RBACPolicyRole)
    (canGetOrgCustomRoles : Bool) (member : Member) (localState : AccessFormState) : Prop where
  leftOut : ∀ role ∈ policy.roles, role.roleId ∈ rolesAfterSave member localState → Grants role →
    LeftOut customRoles canGetOrgCustomRoles localState role →
      ∃ other ∈ policy.roles, other.roleId ∈ rolesAfterSave member localState ∧ Grants other ∧
        ¬LeftOut customRoles canGetOrgCustomRoles localState other
  shadowed : ∀ id ∈ rolesAfterSave member localState, Shadowed policy.roles id →
    ∃ other ∈ policy.roles, other.roleId ∈ rolesAfterSave member localState ∧ Grants other ∧
      ¬LeftOut customRoles canGetOrgCustomRoles localState other

instance (q : Question) : Inhabited (Answer q) := inferInstanceAs (Inhabited Bool)

/-! ## The roles that are looked at -/

theorem find?_roleId {roles : List RBACPolicyRole}
    (hids : (roles.map RBACPolicyRole.roleId).Nodup) {id : String} {role : RBACPolicyRole} :
    (roles.find? fun role => role.roleId = id) = some role ↔ role ∈ roles ∧ role.roleId = id := by
  constructor
  · intro h
    have heq := List.find?_some h
    exact ⟨List.mem_of_find?_eq_some h, by simpa using heq⟩
  · rintro ⟨hrole, rfl⟩
    cases h : roles.find? fun other => other.roleId = role.roleId with
    | none =>
      have hne := List.find?_eq_none.1 h role hrole
      simp at hne
    | some other =>
      have heq := List.find?_some h
      have hid : other.roleId = role.roleId := by simpa using heq
      rw [List.inj_on_of_nodup_map hids (List.mem_of_find?_eq_some h) hrole hid]

theorem rolesCanUpdateMemberRoles_iff {roleIds : List String} {roles : List RBACPolicyRole}
    (hids : (roles.map RBACPolicyRole.roleId).Nodup) :
    rolesCanUpdateMemberRoles roleIds roles = true ↔
      ∃ role ∈ roles, role.roleId ∈ roleIds ∧ Grants role := by
  have hgrants : ∀ role : RBACPolicyRole, (role.permissions.any fun permission =>
      permission.resourceId = "stytch.member" && permission.allows "update.settings.roles") = true ↔
        Grants role := by
    simp [RBACPolicyRole.Grants, RBACPermission.allows]
  simp only [rolesCanUpdateMemberRoles, List.any_eq_true, InsertionOrder.mem_ofList,
    Option.any_eq_true, hgrants, find?_roleId hids]
  constructor
  · rintro ⟨id, hid, role, ⟨hrole, rfl⟩, hgrant⟩
    exact ⟨role, hrole, hid, hgrant⟩
  · rintro ⟨role, hrole, hid, hgrant⟩
    exact ⟨role.roleId, hid, role, ⟨hrole, rfl⟩, hgrant⟩

/-- The ids that are looked up. -/
def roleIdsToFind (member : Member) (localState : AccessFormState) : List String :=
  localState.explicitRoleAssignments ++
    member.implicitRoleAssignments.map ImplicitRoleAssignment.roleId

theorem mem_implicitRoleAssignments {member : Member} {id : String} :
    id ∈ member.implicitRoleAssignments.map ImplicitRoleAssignment.roleId ↔
      id ≠ ROLE_ID_STYTCH_MEMBER ∧
        ∃ role ∈ member.roles, role.sources.any (· ≠ .direct_assignment) ∧ role.roleId = id := by
  simp only [Member.implicitRoleAssignments, Member.shownRoles, List.mem_map, List.mem_flatMap,
    List.mem_filter, InsertionOrder.mem_ofList, List.any_eq_true, decide_eq_true_eq]
  constructor
  · rintro ⟨_, ⟨role, ⟨hrole, hne⟩, source, ⟨hsource, hdirect⟩, rfl⟩, rfl⟩
    exact ⟨hne, role, hrole, ⟨source, hsource, hdirect⟩, rfl⟩
  · rintro ⟨hne, role, hrole, ⟨source, hsource, hdirect⟩, rfl⟩
    exact ⟨_, ⟨role, ⟨hrole, hne⟩, source, ⟨hsource, hdirect⟩, rfl⟩, rfl⟩

/-- Of the roles after the save, only the default role is not looked up. -/
theorem mem_roleIdsToFind {member : Member} {localState : AccessFormState} {id : String} :
    id ∈ roleIdsToFind member localState ↔
      id ∈ rolesAfterSave member localState ∧
        ¬(id = ROLE_ID_STYTCH_MEMBER ∧
          ROLE_ID_STYTCH_MEMBER ∉ localState.explicitRoleAssignments) := by
  rw [roleIdsToFind, rolesAfterSave, List.mem_append, mem_implicitRoleAssignments, List.mem_cons,
    List.mem_append, List.mem_map]
  have hothers : (∃ role ∈ member.roles.filter fun role =>
      role.sources.any (· ≠ .direct_assignment), role.roleId = id) ↔
        ∃ role ∈ member.roles, role.sources.any (· ≠ .direct_assignment) ∧ role.roleId = id := by
    simp only [List.mem_filter, and_assoc]
  rw [hothers]
  by_cases hid : id = ROLE_ID_STYTCH_MEMBER
  · subst hid
    simp
  · simp [hid]

section Roles

variable {policy : RBACPolicy} {customRoles : Option (List RBACPolicyRole)}
  {canGetOrgCustomRoles : Bool}

/-- The roles that are looked at are the roles of the policy, but for the custom roles where they may
not be read. -/
theorem useRoles_eq
    (hids : ((policy.effectivePolicy customRoles).roles.map RBACPolicyRole.roleId).Nodup) :
    ∃ roles, useRoles (some policy) customRoles canGetOrgCustomRoles = some roles ∧
      (roles.map RBACPolicyRole.roleId).Nodup ∧
        ∀ role, role ∈ roles ↔ role ∈ (policy.effectivePolicy customRoles).roles ∧
          ¬(canGetOrgCustomRoles = false ∧ role ∈ customRoles.getD []) := by
  have hmerged : (policy.effectivePolicy customRoles).roles = policy.roles ++ customRoles.getD [] :=
    congrArg RBACPolicy.roles (RBACPolicy.effectivePolicy_eq policy customRoles)
  rw [hmerged] at hids ⊢
  cases canGetOrgCustomRoles with
  | true => exact ⟨_, rfl, hids, fun role => by simp⟩
  | false =>
    rw [List.map_append] at hids
    refine ⟨_, rfl, hids.of_append_left, fun role => ?_⟩
    have hdisjoint : role ∈ policy.roles → role ∉ customRoles.getD [] := fun hrole hcustom =>
      (List.disjoint_of_nodup_append hids) (List.mem_map_of_mem hrole) (List.mem_map_of_mem hcustom)
    simp only [List.mem_append, true_and]
    exact ⟨fun h => ⟨.inl h, hdisjoint h⟩, fun h => h.1.resolve_right h.2⟩

/-- What is found: a role that grants, of those that are not left out. -/
theorem rolesCanUpdateMemberRoles_useRoles
    (hids : ((policy.effectivePolicy customRoles).roles.map RBACPolicyRole.roleId).Nodup)
    (member : Member) (localState : AccessFormState) :
    ∃ roles, useRoles (some policy) customRoles canGetOrgCustomRoles = some roles ∧
      (rolesCanUpdateMemberRoles (roleIdsToFind member localState) roles = true ↔
        ∃ other ∈ (policy.effectivePolicy customRoles).roles,
          other.roleId ∈ rolesAfterSave member localState ∧ Grants other ∧
            ¬LeftOut (customRoles.getD []) canGetOrgCustomRoles localState other) := by
  obtain ⟨roles, hroles, hnodup, hmem⟩ := useRoles_eq hids
  refine ⟨roles, hroles, ?_⟩
  rw [rolesCanUpdateMemberRoles_iff hnodup]
  refine exists_congr fun role => ?_
  rw [hmem, mem_roleIdsToFind, LeftOut]
  tauto

/-- The roles that the member has after the save, by their permissions. -/
theorem callerIsAuthorized_eq_false_iff {policy : RBACPolicy}
    (hids : (policy.roles.map RBACPolicyRole.roleId).Nodup) (ids : List String) :
    policy.callerIsAuthorized ids "stytch.member" "update.settings.roles" = .ok false ↔
      (∀ id ∈ ids, ¬Shadowed policy.roles id) ∧
        ¬∃ role ∈ policy.roles, role.roleId ∈ ids ∧ Grants role := by
  by_cases h : ∀ id ∈ ids, ¬Shadowed policy.roles id
  · obtain ⟨b, hb, hiff⟩ := RBACPolicy.callerIsAuthorized_of_not_shadowed h "stytch.member"
      "update.settings.roles"
    rw [hb, Except.ok.injEq, ← RBACPolicy.exists_roleWithId_iff hids, ← hiff,
      Bool.not_eq_true, and_iff_right h]
  · have hsh := h
    push Not at hsh
    obtain ⟨id, hid, hshadowed⟩ := hsh
    rw [RBACPolicy.callerIsAuthorized_of_shadowed hid hshadowed]
    exact iff_of_false nofun fun hand => h hand.1

end Roles

/-! ## The runs of a save -/

theorem lockoutWarning_not_mem_mutate {options : UpdateOptions} {asked : List (Sigma Answer)}
    {ok : Bool} (h : (mutate options).Runs asked ok) (answer : Bool) :
    ⟨.lockoutWarning, answer⟩ ∉ asked := by
  unfold mutate at h
  split_ifs at h
  · obtain ⟨_, rfl, -⟩ := Dialog.runs_once.1 h
    exact fun hmem => nomatch List.mem_singleton.1 hmem
  · rw [h.1]
    exact List.not_mem_nil

/-- Saving a changed role set of the own member. -/
theorem handleSave_eq {self : Option String} {roles : List RBACPolicyRole} {member : Member}
    {localState : AccessFormState} (hself : isSelf self member.memberId = true)
    (hchanged : ¬localState.explicitRoleAssignments.Perm member.explicitRoleAssignments) :
    handleSave self (some roles) member localState =
      let withRoles := { memberOptions member localState with
        roles := some localState.explicitRoleAssignments }
      if rolesCanUpdateMemberRoles (roleIdsToFind member localState) roles then mutate withRoles
      else .ask .lockoutWarning fun confirmed =>
        bif confirmed then mutate withRoles else .done false := by
  have hsame : ¬OrgRoles.arraysHaveSameContents CodeUnits.Le localState.explicitRoleAssignments
      member.remoteState.explicitRoleAssignments = true :=
    fun h => hchanged (OrgRoles.arraysHaveSameContents_texts.1 h)
  rw [handleSave, if_neg hsame, hself]
  cases hcan : rolesCanUpdateMemberRoles (roleIdsToFind member localState) roles with
  | true =>
    rw [roleIdsToFind] at hcan
    simp [hcan]
  | false =>
    rw [roleIdsToFind] at hcan
    simp [hcan]

/-- Saving asks in all runs or in none. -/
theorem asks_iff {options : UpdateOptions} {can : Bool} {asked : List (Sigma Answer)} {ok : Bool}
    (h : (if can then mutate options else .ask .lockoutWarning fun confirmed =>
      bif confirmed then mutate options else .done false : Saving).Runs asked ok) :
    (∃ answer, ⟨.lockoutWarning, answer⟩ ∈ asked) ↔ can = false := by
  cases can with
  | true =>
    exact iff_of_false (fun ⟨answer, hmem⟩ => lockoutWarning_not_mem_mutate h answer hmem) nofun
  | false =>
    obtain ⟨answer, rest, rfl, -⟩ := h
    exact iff_of_true ⟨answer, List.mem_cons_self⟩ rfl

/-- A warning that is declined ends the save. -/
theorem declined_of_runs {options : UpdateOptions} {can : Bool} {asked : List (Sigma Answer)}
    {ok : Bool}
    (h : (if can then mutate options else .ask .lockoutWarning fun confirmed =>
      bif confirmed then mutate options else .done false : Saving).Runs asked ok)
    (hdeclined : ⟨.lockoutWarning, false⟩ ∈ asked) (updated : UpdateOptions) (answer : Bool) :
    ⟨.update updated, answer⟩ ∉ asked := by
  cases can with
  | true => exact absurd hdeclined (lockoutWarning_not_mem_mutate h false)
  | false =>
    obtain ⟨confirmed, rest, rfl, hrest⟩ := h
    cases confirmed with
    | true =>
      rcases List.mem_cons.1 hdeclined with heq | hmem
      · cases heq
      · exact absurd hmem (lockoutWarning_not_mem_mutate hrest false)
    | false =>
      rw [hrest.1]
      exact fun hmem => nomatch List.mem_singleton.1 hmem

theorem warnsRight_iff_asks {options : UpdateOptions} {can : Bool}
    {authorized : Except TypeError Bool} :
    WarnsRight (if can then mutate options else .ask .lockoutWarning fun confirmed =>
        bif confirmed then mutate options else .done false) authorized ↔
      (can = false ↔ authorized = .ok false) := by
  constructor
  · intro h
    obtain ⟨asked, ok, hruns⟩ := Dialog.exists_runs (if can then mutate options else
      .ask .lockoutWarning fun confirmed => bif confirmed then mutate options else .done false)
    exact (asks_iff hruns).symm.trans (h.asks asked ok hruns)
  · intro h
    exact ⟨fun _ _ hruns => (asks_iff hruns).trans h, fun _ _ hruns => declined_of_runs hruns⟩

/-- Saving a changed role set of the own member warns right exactly where nothing is lost by what is
left out. -/
theorem warnsRight_iff (policy : RBACPolicy) (customRoles : Option (List RBACPolicyRole))
    (canGetOrgCustomRoles : Bool) (self : Option String) (member : Member)
    (localState : AccessFormState)
    (hids : ((policy.effectivePolicy customRoles).roles.map RBACPolicyRole.roleId).Nodup)
    (hself : isSelf self member.memberId = true)
    (hchanged : ¬localState.explicitRoleAssignments.Perm member.explicitRoleAssignments) :
    WarnsRight
        (handleSave self (useRoles (some policy) customRoles canGetOrgCustomRoles) member localState)
        ((policy.effectivePolicy customRoles).callerIsAuthorized (rolesAfterSave member localState)
          "stytch.member" "update.settings.roles") ↔
      NothingLost (policy.effectivePolicy customRoles) (customRoles.getD []) canGetOrgCustomRoles
        member localState := by
  obtain ⟨roles, hroles, hcan⟩ := rolesCanUpdateMemberRoles_useRoles hids member localState
  rw [hroles, handleSave_eq hself hchanged, warnsRight_iff_asks,
    callerIsAuthorized_eq_false_iff hids, ← Bool.not_eq_true, hcan]
  constructor
  · intro h
    refine ⟨fun role hrole hid hgrants _ => ?_, fun id hid hshadowed => ?_⟩
    · exact by_contra fun hnone => (h.1 hnone).2 ⟨role, hrole, hid, hgrants⟩
    · exact by_contra fun hnone => (h.1 hnone).1 id hid hshadowed
  · intro h
    constructor
    · intro hnone
      refine ⟨fun id hid hshadowed => hnone (h.shadowed id hid hshadowed), ?_⟩
      rintro ⟨role, hrole, hid, hgrants⟩
      by_cases hleft : LeftOut (customRoles.getD []) canGetOrgCustomRoles localState role
      · exact hnone (h.leftOut role hrole hid hgrants hleft)
      · exact hnone ⟨role, hrole, hid, hgrants, hleft⟩
    · rintro ⟨-, hnone⟩ ⟨role, hrole, hid, hgrants, -⟩
      exact hnone ⟨role, hrole, hid, hgrants⟩

/-! ## A default role that lets members update roles -/

def editor : RBACPolicyRole := ⟨"editor", "", []⟩

/-- The permission to do anything with members. -/
def anyOfMember : RBACPermission := ⟨"stytch.member", [WILDCARD_ACTION]⟩

/-- A policy in which all members may update roles. -/
def openPolicy : RBACPolicy := ⟨[⟨ROLE_ID_STYTCH_MEMBER, "", [anyOfMember]⟩, editor], []⟩

/-- A policy in which admins may. -/
def adminPolicy : RBACPolicy :=
  ⟨[⟨ROLE_ID_STYTCH_MEMBER, "", []⟩, ⟨ROLE_ID_STYTCH_ADMIN, "", [anyOfMember]⟩, editor], []⟩

/-- A member with the default role, and others assigned directly. -/
def memberWith (roleIds : List String) : Member where
  memberId := "member"
  mfaEnrolled := false
  isBreakglass := false
  roles := (ROLE_ID_STYTCH_MEMBER :: roleIds).map fun roleId => ⟨roleId, [.direct_assignment]⟩

/-- An admin becomes an editor as well. -/
theorem warnsRight_iff_admin :
    let member := memberWith [ROLE_ID_STYTCH_ADMIN]
    let localState := member.remoteState.addRoles ["editor"]
    WarnsRight (handleSave (some "member") (useRoles (some adminPolicy) none false) member localState)
      (adminPolicy.callerIsAuthorized (rolesAfterSave member localState) "stytch.member"
        "update.settings.roles") := by
  intro member localState
  have hadmin : ∃ other ∈ adminPolicy.roles, other.roleId ∈ rolesAfterSave member localState ∧
      Grants other ∧ ¬LeftOut [] false localState other := by
    refine ⟨⟨ROLE_ID_STYTCH_ADMIN, "", [anyOfMember]⟩, List.mem_cons_of_mem _ List.mem_cons_self,
      by decide, ⟨anyOfMember, List.mem_singleton_self _, rfl, .inr (List.mem_singleton_self _)⟩, ?_⟩
    rintro (⟨hid, -⟩ | ⟨-, hcustom⟩)
    · exact absurd hid (by decide)
    · exact absurd hcustom List.not_mem_nil
  exact (warnsRight_iff adminPolicy none false (some "member") member localState (by decide)
    (by decide) (by decide)).2 ⟨fun _ _ _ _ _ => hadmin, fun _ _ _ => hadmin⟩

/-- An editor gives up the role, and is warned although the default role has the permission. -/
theorem warned_without_reason :
    let member := memberWith ["editor"]
    let localState := member.remoteState.revoke "editor"
    (∃ next, handleSave (some "member") (useRoles (some openPolicy) none false) member localState =
      .ask .lockoutWarning next) ∧
    openPolicy.callerIsAuthorized (rolesAfterSave member localState) "stytch.member"
      "update.settings.roles" = .ok true ∧
    ¬WarnsRight (handleSave (some "member") (useRoles (some openPolicy) none false) member localState)
      (openPolicy.callerIsAuthorized (rolesAfterSave member localState) "stytch.member"
        "update.settings.roles") := by
  intro member localState
  have hauthorized : openPolicy.callerIsAuthorized (rolesAfterSave member localState)
      "stytch.member" "update.settings.roles" = .ok true := by decide
  refine ⟨⟨_, rfl⟩, hauthorized, fun h => ?_⟩
  have hasks := h.asks [⟨.lockoutWarning, false⟩] false ⟨false, [], rfl, rfl, rfl⟩
  exact absurd (hauthorized.symm.trans (hasks.1 ⟨false, List.mem_cons_self⟩)) (by decide)

end StytchBrowser.AdminPortal.Access
