import Mathlib.Data.List.Nodup
import Mathlib.Data.Option.Basic
import StytchBrowser.JsUtils.PlainObject
import StytchBrowser.Lib.FailingFolds
import StytchBrowser.Lib.Machine

/-!
# The form for the role assignments of SCIM groups

The assignments of a connection are a list of pairs of a group and a role. The form is opened by
walking the fetched groups, not the assignments: it shows a row for each group that has an
assignment, with the role of the first one. Its rows are edited by group id, and saving flattens
them to a list that replaces all assignments of the connection.

* `form_spec`: when the form opens, and the rows it shows;
* `row_of_untouched`: a row of a group that no edit concerns is kept by every sequence of edits;
* `distinctGroups_of_reach`: the edits that the form offers never make two rows of one group;
* `saves_all_iff`: when saving loses nothing.
-/

namespace StytchBrowser.AdminPortal.SCIM

/-- An entry of `scim_groups`. -/
structure Group where
  groupId : String
  groupName : String

/-- An entry of `scim_group_implicit_role_assignments`. -/
structure RoleAssignment where
  groupId : String
  roleId : String
  deriving DecidableEq

/-- `ScimGroupRoleAssignment`, a row of the form. -/
structure GroupRoles where
  groupId : Option String
  roles : List String
  deriving DecidableEq

/-! ## Opening the form -/

def groupIdToNameMap (scimGroups : List Group) : OrderedMap String String :=
  scimGroups.foldl (fun acc val => setPrimitive acc val.groupId val.groupName) .empty

/-- The first assignment of a group, `scimRoleAssignments.find(..)`. -/
def firstOf (scimRoleAssignments : List RoleAssignment) (groupId : String) :
    Option RoleAssignment :=
  scimRoleAssignments.find? fun roleAssignment => roleAssignment.groupId = groupId

/-- One turn of the loop over the groups. The prototype of `acc` is never replaced, because
`__proto__` is not a key of `groupIdToNameMap`, so no fields of a prototype are given. -/
def addRole (scimRoleAssignments : List RoleAssignment) (acc : PlainObject (List String))
    (groupId : String) : Except TypeError (PlainObject (List String)) :=
  match firstOf scimRoleAssignments groupId with
  | none => .ok acc
  | some scimRoleAssignment =>
      match acc.get (fun _ _ => none) groupId with
      | .value roles => .ok (acc.set groupId (roles ++ [scimRoleAssignment.roleId]))
      -- what is inherited is a function, which has no `push`
      | .foreign true => .error .typeError
      | .undefined | .foreign false => .ok (acc.set groupId [scimRoleAssignment.roleId])

def groupIdToRolesMap (scimRoleAssignments : List RoleAssignment) (groupIds : List String) :
    Except TypeError (PlainObject (List String)) :=
  groupIds.foldlM (addRole scimRoleAssignments) .empty

/-- `remoteState.groupRoles`, the rows of the form when it is opened. -/
def form (scimRoleAssignments : List RoleAssignment) (scimGroups : List Group) :
    Except TypeError (List GroupRoles) :=
  (groupIdToRolesMap scimRoleAssignments (groupIdToNameMap scimGroups).keys).map fun acc =>
    (acc.own.filter fun _ roles => !roles.isEmpty).entries.map fun e => ⟨some e.1, e.2⟩

/-! ## Editing and saving -/

/-- `handleOnChange`. -/
def handleOnChange (currentGroupId updatedGroupId : Option String)
    (updatedRoles : Option (List String)) (groupRoles : List GroupRoles) : List GroupRoles :=
  groupRoles.map fun value =>
    if value.groupId ≠ currentGroupId then value
    else ⟨updatedGroupId.or value.groupId, updatedRoles.getD value.roles⟩

/-- What the user can do in the form: add a row, choose the group of a row, choose its roles. -/
inductive Edit where
  | add
  | selectGroup (groupId : Option String) (value : String)
  | selectRoles (groupId : Option String) (value : List String)

def Edit.apply (groupRoles : List GroupRoles) : Edit → List GroupRoles
  | .add => groupRoles ++ [⟨none, []⟩]
  | .selectGroup groupId value => handleOnChange groupId (some value) none groupRoles
  | .selectRoles groupId value => handleOnChange groupId none (some value) groupRoles

def findAvailableGroupIds (groupIds : List String) (groupRoles : List GroupRoles)
    (currentId : Option String) : List String :=
  groupIds.filter fun groupId =>
    some groupId ∉ groupRoles.map GroupRoles.groupId ∨ some groupId = currentId

def disableAdd (groupIds : List String) (groupRoles : List GroupRoles) : Bool :=
  (groupRoles.getLast?.map GroupRoles.groupId = some none) ||
    (findAvailableGroupIds groupIds groupRoles none).isEmpty

/-- Whether the form offers an edit: the button that adds a row is enabled, the group is among
those that can be chosen. -/
def Edit.Offered (groupIds : List String) (groupRoles : List GroupRoles) : Edit → Prop
  | .add => disableAdd groupIds groupRoles = false
  | .selectGroup groupId value =>
      groupId ∈ groupRoles.map GroupRoles.groupId ∧
        value ∈ findAvailableGroupIds groupIds groupRoles groupId
  | .selectRoles groupId _ => groupId ∈ groupRoles.map GroupRoles.groupId

instance (groupIds : List String) (groupRoles : List GroupRoles) :
    DecidablePred (Edit.Offered groupIds groupRoles)
  | .add => inferInstanceAs (Decidable (_ = _))
  | .selectGroup _ _ => inferInstanceAs (Decidable (_ ∧ _))
  | .selectRoles groupId _ =>
      inferInstanceAs (Decidable (groupId ∈ groupRoles.map GroupRoles.groupId))

/-- The form as a machine over its rows. -/
def formMachine (scimRoleAssignments : List RoleAssignment) (scimGroups : List Group) :
    Machine (List GroupRoles) Edit where
  init groupRoles := form scimRoleAssignments scimGroups = .ok groupRoles
  next groupRoles e :=
    if e.Offered (groupIdToNameMap scimGroups).keys groupRoles then some (e.apply groupRoles)
    else none

/-- The list that `handleSave` sends. -/
def handleSave (groupRoles : List GroupRoles) : List RoleAssignment :=
  groupRoles.flatMap fun value =>
    value.roles.filterMap fun role =>
      match value.groupId with
      | some groupId => if groupId = "" then none else some ⟨groupId, role⟩
      | none => none

/-! ## The rows of the form -/

variable {scimRoleAssignments : List RoleAssignment} {scimGroups : List Group}

theorem firstOf_eq_some {groupId : String} {a : RoleAssignment}
    (h : firstOf scimRoleAssignments groupId = some a) :
    a ∈ scimRoleAssignments ∧ a.groupId = groupId :=
  ⟨List.mem_of_find?_eq_some h, by simpa using List.find?_some h⟩

theorem firstOf_eq_none {groupId : String} :
    firstOf scimRoleAssignments groupId = none ↔
      ∀ a ∈ scimRoleAssignments, a.groupId ≠ groupId := by
  simp [firstOf, List.find?_eq_none]

/-- The groups that the form knows: all that were fetched but one called `__proto__`. -/
theorem mem_keys_groupIdToNameMap (groupId : String) :
    groupId ∈ (groupIdToNameMap scimGroups).keys ↔
      groupId ≠ "__proto__" ∧ ∃ group ∈ scimGroups, group.groupId = groupId := by
  rw [← not_iff_not, ← OrderedMap.get_eq_none_iff]
  unfold groupIdToNameMap
  induction scimGroups using List.reverseRecOn with
  | nil => simp
  | append_singleton groups group ih =>
    rw [List.foldl_append, List.foldl_cons, List.foldl_nil, setPrimitive]
    by_cases hproto : group.groupId = "__proto__"
    · rw [if_pos hproto, ih]
      aesop
    · rw [if_neg hproto, OrderedMap.get_set]
      by_cases hgroup : groupId = group.groupId
      · simp [hgroup, hproto]
      · rw [if_neg hgroup, ih]
        have hne : group.groupId ≠ groupId := Ne.symm hgroup
        simp [hne]

/-- No group whose id is the name of an inherited function has an assignment. -/
def NoneInherited (scimRoleAssignments : List RoleAssignment) (groupIds : List String) : Prop :=
  ∀ groupId ∈ groupIds, groupId ∈ objectPrototypeNames →
    firstOf scimRoleAssignments groupId = none

/-- What one turn of the loop does for a group that has not been visited. -/
theorem addRole_eq {acc : PlainObject (List String)} {groupId : String} (hacc : acc.proto = none)
    (hget : acc.own.get groupId = none) (hproto : groupId ≠ "__proto__") :
    addRole scimRoleAssignments acc groupId =
      match firstOf scimRoleAssignments groupId with
      | none => .ok acc
      | some a =>
          if groupId ∈ objectPrototypeNames then .error .typeError
          else .ok (acc.set groupId [a.roleId]) := by
  unfold addRole
  cases firstOf scimRoleAssignments groupId with
  | none => rfl
  | some a =>
    have hread : acc.get (fun _ _ => none) groupId =
        if groupId ∈ objectPrototypeNames then .foreign true else .undefined := by
      simp [PlainObject.get, hget, hproto, hacc]
    dsimp only
    rw [hread]
    split_ifs <;> rfl

/-- The loop ends in an error where a group that has an assignment is called like an inherited
function, and has else written the first role of each group. -/
theorem groupIdToRolesMap_spec {groupIds : List String} (hnodup : groupIds.Nodup)
    (hproto : "__proto__" ∉ groupIds) :
    (¬ NoneInherited scimRoleAssignments groupIds ∧
      groupIdToRolesMap scimRoleAssignments groupIds = .error .typeError) ∨
    (NoneInherited scimRoleAssignments groupIds ∧
      ∃ acc, groupIdToRolesMap scimRoleAssignments groupIds = .ok acc ∧ acc.proto = none ∧
        ∀ groupId, acc.own.get groupId =
          if groupId ∈ groupIds then
            (firstOf scimRoleAssignments groupId).map fun a => [a.roleId]
          else none) := by
  induction groupIds using List.reverseRecOn with
  | nil => exact .inr ⟨by simp [NoneInherited], .empty, rfl, rfl, fun _ => rfl⟩
  | append_singleton groupIds g ih =>
    obtain ⟨hnodup, -, hg⟩ := List.nodup_append.1 hnodup
    have hmem : g ∉ groupIds := fun h => hg g h g (by simp) rfl
    have hg' : g ≠ "__proto__" := by
      rintro rfl
      simp at hproto
    have hproto' : "__proto__" ∉ groupIds := fun h => hproto (by simp [h])
    have hsplit : NoneInherited scimRoleAssignments (groupIds ++ [g]) ↔
        NoneInherited scimRoleAssignments groupIds ∧
          (g ∈ objectPrototypeNames → firstOf scimRoleAssignments g = none) := by
      simp [NoneInherited, or_imp, forall_and]
    have hrun : groupIdToRolesMap scimRoleAssignments (groupIds ++ [g]) =
        (groupIdToRolesMap scimRoleAssignments groupIds).bind fun acc =>
          addRole scimRoleAssignments acc g :=
      FailingFolds.foldlM_concat groupIds g _
    rw [hsplit, hrun]
    obtain ⟨hnone, herr⟩ | ⟨hnone, acc, hok, hacc, hget⟩ := ih hnodup hproto'
    · exact .inl ⟨fun h => hnone h.1, by rw [herr]; rfl⟩
    · have hfresh : acc.own.get g = none := (hget g).trans (if_neg hmem)
      rw [hok, Except.bind, addRole_eq hacc hfresh hg']
      cases hfirst : firstOf scimRoleAssignments g with
      | none =>
        refine .inr ⟨⟨hnone, fun _ => rfl⟩, acc, rfl, hacc, fun groupId => ?_⟩
        rw [hget]
        by_cases hgg : groupId = g
        · simp [hgg, hmem, hfirst]
        · simp [hgg]
      | some a =>
        by_cases hname : g ∈ objectPrototypeNames
        · exact .inl ⟨fun h => by simpa using h.2 hname, if_pos hname⟩
        · refine .inr ⟨⟨hnone, fun h => absurd h hname⟩, _, if_neg hname, ?_, fun groupId => ?_⟩
          · rw [PlainObject.proto_set, if_neg hg', hacc]
          · rw [PlainObject.own_set, hget]
            by_cases hgg : groupId = g
            · simp [hgg, hg', hfirst]
            · simp [hgg]

/-- Whether the form opens, and what its rows are when it does: the first assignment of each group
that it knows. -/
theorem form_spec (scimRoleAssignments : List RoleAssignment) (scimGroups : List Group) :
    (¬ NoneInherited scimRoleAssignments (groupIdToNameMap scimGroups).keys ∧
      form scimRoleAssignments scimGroups = .error .typeError) ∨
    (NoneInherited scimRoleAssignments (groupIdToNameMap scimGroups).keys ∧
      ∃ groupRoles, form scimRoleAssignments scimGroups = .ok groupRoles ∧
        (groupRoles.map GroupRoles.groupId).Nodup ∧
        ∀ v, v ∈ groupRoles ↔ ∃ a, firstOf scimRoleAssignments a.groupId = some a ∧
          a.groupId ∈ (groupIdToNameMap scimGroups).keys ∧ v = ⟨some a.groupId, [a.roleId]⟩) := by
  have hproto : "__proto__" ∉ (groupIdToNameMap scimGroups).keys := fun h =>
    ((mem_keys_groupIdToNameMap _).1 h).1 rfl
  have hnodup : (groupIdToNameMap scimGroups).keys.Nodup := (groupIdToNameMap scimGroups).nodup
  obtain ⟨hnone, herr⟩ | ⟨hnone, acc, hok, -, hget⟩ :=
    @groupIdToRolesMap_spec scimRoleAssignments _ hnodup hproto
  · exact .inl ⟨hnone, by rw [form, herr]; rfl⟩
  · refine .inr ⟨hnone, _, by rw [form, hok]; rfl, ?_, fun v => ?_⟩
    · rw [List.map_map]
      have hkeys := (acc.own.filter fun _ roles => !roles.isEmpty).nodup.map
        (Option.some_injective String)
      rwa [List.map_map] at hkeys
    · have hrow : ∀ groupId roles,
          (groupId, roles) ∈ (acc.own.filter fun _ roles => !roles.isEmpty).entries ↔
            groupId ∈ (groupIdToNameMap scimGroups).keys ∧
              ∃ a, firstOf scimRoleAssignments groupId = some a ∧ roles = [a.roleId] := by
        intro groupId roles
        rw [← OrderedMap.get_eq_some_iff, OrderedMap.get_filter, hget]
        by_cases hmem : groupId ∈ (groupIdToNameMap scimGroups).keys
        · rw [if_pos hmem, Option.filter_eq_some_iff]
          aesop
        · simp [hmem]
      rw [List.mem_map]
      constructor
      · rintro ⟨⟨groupId, roles⟩, he, rfl⟩
        obtain ⟨hmem, a, ha, rfl⟩ := (hrow _ _).1 he
        obtain rfl := (firstOf_eq_some ha).2
        exact ⟨a, ha, hmem, rfl⟩
      · rintro ⟨a, ha, hmem, rfl⟩
        exact ⟨(a.groupId, [a.roleId]), (hrow _ _).2 ⟨hmem, a, ha, rfl⟩, rfl⟩

/-! ## What the edits keep -/

/-- The edits of the row of a group, and those that make a row one of the group. -/
def Edit.Touches (groupId : String) : Edit → Prop
  | .add => False
  | .selectGroup current value => current = some groupId ∨ value = groupId
  | .selectRoles current _ => current = some groupId

/-- The rows after a sequence of edits. -/
def edited (edits : List Edit) (groupRoles : List GroupRoles) : List GroupRoles :=
  edits.foldl Edit.apply groupRoles

/-- A change of the row of another group, which does not become one of this group. -/
theorem mem_handleOnChange {current updated : Option String} {roles : Option (List String)}
    {groupId : String} (hcurrent : current ≠ some groupId) (hupdated : updated ≠ some groupId)
    {groupRoles : List GroupRoles} {v : GroupRoles} (hv : v.groupId = some groupId) :
    v ∈ handleOnChange current updated roles groupRoles ↔ v ∈ groupRoles := by
  rw [handleOnChange, List.mem_map]
  constructor
  · rintro ⟨w, hw, rfl⟩
    by_cases hcur : w.groupId = current
    · rw [if_neg (not_not.2 hcur), hcur] at hv
      obtain h | ⟨-, h⟩ := Option.or_eq_some_iff.1 hv
      · exact absurd h hupdated
      · exact absurd h hcurrent
    · rwa [if_pos hcur]
  · exact fun h => ⟨v, h, if_pos fun hcur => hcurrent (hcur.symm.trans hv)⟩

theorem mem_apply_of_untouched {e : Edit} {groupId : String} (he : ¬ e.Touches groupId)
    {groupRoles : List GroupRoles} {v : GroupRoles} (hv : v.groupId = some groupId) :
    v ∈ e.apply groupRoles ↔ v ∈ groupRoles := by
  cases e with
  | add =>
    have hne : v ≠ ⟨none, []⟩ := by
      rintro rfl
      cases hv
    simp [Edit.apply, hne]
  | selectGroup current value =>
    obtain ⟨hcurrent, hvalue⟩ := not_or.1 he
    exact mem_handleOnChange hcurrent (fun h => hvalue (Option.some.inj h)) hv
  | selectRoles current value =>
    have hnone : (none : Option String) ≠ some groupId := nofun
    exact mem_handleOnChange he hnone hv

/-- The rows of a group that no edit concerns stay as they are. -/
theorem row_of_untouched {edits : List Edit} {groupId : String}
    (hedits : ∀ e ∈ edits, ¬ e.Touches groupId) {groupRoles : List GroupRoles} {v : GroupRoles}
    (hv : v.groupId = some groupId) : v ∈ edited edits groupRoles ↔ v ∈ groupRoles := by
  induction edits generalizing groupRoles with
  | nil => rfl
  | cons e edits ih =>
    rw [edited, List.foldl_cons, ← edited, ih fun e' he' => hedits e' (List.mem_cons_of_mem _ he')]
    exact mem_apply_of_untouched (hedits e List.mem_cons_self) hv

/-- What the edits of the form keep of the groups of its rows: no two rows have the same, and only
the last row may have none. -/
def DistinctGroups (groupIds : List (Option String)) : Prop :=
  groupIds.Nodup ∧ none ∉ groupIds.dropLast

theorem map_groupId_handleOnChange (current updated : Option String) (roles : Option (List String))
    (groupRoles : List GroupRoles) :
    (handleOnChange current updated roles groupRoles).map GroupRoles.groupId =
      (groupRoles.map GroupRoles.groupId).map fun groupId =>
        if groupId ≠ current then groupId else updated.or groupId := by
  rw [handleOnChange, List.map_map, List.map_map]
  refine List.map_congr_left fun v _ => ?_
  dsimp only [Function.comp]
  split_ifs <;> rfl

/-- A row can be added where the last row has a group. -/
theorem distinctGroups_add {groupIds : List String} {groupRoles : List GroupRoles}
    (hadd : disableAdd groupIds groupRoles = false)
    (h : DistinctGroups (groupRoles.map GroupRoles.groupId)) :
    DistinctGroups (groupRoles.map GroupRoles.groupId ++ [none]) := by
  obtain ⟨hnodup, hnone⟩ := h
  rw [disableAdd, Bool.or_eq_false_iff, decide_eq_false_iff_not] at hadd
  have hnot : none ∉ groupRoles.map GroupRoles.groupId := by
    intro hmem
    cases groupRoles using List.reverseRecOn with
    | nil => cases hmem
    | append_singleton rows v =>
      rw [List.map_append, List.map_singleton, List.dropLast_concat] at hnone
      rw [List.getLast?_concat] at hadd
      simp [hnone] at hmem
      exact hadd.1 (congrArg some hmem.symm)
  refine ⟨?_, by rwa [List.dropLast_concat]⟩
  exact List.nodup_append.2 ⟨hnodup, List.nodup_singleton _, by aesop⟩

/-- A row can be given a group that no other row has. -/
theorem distinctGroups_select {groups : List (Option String)} {current : Option String}
    {value : String} (hvalue : some value ∉ groups ∨ some value = current)
    (h : DistinctGroups groups) :
    DistinctGroups (groups.map fun groupId =>
      if groupId ≠ current then groupId else (some value).or groupId) := by
  obtain ⟨hnodup, hnone⟩ := h
  have hfresh : ∀ y ∈ groups, y ≠ current → some value ≠ y := by
    rintro y hy hyc rfl
    exact hvalue.elim (fun h => h hy) hyc
  constructor
  · refine hnodup.map_on fun x hx y hy hxy => ?_
    by_cases hxc : x = current <;> by_cases hyc : y = current
    · rw [hxc, hyc]
    · rw [if_neg (not_not.2 hxc), if_pos hyc] at hxy
      exact absurd hxy (hfresh y hy hyc)
    · rw [if_pos hxc, if_neg (not_not.2 hyc)] at hxy
      exact absurd hxy.symm (hfresh x hx hxc)
    · rwa [if_pos hxc, if_pos hyc] at hxy
  · rw [← List.map_dropLast, List.mem_map]
    rintro ⟨x, hx, hxv⟩
    split_ifs at hxv
    · exact hnone (hxv ▸ hx)
    · cases hxv

/-- An edit that the form offers keeps the groups of the rows distinct. -/
theorem distinctGroups_apply {groupIds : List String} {groupRoles : List GroupRoles} {e : Edit}
    (he : e.Offered groupIds groupRoles)
    (h : DistinctGroups (groupRoles.map GroupRoles.groupId)) :
    DistinctGroups ((e.apply groupRoles).map GroupRoles.groupId) := by
  cases e with
  | add =>
    rw [Edit.apply, List.map_append, List.map_singleton]
    exact distinctGroups_add he h
  | selectGroup current value =>
    rw [Edit.apply, map_groupId_handleOnChange]
    refine distinctGroups_select ?_ h
    simpa using (List.mem_filter.1 he.2).2
  | selectRoles current value =>
    have hsame : (fun groupId : Option String =>
        if groupId ≠ current then groupId else none.or groupId) = id := by
      funext groupId
      split_ifs <;> rfl
    rw [Edit.apply, map_groupId_handleOnChange, hsame, List.map_id]
    exact h

/-- The edits that the form offers never make two rows of one group. -/
theorem distinctGroups_of_reach {h : List Edit} {groupRoles : List GroupRoles}
    (hr : Machine.Reach (formMachine scimRoleAssignments scimGroups) Machine.anyStep h groupRoles) :
    DistinctGroups (groupRoles.map GroupRoles.groupId) := by
  induction hr with
  | start h0 =>
    obtain ⟨-, herr⟩ | ⟨-, rows, hok, hnodup, hrows⟩ := form_spec scimRoleAssignments scimGroups
    · cases herr.symm.trans h0
    · obtain rfl := Except.ok.inj (hok.symm.trans h0)
      refine ⟨hnodup, fun hnone => ?_⟩
      obtain ⟨v, hv, hgroup⟩ := List.mem_map.1 ((List.dropLast_sublist _).subset hnone)
      obtain ⟨a, -, -, rfl⟩ := (hrows v).1 hv
      cases hgroup
  | step _ _ hn ih =>
    obtain ⟨hoffered, hsome⟩ := Option.ite_none_right_eq_some.1 hn
    rw [← Option.some.inj hsome]
    exact distinctGroups_apply hoffered ih

/-! ## What is saved -/

/-- The form shows a pair. -/
def Shown (groupRoles : List GroupRoles) (a : RoleAssignment) : Prop :=
  ∃ v ∈ groupRoles, v.groupId = some a.groupId ∧ a.roleId ∈ v.roles

theorem mem_handleSave (groupRoles : List GroupRoles) (a : RoleAssignment) :
    a ∈ handleSave groupRoles ↔ Shown groupRoles a ∧ a.groupId ≠ "" := by
  simp only [handleSave, List.mem_flatMap, List.mem_filterMap, Shown]
  constructor
  · rintro ⟨⟨groupId, roles⟩, hv, role, hrole, ha⟩
    cases groupId with
    | none => cases ha
    | some groupId =>
      obtain ⟨hne, ha⟩ := Option.ite_none_left_eq_some.1 ha
      obtain rfl := Option.some.inj ha
      exact ⟨⟨_, hv, rfl, hrole⟩, hne⟩
  · rintro ⟨⟨⟨groupId, roles⟩, hv, rfl, hrole⟩, hne⟩
    exact ⟨_, hv, _, hrole, if_neg hne⟩

/-- The assignment belongs to a group that no edit concerns. -/
def Untouched (edits : List Edit) (a : RoleAssignment) : Prop :=
  ∀ e ∈ edits, ¬ e.Touches a.groupId

/-- The form opens, and after the edits it saves every original assignment that they do not concern
and every pair that it shows, and no other pair; without edits it saves the original pairs. -/
def SavesAll (scimRoleAssignments : List RoleAssignment) (scimGroups : List Group)
    (edits : List Edit) : Prop :=
  ∃ groupRoles, form scimRoleAssignments scimGroups = .ok groupRoles ∧
    (∀ a ∈ scimRoleAssignments, Untouched edits a → a ∈ handleSave (edited edits groupRoles)) ∧
    (∀ a, Shown (edited edits groupRoles) a → a ∈ handleSave (edited edits groupRoles)) ∧
    (∀ a ∈ handleSave (edited edits groupRoles), Shown (edited edits groupRoles) a ∨
      (a ∈ scimRoleAssignments ∧ Untouched edits a)) ∧
    (edits = [] → ∀ a, a ∈ handleSave groupRoles ↔ a ∈ scimRoleAssignments)

/-- An assignment that a row can carry: its group was fetched and has an id that is neither empty
nor `__proto__`, and it is the first assignment of its group. -/
def HasRow (scimRoleAssignments : List RoleAssignment) (scimGroups : List Group)
    (a : RoleAssignment) : Prop :=
  a.groupId ≠ "" ∧ a.groupId ≠ "__proto__" ∧ (∃ group ∈ scimGroups, group.groupId = a.groupId) ∧
    firstOf scimRoleAssignments a.groupId = some a

/-- An assignment of a group that no edit concerns is saved exactly when it has a row. -/
theorem saved_of_untouched {groupRoles : List GroupRoles} {edits : List Edit} {a : RoleAssignment}
    (hform : form scimRoleAssignments scimGroups = .ok groupRoles) (ha : Untouched edits a) :
    a ∈ handleSave (edited edits groupRoles) ↔ HasRow scimRoleAssignments scimGroups a := by
  obtain ⟨-, herr⟩ | ⟨-, rows, hok, -, hrows⟩ := form_spec scimRoleAssignments scimGroups
  · cases herr.symm.trans hform
  obtain rfl := Except.ok.inj (hok.symm.trans hform)
  have hshown : Shown (edited edits rows) a ↔
      firstOf scimRoleAssignments a.groupId = some a ∧
        a.groupId ∈ (groupIdToNameMap scimGroups).keys := by
    constructor
    · rintro ⟨v, hv, hgroup, hrole⟩
      obtain ⟨b, hb, hkey, rfl⟩ := (hrows v).1 ((row_of_untouched ha hgroup).1 hv)
      have hgroup : b.groupId = a.groupId := Option.some.inj hgroup
      have hrole : a.roleId = b.roleId := by simpa using hrole
      have hab : a = b := by
        cases a
        cases b
        simp_all
      rw [hab]
      exact ⟨hb, hkey⟩
    · rintro ⟨hfirst, hkey⟩
      have hrow := (hrows _).2 ⟨a, hfirst, hkey, rfl⟩
      exact ⟨_, (row_of_untouched ha rfl).2 hrow, rfl, List.mem_singleton_self _⟩
  rw [mem_handleSave, hshown, mem_keys_groupIdToNameMap, HasRow]
  tauto

/-- The condition of the form to open, in terms of the groups that were fetched. -/
theorem noneInherited_iff :
    NoneInherited scimRoleAssignments (groupIdToNameMap scimGroups).keys ↔
      ∀ group ∈ scimGroups, group.groupId ∈ objectPrototypeNames →
        ∀ a ∈ scimRoleAssignments, a.groupId ≠ group.groupId := by
  simp only [NoneInherited, mem_keys_groupIdToNameMap, firstOf_eq_none]
  constructor
  · intro h group hgroup hname
    refine h group.groupId ⟨?_, group, hgroup, rfl⟩ hname
    rintro hproto
    rw [hproto] at hname
    exact absurd hname (by decide)
  · rintro h _ ⟨-, group, hgroup, rfl⟩
    exact h group hgroup

/-- Saving loses nothing exactly when the form opens (no fetched group that has an assignment is
called like a function that every object inherits), every assignment of a group that the edits do
not concern has a row, and no row of the group with the empty id has a role. -/
theorem saves_all_iff (scimRoleAssignments : List RoleAssignment) (scimGroups : List Group)
    (edits : List Edit) :
    SavesAll scimRoleAssignments scimGroups edits ↔
      (∀ group ∈ scimGroups, group.groupId ∈ objectPrototypeNames →
        ∀ a ∈ scimRoleAssignments, a.groupId ≠ group.groupId) ∧
      (∀ a ∈ scimRoleAssignments, Untouched edits a →
        HasRow scimRoleAssignments scimGroups a) ∧
      ∀ groupRoles, form scimRoleAssignments scimGroups = .ok groupRoles →
        ∀ v ∈ edited edits groupRoles, v.groupId = some "" → v.roles = [] := by
  rw [← noneInherited_iff]
  obtain ⟨hnone, herr⟩ | ⟨hnone, rows, hok, -, hrows⟩ := form_spec scimRoleAssignments scimGroups
  · refine iff_of_false ?_ fun h => hnone h.1
    rintro ⟨groupRoles, hok, -⟩
    cases herr.symm.trans hok
  constructor
  · rintro ⟨groupRoles, hform, horiginal, hshown, -, -⟩
    refine ⟨hnone, fun a ha hun => (saved_of_untouched hform hun).1 (horiginal a ha hun), ?_⟩
    intro groupRoles' hform' v hv hempty
    obtain rfl := Except.ok.inj (hform.symm.trans hform')
    refine List.eq_nil_iff_forall_not_mem.2 fun role hrole => ?_
    have hsaved := hshown ⟨"", role⟩ ⟨v, hv, hempty, hrole⟩
    exact ((mem_handleSave _ _).1 hsaved).2 rfl
  · rintro ⟨-, hrow, hempty⟩
    have hkept : ∀ a, Shown (edited edits rows) a → a ∈ handleSave (edited edits rows) := by
      refine fun a ha => (mem_handleSave _ _).2 ⟨ha, fun hgroup => ?_⟩
      obtain ⟨v, hv, hvgroup, hrole⟩ := ha
      rw [hempty rows hok v hv (hgroup ▸ hvgroup)] at hrole
      cases hrole
    refine ⟨rows, hok, fun a ha hun => (saved_of_untouched hok hun).2 (hrow a ha hun), hkept,
      fun a ha => .inl ((mem_handleSave _ _).1 ha).1, ?_⟩
    rintro rfl a
    have hun : Untouched [] a := by simp [Untouched]
    refine ⟨fun ha => ?_, fun ha => (saved_of_untouched hok hun).2 (hrow a ha hun)⟩
    exact (firstOf_eq_some ((saved_of_untouched hok hun).1 ha).2.2.2).1

/-- Two roles of one group, and another group: when a role is given to the other group, the second
role of the first is revoked. -/
theorem save_revokes_second_role :
    ∃ groupRoles edits saved,
      (formMachine [⟨"g", "admin"⟩, ⟨"g", "editor"⟩] [⟨"g", "G"⟩, ⟨"h", "H"⟩]).init groupRoles ∧
      (formMachine [⟨"g", "admin"⟩, ⟨"g", "editor"⟩] [⟨"g", "G"⟩, ⟨"h", "H"⟩]).exec groupRoles
        edits = some saved ∧
      handleSave saved = [⟨"g", "admin"⟩, ⟨"h", "viewer"⟩] ∧
      ¬ SavesAll [⟨"g", "admin"⟩, ⟨"g", "editor"⟩] [⟨"g", "G"⟩, ⟨"h", "H"⟩] edits := by
  refine ⟨[⟨some "g", ["admin"]⟩],
    [.add, .selectGroup none "h", .selectRoles (some "h") ["viewer"]], _, rfl, rfl, by decide, ?_⟩
  rintro ⟨groupRoles, hform, horiginal, -⟩
  obtain rfl := Except.ok.inj hform
  have hun : Untouched [.add, .selectGroup none "h", .selectRoles (some "h") ["viewer"]]
      ⟨"g", "editor"⟩ := by
    simp [Untouched, Edit.Touches]
  exact absurd (horiginal ⟨"g", "editor"⟩ (by decide) hun) (by decide)

end StytchBrowser.AdminPortal.SCIM
