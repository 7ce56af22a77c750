import StytchBrowser.JsUtils.PlainObject
import StytchBrowser.Lib.FailingFolds
import StytchBrowser.Lib.Grouping

/-!
# The form for the role assignments of SSO groups

The assignments of a connection are a list of pairs of a group and a role. The form groups them in an
object that is indexed by the names of the groups, and saving flattens the rows with a name and roles.

* `groupRoles_spec`: when the grouping ends, and what its rows are;
* `lossless_iff`: when opening the form and saving loses nothing.
-/

namespace StytchBrowser.AdminPortal.SSO

open Grouping

/-- An entry of `saml_group_implicit_role_assignments` or its external counterpart. -/
structure GroupRoleAssignment where
  group : String
  role_id : String
  deriving DecidableEq

structure ImplicitRoleAssignment where
  group : String
  roleIds : List String
  deriving DecidableEq

structure RoleAssignmentsFormState where
  connectionRoleIds : List String
  groupedRoles : List ImplicitRoleAssignment

/-! ## Grouping -/

/-- One turn of the loop. The prototype of `acc` is never replaced: what is read under `__proto__` is
inherited and truthy, so nothing is written there. -/
def groupRole (acc : PlainObject ImplicitRoleAssignment) (assignment : GroupRoleAssignment) :
    Except TypeError (PlainObject ImplicitRoleAssignment) :=
  match acc.get (fun _ _ => none) assignment.group with
  | .value row =>
      .ok (acc.set assignment.group { row with roleIds := row.roleIds ++ [assignment.role_id] })
  -- what is inherited has no `roleIds`, and `undefined` has no `push`
  | .foreign true => .error .typeError
  | .undefined | .foreign false =>
      .ok (acc.set assignment.group ⟨assignment.group, [assignment.role_id]⟩)

def groupRoles (implicitGroupAssignments : List GroupRoleAssignment) :
    Except TypeError (PlainObject ImplicitRoleAssignment) :=
  implicitGroupAssignments.foldlM groupRole .empty

/-- `groupedRoles`: the values of the object. -/
def groupedRoles (implicitGroupAssignments : List GroupRoleAssignment) :
    Except TypeError (List ImplicitRoleAssignment) :=
  (groupRoles implicitGroupAssignments).map fun acc => (objectEntries acc.own).map (·.2)

/-! ## Saving -/

def filteredGroupRoles (groupedRoles : List ImplicitRoleAssignment) : List ImplicitRoleAssignment :=
  groupedRoles.filter fun row => row.group ≠ "" ∧ row.roleIds.length > 0

/-- The rows as a list of pairs. -/
def flattenGroupRoles (rows : List ImplicitRoleAssignment) : List GroupRoleAssignment :=
  rows.flatMap fun row => row.roleIds.map fun role_id => ⟨row.group, role_id⟩

/-- The properties that `handleSave` mutates. -/
structure MutatedProperties where
  implicitRoleAssignments : Option (List String)
  implicitGroupAssignments : Option (List GroupRoleAssignment)

/-- The mutation of `handleSave`, if it sends one. The properties have other names for external
connections. -/
def handleSave (remoteState localState : RoleAssignmentsFormState) : Option MutatedProperties :=
  let implicitRoleAssignments :=
    if remoteState.connectionRoleIds ≠ localState.connectionRoleIds then
      some localState.connectionRoleIds
    else none
  let filteredGroupRoles := filteredGroupRoles localState.groupedRoles
  let implicitGroupAssignments :=
    if remoteState.groupedRoles ≠ filteredGroupRoles then some (flattenGroupRoles filteredGroupRoles)
    else none
  if implicitRoleAssignments.isSome || implicitGroupAssignments.isSome then
    some ⟨implicitRoleAssignments, implicitGroupAssignments⟩
  else none

/-- The assignments of the connection after the mutation. -/
def storedAssignments (stored : List GroupRoleAssignment) (sent : Option MutatedProperties) :
    List GroupRoleAssignment :=
  (sent.bind (·.implicitGroupAssignments)).getD stored

/-- The form opens, and without edits it flattens to the assignments, each as often as before, and
saving leaves the connection with them. -/
def Lossless (connectionRoleIds : List String) (assignments : List GroupRoleAssignment) : Prop :=
  ∃ rows, groupedRoles assignments = .ok rows ∧
    (flattenGroupRoles (filteredGroupRoles rows)).Perm assignments ∧
    (storedAssignments assignments
      (handleSave ⟨connectionRoleIds, rows⟩ ⟨connectionRoleIds, rows⟩)).Perm assignments

/-! ## What the grouping makes -/

/-- The name is found on an empty object. -/
def Inherited (group : String) : Prop := group = "__proto__" ∨ group ∈ objectPrototypeNames

instance : DecidablePred Inherited := fun _ => inferInstanceAs (Decidable (_ ∨ _))

/-- A pair as an assignment. -/
def GroupRoleAssignment.ofPair (e : String × String) : GroupRoleAssignment := ⟨e.1, e.2⟩

/-- The rows for a list of assignments: every row is kept under its own group and has roles, and
together they have the pairs of the list. -/
structure Grouped (assignments : List GroupRoleAssignment)
    (acc : PlainObject ImplicitRoleAssignment) : Prop where
  proto : acc.proto = none
  rows : ∀ group row, acc.own.get group = some row →
    row.group = group ∧ row.roleIds ≠ [] ∧ ∃ a ∈ assignments, a.group = group
  pairs : ((listed ImplicitRoleAssignment.roleIds acc.own).map .ofPair).Perm assignments

theorem groupRole_of_inherited {acc : PlainObject ImplicitRoleAssignment} {a : GroupRoleAssignment}
    (hproto : acc.proto = none) (hget : acc.own.get a.group = none) (h : Inherited a.group) :
    groupRole acc a = .error .typeError := by
  rw [groupRole, PlainObject.get_of_inherited _ hproto hget h]

theorem groupRole_of_own {acc : PlainObject ImplicitRoleAssignment} {a : GroupRoleAssignment}
    (hproto : acc.proto = none) (h : ¬Inherited a.group) :
    groupRole acc a = .ok ⟨acc.own.set a.group
      ((acc.own.get a.group).elim ⟨a.group, [a.role_id]⟩ fun row =>
        { row with roleIds := row.roleIds ++ [a.role_id] }), none⟩ := by
  have hset : ∀ row, acc.set a.group row = ⟨acc.own.set a.group row, none⟩ := by
    intro row
    rw [PlainObject.set, if_neg (not_or.1 h).1, hproto]
  unfold groupRole
  cases hget : acc.own.get a.group with
  | none =>
    rw [PlainObject.get_of_not_inherited _ hproto hget h]
    exact congrArg Except.ok (hset _)
  | some row =>
    rw [PlainObject.get_of_own _ hget]
    exact congrArg Except.ok (hset _)

/-- One turn of the loop adds its pair. -/
theorem Grouped.step {assignments : List GroupRoleAssignment}
    {acc : PlainObject ImplicitRoleAssignment} (h : Grouped assignments acc)
    {a : GroupRoleAssignment} (ha : ¬Inherited a.group) :
    ∃ acc', groupRole acc a = .ok acc' ∧ Grouped (assignments ++ [a]) acc' := by
  refine ⟨_, groupRole_of_own h.proto ha, rfl, fun group row hrow => ?_, ?_⟩
  · rw [OrderedMap.get_set] at hrow
    have hmem : a ∈ assignments ++ [a] := List.mem_append_right _ (List.mem_singleton_self a)
    split_ifs at hrow with hgroup
    · obtain rfl := Option.some.inj hrow
      subst hgroup
      cases hget : acc.own.get a.group with
      | none => exact ⟨rfl, List.cons_ne_nil _ _, a, hmem, rfl⟩
      | some old =>
        exact ⟨(h.rows _ _ hget).1, List.append_ne_nil_of_right_ne_nil _ (List.cons_ne_nil _ _), a,
          hmem, rfl⟩
    · obtain ⟨hown, hroles, b, hb, hbg⟩ := h.rows group row hrow
      exact ⟨hown, hroles, b, List.mem_append_left _ hb, hbg⟩
  · have hpush : (listed ImplicitRoleAssignment.roleIds (acc.own.set a.group
        ((acc.own.get a.group).elim ⟨a.group, [a.role_id]⟩ fun row =>
          { row with roleIds := row.roleIds ++ [a.role_id] }))).Perm
        (listed ImplicitRoleAssignment.roleIds acc.own ++ [(a.group, a.role_id)]) := by
      cases hget : acc.own.get a.group with
      | none => exact listed_push_new _ hget rfl
      | some row => exact listed_push _ hget rfl
    refine (hpush.map _).trans ?_
    rw [List.map_append]
    exact h.pairs.append_right _

/-- The grouping ends unless a group is called like something that objects inherit. -/
theorem groupRoles_spec (assignments : List GroupRoleAssignment) :
    ((∃ a ∈ assignments, Inherited a.group) ∧ groupRoles assignments = .error .typeError) ∨
    ((∀ a ∈ assignments, ¬Inherited a.group) ∧
      ∃ acc, groupRoles assignments = .ok acc ∧ Grouped assignments acc) := by
  have hempty : Grouped [] .empty := by
    refine ⟨rfl, fun _ _ h => ?_, List.Perm.refl _⟩
    cases h
  refine FailingFolds.foldlM_spec hempty (fun l acc a hown hgrouped => ?_) assignments
  by_cases ha : Inherited a.group
  · refine .inl ⟨ha, groupRole_of_inherited hgrouped.proto ?_ ha⟩
    -- a row under this name would be one of an earlier assignment
    cases hget : acc.own.get a.group with
    | none => rfl
    | some row =>
      obtain ⟨-, -, b, hb, hbg⟩ := hgrouped.rows _ _ hget
      exact absurd (hbg ▸ ha) (hown b hb)
  · exact .inr ⟨ha, hgrouped.step ha⟩

/-! ## What is saved -/

theorem flattenGroupRoles_cons (row : ImplicitRoleAssignment) (rows : List ImplicitRoleAssignment) :
    flattenGroupRoles (row :: rows) =
      (row.roleIds.map fun role_id => ⟨row.group, role_id⟩) ++ flattenGroupRoles rows :=
  List.flatMap_cons

/-- The filter drops the pairs of the group without a name. -/
theorem flatten_filteredGroupRoles (rows : List ImplicitRoleAssignment) :
    flattenGroupRoles (filteredGroupRoles rows) =
      (flattenGroupRoles rows).filter fun a => a.group ≠ "" := by
  induction rows with
  | nil => rfl
  | cons row rows ih =>
    rw [flattenGroupRoles_cons, List.filter_append, ← ih]
    by_cases hgroup : row.group = ""
    · have hdropped : filteredGroupRoles (row :: rows) = filteredGroupRoles rows :=
        List.filter_cons_of_neg (by simp [hgroup])
      have hnone : (row.roleIds.map fun role_id => GroupRoleAssignment.mk row.group role_id).filter
          (fun a => a.group ≠ "") = [] := by simp [hgroup]
      rw [hdropped, hnone]
      rfl
    · have hall : (row.roleIds.map fun role_id => GroupRoleAssignment.mk row.group role_id).filter
          (fun a => a.group ≠ "") =
          row.roleIds.map fun role_id => GroupRoleAssignment.mk row.group role_id :=
        List.filter_eq_self.2 (by simp [hgroup])
      rw [hall]
      by_cases hroles : row.roleIds = []
      · have hdropped : filteredGroupRoles (row :: rows) = filteredGroupRoles rows :=
          List.filter_cons_of_neg (by simp [hroles])
        rw [hdropped, hroles]
        rfl
      · have hkept : filteredGroupRoles (row :: rows) = row :: filteredGroupRoles rows :=
          List.filter_cons_of_pos (by simpa [hgroup, List.length_pos_iff] using hroles)
        rw [hkept, flattenGroupRoles_cons]

theorem flatten_rows {assignments : List GroupRoleAssignment}
    {acc : PlainObject ImplicitRoleAssignment} (h : Grouped assignments acc) :
    (flattenGroupRoles ((objectEntries acc.own).map (·.2))).Perm assignments := by
  have hkeys : ∀ e ∈ objectEntries acc.own, (keyed ImplicitRoleAssignment.roleIds e).map .ofPair =
      e.2.roleIds.map fun role_id => GroupRoleAssignment.mk e.2.group role_id := by
    intro e he
    have hget := (acc.own.get_eq_some_iff e.1 e.2).2 ((objectEntries_perm acc.own).subset he)
    rw [keyed, List.map_map, (h.rows _ _ hget).1]
    rfl
  have hflat : flattenGroupRoles ((objectEntries acc.own).map (·.2)) =
      ((objectEntries acc.own).flatMap (keyed ImplicitRoleAssignment.roleIds)).map .ofPair := by
    rw [flattenGroupRoles, List.flatMap_map, List.map_flatMap]
    exact (List.flatMap_congr hkeys).symm
  rw [hflat]
  exact (((objectEntries_perm acc.own).flatMap_right _).map _).trans h.pairs

/-- Nothing is lost exactly when every group has a name that is not one of the inherited ones. -/
theorem lossless_iff (connectionRoleIds : List String) (assignments : List GroupRoleAssignment) :
    Lossless connectionRoleIds assignments ↔
      ∀ a ∈ assignments, a.group ≠ "" ∧ a.group ≠ "__proto__" ∧ a.group ∉ objectPrototypeNames := by
  obtain ⟨⟨a, ha, hinherited⟩, herr⟩ | ⟨hown, acc, hok, hgrouped⟩ := groupRoles_spec assignments
  · refine iff_of_false ?_ fun h => ?_
    · rintro ⟨rows, hrows, -⟩
      rw [groupedRoles, herr] at hrows
      cases hrows
    · exact hinherited.elim (h a ha).2.1 (h a ha).2.2
  · have hrows : groupedRoles assignments = .ok ((objectEntries acc.own).map (·.2)) := by
      rw [groupedRoles, hok]
      rfl
    have hflat := (flatten_rows hgrouped).filter fun a => a.group ≠ ""
    rw [← flatten_filteredGroupRoles] at hflat
    constructor
    · rintro ⟨rows, hrows', hperm, -⟩ a ha
      obtain rfl := Except.ok.inj (hrows.symm.trans hrows')
      have hlength := (hflat.symm.trans hperm).length_eq
      have hgroup := List.length_filter_eq_length_iff.1 hlength a ha
      exact ⟨by simpa using hgroup, not_or.1 (hown a ha)⟩
    · intro h
      have hall : assignments.filter (fun a => a.group ≠ "") = assignments :=
        List.filter_eq_self.2 fun a ha => decide_eq_true (h a ha).1
      rw [hall] at hflat
      -- every row has a name and roles, so the filter changes nothing and nothing is sent
      have hsame : filteredGroupRoles ((objectEntries acc.own).map (·.2)) =
          (objectEntries acc.own).map (·.2) := by
        refine List.filter_eq_self.2 fun row hrow => ?_
        obtain ⟨e, he, rfl⟩ := List.mem_map.1 hrow
        have hget := (acc.own.get_eq_some_iff e.1 e.2).2 ((objectEntries_perm acc.own).subset he)
        obtain ⟨hgroup, hroles, a, ha, hag⟩ := hgrouped.rows _ _ hget
        refine decide_eq_true ⟨?_, List.length_pos_iff.2 hroles⟩
        rw [hgroup, ← hag]
        exact (h a ha).1
      refine ⟨_, hrows, hflat, ?_⟩
      simp [storedAssignments, handleSave, hsame]

/-- A group that is called `constructor` keeps the form from opening. -/
theorem constructor_group_throws :
    ¬Lossless [] [⟨"constructor", "admin"⟩] ∧
      groupedRoles [⟨"constructor", "admin"⟩] = .error .typeError := by
  have hthrows : groupedRoles [⟨"constructor", "admin"⟩] = .error .typeError := rfl
  refine ⟨?_, hthrows⟩
  rintro ⟨rows, hrows, -⟩
  cases hthrows.symm.trans hrows

end StytchBrowser.AdminPortal.SSO
