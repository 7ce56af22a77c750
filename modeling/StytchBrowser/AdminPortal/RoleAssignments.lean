import StytchBrowser.AdminPortal.SSORoleAssignments
import StytchBrowser.JsUtils.DeepEqual
import StytchBrowser.Lib.CodeUnits
import StytchBrowser.Lib.FailingFolds
import StytchBrowser.Lib.Splitting
import StytchBrowser.Lib.StableSort
import StytchBrowser.Web.B2BUI.SlugPattern

/-!
# The form for automatic role assignments

The section of the organization's settings collects the role assignments of four kinds, those of SSO
connections, of their groups, of email domains and of SCIM groups, in one object that is indexed by
the ids of the roles. The user adds and deletes assignments there. On every render the lists of the
sources are read back from the object and compared with the remote ones, and saving sends the lists
that differ.

* `opening_spec`: when the form opens, and what it shows then;
* `Valid.applyEdit`: an edit does not throw, and adds nothing that cannot be saved.
-/

universe u

namespace StytchBrowser.AdminPortal.OrgRoles

open Grouping SSO

/-! ## What is assigned -/

/-- An entry of the form. The ids of connections are globally unique UUIDs, which no object inherits
and which are no array indices. -/
inductive RoleAssignment (ι : Type u) where
  | SSO (displayName : String) (id : ι) (group : String)
  | Email (displayName : String)
  | SCIM (displayName groupId : String)
  deriving DecidableEq

inductive ConnectionType where
  | saml
  | external
  deriving DecidableEq

/-- The assignments of a connection: the roles of all its members, and those of groups. -/
structure SSORoleAssignmentInfo where
  connectionRoleAssignments : List String
  groupRoleAssignments : List GroupRoleAssignment
  deriving DecidableEq

structure TaggedConnection (ι : Type u) where
  connectionType : ConnectionType
  connection_id : ι
  display_name : String
  assignments : SSORoleAssignmentInfo

structure RbacEmailRoleAssignment where
  role_id : String
  domain : String
  deriving DecidableEq

/-- An entry of `scim_group_implicit_role_assignments`. It is compared as JSON text, so the order of
its fields counts. -/
structure SCIMGroupRoleAssignment where
  role_id : String
  group_id : String
  groupIdFirst : Bool
  deriving DecidableEq

structure SCIMConnection (ι : Type u) where
  connection_id : ι
  display_name : String
  scim_group_implicit_role_assignments : List SCIMGroupRoleAssignment

/-- What the section is rendered with. -/
structure Config (ι : Type u) where
  isSsoEnabled : Bool
  isScimEnabled : Bool
  sortedRoles : List String
  taggedConnections : List (TaggedConnection ι)
  rbacEmails : Option (List RbacEmailRoleAssignment)
  scimConnection : Option (SCIMConnection ι)
  /-- `Object.keys(allScimGroupIdToGroupName)`. -/
  scimGroupIds : List String
  distinct : (taggedConnections.map (·.connection_id)).Nodup
  named : ∀ c ∈ taggedConnections, ∀ a ∈ c.assignments.groupRoleAssignments, a.group ≠ ""

variable {ι : Type u}

def TaggedConnection.entries (connection : TaggedConnection ι) :
    List (String × RoleAssignment ι) :=
  let entry (role_id group : String) : String × RoleAssignment ι :=
    (role_id, .SSO connection.display_name connection.connection_id group)
  connection.assignments.connectionRoleAssignments.map (entry · "") ++
    connection.assignments.groupRoleAssignments.map fun a => entry a.role_id a.group

def RbacEmailRoleAssignment.entry (a : RbacEmailRoleAssignment) : String × RoleAssignment ι :=
  (a.role_id, .Email a.domain)

def SCIMConnection.entries (connection : SCIMConnection ι) : List (String × RoleAssignment ι) :=
  connection.scim_group_implicit_role_assignments.map fun a =>
    (a.role_id, .SCIM connection.display_name a.group_id)

namespace Config

variable (config : Config ι)

def remoteEmails : List RbacEmailRoleAssignment := config.rbacEmails.getD []

def remoteScimGroups : List SCIMGroupRoleAssignment :=
  (config.scimConnection.map (·.scim_group_implicit_role_assignments)).getD []

/-- The assignments of all sources in the order of the loops of `idMap`. -/
def assigned : List (String × RoleAssignment ι) :=
  config.taggedConnections.flatMap TaggedConnection.entries ++
    config.remoteEmails.map RbacEmailRoleAssignment.entry ++
    (config.scimConnection.map SCIMConnection.entries).getD []

end Config

/-! ## Opening the form -/

/-- `Record<string, RoleAssignment[]>`. -/
abbrev IdToRoleAssignments (ι : Type u) := PlainObject (List (RoleAssignment ι))

/-- The properties of an array and their truth values: its elements are objects. -/
def arrayFields (l : List (RoleAssignment ι)) (k : String) : Option Bool :=
  match arrayIndex k with
  | some n => if n < l.length then some true else none
  | none =>
      if k = "length" then some !l.isEmpty
      else if k ∈ DeepEqual.arrayPrototypeMethods then some true
      else none

/-- One turn of a loop: make the array of the role if there seems to be none, and push to it. -/
def assign (idToRoleAssignments : IdToRoleAssignments ι) (e : String × RoleAssignment ι) :
    Except TypeError (IdToRoleAssignments ι) :=
  match idToRoleAssignments.get arrayFields e.1 with
  | .value roleAssignments => .ok (idToRoleAssignments.set e.1 (roleAssignments ++ [e.2]))
  -- what is inherited and truthy is not an array
  | .foreign true => .error .typeError
  | .undefined | .foreign false => .ok (idToRoleAssignments.set e.1 [e.2])

/-- An empty array for every role. -/
def emptyRoles (sortedRoles : List String) : IdToRoleAssignments ι :=
  sortedRoles.foldl (fun acc role => acc.set role []) .empty

/-- `idMap`, with which the form is opened. -/
def idMap (config : Config ι) : Except TypeError (IdToRoleAssignments ι) :=
  config.assigned.foldlM assign (emptyRoles config.sortedRoles)

/-! ## Editing -/

/-- What the user can do: delete an entry of a role, or add entries to it by confirming the modal for
one of the sources. A row of the modal for SSO without a connection has the id `''`. -/
inductive Edit (ι : Type u) where
  | delete (roleId : String) (index : ℕ)
  | addEmails (roleId emailDomain : String)
  | addSso (roleId : String) (ssoRoleAssignments : List (Option ι × String))
  | addScim (roleId : String) (scimGroupIds : List String)

def Edit.roleId : Edit ι → String
  | .delete roleId _ | .addEmails roleId _ | .addSso roleId _ | .addScim roleId _ => roleId

/-- Whether an entry has a button that deletes it. -/
def canDelete (config : Config ι) : RoleAssignment ι → Bool
  | .Email _ => true
  | .SSO .. => config.isSsoEnabled
  | .SCIM .. => config.isScimEnabled

/-- `uniqueValuesSplitOnSpaces`. -/
def uniqueValuesSplitOnSpaces (input : String) : List String :=
  let values := (Splitting.split ' ' input).map fun val => String.ofList (Web.B2B.trim val.toList)
  (values.filter fun val => val.length > 0).eraseDups

section Adding

variable [DecidableEq ι]

/-- Append an assignment unless it is there. -/
def addNew (merged : List (RoleAssignment ι)) (present : RoleAssignment ι → Bool)
    (a : RoleAssignment ι) : List (RoleAssignment ι) :=
  if merged.any present then merged else merged ++ [a]

/-- `mergedRoleAssignments` for the email domains of a text. -/
def mergeEmails (remoteRoleAssignments : List (RoleAssignment ι)) (emailDomain : String) :
    List (RoleAssignment ι) :=
  (uniqueValuesSplitOnSpaces emailDomain).foldl
    (fun merged domain => addNew merged (fun a => a = .Email domain) (.Email domain))
    remoteRoleAssignments

/-- `mergedRoleAssignments` for the rows of the modal. -/
def mergeSso (config : Config ι) (remoteRoleAssignments : List (RoleAssignment ι))
    (ssoRoleAssignments : List (Option ι × String)) : List (RoleAssignment ι) :=
  ssoRoleAssignments.foldl
    (fun merged row =>
      match row.1 with
      | none => merged
      | some id =>
          let group := String.ofList (Web.B2B.trim row.2.toList)
          let present : RoleAssignment ι → Bool
            | .SSO _ id' group' => id' = id ∧ group' = group
            | _ => false
          let connection := config.taggedConnections.find? fun val => val.connection_id = id
          addNew merged present (.SSO ((connection.map (·.display_name)).getD "") id group))
    remoteRoleAssignments

/-- `mergedRoleAssignments` for SCIM groups: an id is looked for among the old assignments only. -/
def mergeScim (config : Config ι) (remoteRoleAssignments : List (RoleAssignment ι))
    (scimGroupIds : List String) : List (RoleAssignment ι) :=
  let currentGroupIds := remoteRoleAssignments.filterMap fun
    | .SCIM _ groupId => some groupId
    | _ => none
  let displayName := (config.scimConnection.map (·.display_name)).getD ""
  remoteRoleAssignments ++
    (scimGroupIds.filter fun id => id ∉ currentGroupIds).map fun id => .SCIM displayName id

/-- Whether the page offers an edit. -/
def Edit.Offered (config : Config ι) : Edit ι → Prop
  | .delete roleId _ => roleId ∈ config.sortedRoles
  | .addEmails roleId _ => roleId ∈ config.sortedRoles
  | .addSso roleId rows =>
      roleId ∈ config.sortedRoles ∧ config.isSsoEnabled = true ∧
        ∀ row ∈ rows, ∀ id ∈ row.1, id ∈ config.taggedConnections.map (·.connection_id)
  | .addScim roleId ids =>
      roleId ∈ config.sortedRoles ∧ config.isScimEnabled = true ∧
        config.scimConnection.isSome = true ∧ ∀ id ∈ ids, id ∈ config.scimGroupIds

instance (config : Config ι) : DecidablePred (Edit.Offered config)
  | .delete roleId _ | .addEmails roleId _ =>
      inferInstanceAs (Decidable (roleId ∈ config.sortedRoles))
  | .addSso _ _ | .addScim _ _ => inferInstanceAs (Decidable (_ ∧ _))

/-- `{ ...idMap, [roleId]: assignments }` has own properties only, `__proto__` among them. -/
def write (idMap : IdToRoleAssignments ι) (roleId : String) (assignments : List (RoleAssignment ι)) :
    IdToRoleAssignments ι :=
  ⟨idMap.own.set roleId assignments, none⟩

/-- The state after the modal was confirmed: spreading what is not an array throws. -/
def merge (idMap : IdToRoleAssignments ι) (roleId : String)
    (merged : List (RoleAssignment ι) → List (RoleAssignment ι)) :
    Except TypeError (IdToRoleAssignments ι) :=
  match idMap.get arrayFields roleId with
  | .value remoteRoleAssignments =>
      if (merged remoteRoleAssignments).length ≠ remoteRoleAssignments.length then
        .ok (write idMap roleId (merged remoteRoleAssignments))
      else .ok idMap
  | .undefined | .foreign _ => .error .typeError

/-- The state after an edit. What the page does not offer changes nothing. -/
def applyEdit (config : Config ι) (idMap : IdToRoleAssignments ι) (e : Edit ι) :
    Except TypeError (IdToRoleAssignments ι) :=
  if e.Offered config then
    match e with
    | .delete roleId index =>
        match idMap.get arrayFields roleId with
        | .value items =>
            if items[index]?.any (canDelete config) then
              .ok (write idMap roleId (items.eraseIdx index))
            else .ok idMap
        -- no entries are shown
        | .undefined | .foreign _ => .ok idMap
    | .addEmails roleId emailDomain => merge idMap roleId (mergeEmails · emailDomain)
    | .addSso roleId rows => merge idMap roleId (mergeSso config · rows)
    | .addScim roleId ids => merge idMap roleId (mergeScim config · ids)
  else .ok idMap

end Adding

/-! ## What the form shows when it opens -/

/-- The state of the form has the assignments of a list, in arrays of its own. -/
structure Opened (sortedRoles : List String) (assigned : List (String × RoleAssignment ι))
    (idMap : IdToRoleAssignments ι) : Prop where
  proto : idMap.proto = none
  roles : ∀ role ∈ sortedRoles, idMap.own.contains role = true
  keys : ∀ role, idMap.own.contains role = true → role ∈ sortedRoles ∨ ¬Inherited role
  pairs : (listed id idMap.own).Perm assigned

theorem opened_emptyRoles {sortedRoles : List String} (h : "__proto__" ∉ sortedRoles) :
    Opened (ι := ι) sortedRoles [] (emptyRoles sortedRoles) := by
  have hspec : (emptyRoles (ι := ι) sortedRoles).proto = none ∧
      ∀ k, (emptyRoles (ι := ι) sortedRoles).own.get k = if k ∈ sortedRoles then some [] else none := by
    induction sortedRoles using List.reverseRecOn with
    | nil => exact ⟨rfl, fun k => by simp [emptyRoles, PlainObject.empty]⟩
    | append_singleton sortedRoles role ih =>
      rw [List.mem_append, List.mem_singleton, not_or] at h
      obtain ⟨hproto, hown⟩ := ih h.1
      have hset : emptyRoles (ι := ι) (sortedRoles ++ [role]) = (emptyRoles sortedRoles).set role [] := by
        rw [emptyRoles, List.foldl_append]
        rfl
      rw [hset, PlainObject.proto_set, if_neg (Ne.symm h.2)]
      refine ⟨hproto, fun k => ?_⟩
      rw [PlainObject.own_set, hown]
      by_cases hk : k = role
      · simp [hk, Ne.symm h.2]
      · simp [hk]
  obtain ⟨hproto, hown⟩ := hspec
  refine ⟨hproto, fun role hrole => ?_, fun role hrole => ?_, ?_⟩
  · rw [OrderedMap.contains, hown, if_pos hrole]
    rfl
  · by_contra hnot
    rw [OrderedMap.contains, hown, if_neg (not_or.1 hnot).1] at hrole
    cases hrole
  · refine List.perm_nil.2 (List.eq_nil_iff_forall_not_mem.2 ?_)
    rintro ⟨k, a⟩ ha
    obtain ⟨row, hrow, ha⟩ := (mem_listed _).1 ha
    rw [hown] at hrow
    split_ifs at hrow
    obtain rfl := Option.some.inj hrow
    cases ha

section Opening

variable {sortedRoles : List String} {assigned : List (String × RoleAssignment ι)}
  {idMap : IdToRoleAssignments ι}

theorem Opened.set (h : Opened sortedRoles assigned idMap) (hroles : "__proto__" ∉ sortedRoles)
    {e : String × RoleAssignment ι} (he : e.1 ∈ sortedRoles ∨ ¬Inherited e.1)
    {row : List (RoleAssignment ι)}
    (hrow : (listed id (idMap.own.set e.1 row)).Perm (listed id idMap.own ++ [e])) :
    Opened sortedRoles (assigned ++ [e]) (idMap.set e.1 row) := by
  have hne : e.1 ≠ "__proto__" := by
    rcases he with he | he
    · exact fun heq => hroles (heq ▸ he)
    · exact fun heq => he (.inl heq)
  have hset : idMap.set e.1 row = ⟨idMap.own.set e.1 row, idMap.proto⟩ := if_neg hne
  rw [hset]
  have hcontains : ∀ k, (idMap.own.set e.1 row).contains k = true ↔
      k = e.1 ∨ idMap.own.contains k = true := by
    intro k
    rw [OrderedMap.contains, OrderedMap.get_set]
    by_cases hk : k = e.1 <;> simp [hk, OrderedMap.contains]
  refine ⟨h.proto, fun role hrole => (hcontains role).2 (.inr (h.roles role hrole)),
    fun role hrole => ?_, hrow.trans (h.pairs.append_right _)⟩
  rcases (hcontains role).1 hrole with rfl | hrole
  · exact he
  · exact h.keys role hrole

/-- One turn of a loop: it fails at a role whose id is inherited, unless the role is a known one. -/
theorem Opened.assign (h : Opened sortedRoles assigned idMap) (hroles : "__proto__" ∉ sortedRoles)
    (e : String × RoleAssignment ι) :
    ((Inherited e.1 ∧ e.1 ∉ sortedRoles) ∧ assign idMap e = .error .typeError) ∨
      (¬(Inherited e.1 ∧ e.1 ∉ sortedRoles) ∧
        ∃ idMap', OrgRoles.assign idMap e = .ok idMap' ∧
          Opened sortedRoles (assigned ++ [e]) idMap') := by
  cases hget : idMap.own.get e.1 with
  | some row =>
    have he : e.1 ∈ sortedRoles ∨ ¬Inherited e.1 := by
      apply h.keys
      rw [OrderedMap.contains, hget]
      rfl
    refine .inr ⟨fun hbad => he.elim hbad.2 fun hnot => hnot hbad.1, _, ?_,
      h.set hroles he (listed_push id hget rfl)⟩
    rw [OrgRoles.assign, PlainObject.get_of_own _ hget]
    rfl
  | none =>
    have hlisted : e.1 ∉ sortedRoles := by
      intro hmem
      have hcontains := h.roles _ hmem
      rw [OrderedMap.contains, hget] at hcontains
      cases hcontains
    by_cases he : Inherited e.1
    · refine .inl ⟨⟨he, hlisted⟩, ?_⟩
      rw [OrgRoles.assign, PlainObject.get_of_inherited _ h.proto hget he]
    · refine .inr ⟨fun hbad => he hbad.1, _, ?_,
        h.set hroles (.inr he) (listed_push_new id hget rfl)⟩
      rw [OrgRoles.assign, PlainObject.get_of_not_inherited _ h.proto hget he]

end Opening

/-- The form opens unless an assigned role is unknown and has an id that objects inherit. -/
theorem opening_spec {config : Config ι} (hroles : "__proto__" ∉ config.sortedRoles) :
    ((∃ e ∈ config.assigned, Inherited e.1 ∧ e.1 ∉ config.sortedRoles) ∧
        idMap config = .error .typeError) ∨
      ((∀ e ∈ config.assigned, ¬(Inherited e.1 ∧ e.1 ∉ config.sortedRoles)) ∧
        ∃ state, idMap config = .ok state ∧ Opened config.sortedRoles config.assigned state) :=
  FailingFolds.foldlM_spec (opened_emptyRoles hroles)
    (fun _ _ e _ h => Opened.assign h hroles e) config.assigned

/-! ## What edits keep -/

/-- What can be saved: the connections are among those of the page. -/
def Savable (config : Config ι) : RoleAssignment ι → Prop
  | .SSO _ id _ => id ∈ config.taggedConnections.map (·.connection_id)
  | .Email _ => True
  | .SCIM .. => config.scimConnection.isSome = true

structure Valid (config : Config ι) (idMap : IdToRoleAssignments ι) : Prop where
  proto : idMap.proto = none
  roles : ∀ role ∈ config.sortedRoles, idMap.own.contains role = true
  savable : ∀ role row, idMap.own.get role = some row → ∀ a ∈ row, Savable config a

theorem savable_assigned {config : Config ι} {e : String × RoleAssignment ι}
    (he : e ∈ config.assigned) : Savable config e.2 := by
  rw [Config.assigned, List.mem_append, List.mem_append] at he
  rcases he with (he | he) | he
  · obtain ⟨connection, hmem, he⟩ := List.mem_flatMap.1 he
    have hid := List.mem_map_of_mem (f := (·.connection_id)) hmem
    rcases List.mem_append.1 he with he | he
    · obtain ⟨role_id, -, rfl⟩ := List.mem_map.1 he
      exact hid
    · obtain ⟨a, -, rfl⟩ := List.mem_map.1 he
      exact hid
  · obtain ⟨a, -, rfl⟩ := List.mem_map.1 he
    exact trivial
  · cases hscim : config.scimConnection with
    | none =>
      rw [hscim] at he
      cases he
    | some connection =>
      rw [hscim] at he
      obtain ⟨a, -, rfl⟩ := List.mem_map.1 he
      exact Option.isSome_iff_exists.2 ⟨connection, hscim⟩

theorem Opened.valid {config : Config ι} {idMap : IdToRoleAssignments ι}
    (h : Opened config.sortedRoles config.assigned idMap) : Valid config idMap := by
  refine ⟨h.proto, h.roles, fun role row hrow a ha => ?_⟩
  exact savable_assigned (h.pairs.subset ((mem_listed id).2 ⟨row, hrow, ha⟩))

section Edits

variable {config : Config ι} {idMap : IdToRoleAssignments ι}

theorem Valid.write (h : Valid config idMap) {roleId : String} {assignments : List (RoleAssignment ι)}
    (ha : ∀ a ∈ assignments, Savable config a) : Valid config (write idMap roleId assignments) := by
  refine ⟨rfl, fun role hrole => ?_, fun role row hrow => ?_⟩
  · rw [OrgRoles.write, OrderedMap.contains, OrderedMap.get_set]
    split_ifs
    · rfl
    · exact h.roles role hrole
  · rw [OrgRoles.write, OrderedMap.get_set] at hrow
    split_ifs at hrow
    · obtain rfl := Option.some.inj hrow
      exact ha
    · exact h.savable role row hrow

/-- The array of a known role. -/
theorem Valid.array (h : Valid config idMap) {roleId : String} (hrole : roleId ∈ config.sortedRoles) :
    ∃ row, idMap.own.get roleId = some row ∧ idMap.get arrayFields roleId = .value row ∧
      ∀ a ∈ row, Savable config a := by
  obtain ⟨row, hrow⟩ := Option.isSome_iff_exists.1 (h.roles roleId hrole)
  exact ⟨row, hrow, PlainObject.get_of_own _ hrow, h.savable roleId row hrow⟩

theorem Valid.merge (h : Valid config idMap) {roleId : String} (hrole : roleId ∈ config.sortedRoles)
    {merged : List (RoleAssignment ι) → List (RoleAssignment ι)}
    (hmerged : ∀ l, (∀ a ∈ l, Savable config a) → ∀ a ∈ merged l, Savable config a) :
    ∃ idMap', merge idMap roleId merged = .ok idMap' ∧ Valid config idMap' := by
  obtain ⟨row, -, hget, hrow⟩ := h.array hrole
  rw [OrgRoles.merge, hget]
  dsimp only
  split_ifs
  · exact ⟨_, rfl, h.write (hmerged row hrow)⟩
  · exact ⟨_, rfl, h⟩

theorem savable_addNew {merged : List (RoleAssignment ι)} (hmerged : ∀ a ∈ merged, Savable config a)
    {a : RoleAssignment ι} (ha : Savable config a) (present : RoleAssignment ι → Bool) :
    ∀ b ∈ addNew merged present a, Savable config b := by
  intro b hb
  unfold addNew at hb
  split_ifs at hb
  · exact hmerged b hb
  · rcases List.mem_append.1 hb with hb | hb
    · exact hmerged b hb
    · rw [List.mem_singleton.1 hb]
      exact ha

theorem savable_mergeScim {l : List (RoleAssignment ι)} (hl : ∀ a ∈ l, Savable config a)
    (hscim : config.scimConnection.isSome = true) (scimGroupIds : List String) :
    ∀ a ∈ mergeScim config l scimGroupIds, Savable config a := by
  intro a ha
  rcases List.mem_append.1 ha with ha | ha
  · exact hl a ha
  · obtain ⟨id, -, rfl⟩ := List.mem_map.1 ha
    exact hscim

variable [DecidableEq ι]

theorem savable_mergeEmails {l : List (RoleAssignment ι)} (hl : ∀ a ∈ l, Savable config a)
    (emailDomain : String) : ∀ a ∈ mergeEmails l emailDomain, Savable config a :=
  List.foldlRecOn (motive := fun merged => ∀ a ∈ merged, Savable config a) _ _ hl
    fun _ hmerged domain _ => savable_addNew (a := .Email domain) hmerged trivial _

theorem savable_mergeSso {l : List (RoleAssignment ι)} (hl : ∀ a ∈ l, Savable config a)
    {rows : List (Option ι × String)}
    (hrows : ∀ row ∈ rows, ∀ id ∈ row.1, id ∈ config.taggedConnections.map (·.connection_id)) :
    ∀ a ∈ mergeSso config l rows, Savable config a := by
  refine List.foldlRecOn (motive := fun merged => ∀ a ∈ merged, Savable config a) _ _ hl
    fun merged hmerged row hrow => ?_
  cases hid : row.1 with
  | none => exact hmerged
  | some id =>
    have hmem : id ∈ config.taggedConnections.map (·.connection_id) := hrows row hrow id hid
    exact savable_addNew (a := .SSO _ id _) hmerged hmem _

/-- An edit does not throw, and it keeps the form valid. -/
theorem Valid.applyEdit (h : Valid config idMap) (e : Edit ι) :
    ∃ idMap', applyEdit config idMap e = .ok idMap' ∧ Valid config idMap' := by
  unfold OrgRoles.applyEdit
  split_ifs with hoffered
  · cases e with
    | delete roleId index =>
      obtain ⟨row, -, hget, hrow⟩ := h.array hoffered
      dsimp only
      rw [hget]
      dsimp only
      split_ifs
      · exact ⟨_, rfl, h.write fun a ha => hrow a (List.mem_of_mem_eraseIdx ha)⟩
      · exact ⟨_, rfl, h⟩
    | addEmails roleId emailDomain =>
      exact h.merge hoffered fun _ hl => savable_mergeEmails hl emailDomain
    | addSso roleId rows =>
      exact h.merge hoffered.1 fun _ hl => savable_mergeSso hl hoffered.2.2
    | addScim roleId ids =>
      exact h.merge hoffered.1 fun _ hl => savable_mergeScim hl hoffered.2.2.1 ids
  · exact ⟨_, rfl, h⟩

end Edits

end StytchBrowser.AdminPortal.OrgRoles
