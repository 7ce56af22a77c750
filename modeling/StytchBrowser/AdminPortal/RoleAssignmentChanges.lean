import StytchBrowser.AdminPortal.RoleAssignments

/-!
# The changes of automatic role assignments

On every render the lists of the four sources are read back from the form. The email domains and the
groups of each connection are sorted by one field, in the order of the locale, and compared with the
remote ones position by position; the roles of each connection are compared as sorted texts, the SCIM
groups as they come. Saving sends every list that differs.

* `SavesExactly`, `InOrder`: what a save is to do, and the order in which lists have to be for it;
* `arraysHaveSameContents_sorted`, `arraysHaveSameContents_texts`: what the comparisons find.
-/

universe u

namespace StytchBrowser.AdminPortal.OrgRoles

open Grouping SSO

/-! ## Comparing -/

/-- `localeCompare` puts all strings in an order in which different strings may be tied. -/
structure Collation where
  localeCompare : String → String → ℤ
  swap : ∀ s t, localeCompare s t < 0 ↔ 0 < localeCompare t s
  trans : ∀ s t u, localeCompare s t ≤ 0 → localeCompare t u ≤ 0 → localeCompare s u ≤ 0

/-- The locale that orders texts by their code units has no ties. -/
def Collation.codeUnits : Collation where
  localeCompare s t := if s = t then 0 else if CodeUnits.Le s t then -1 else 1
  swap s t := by
    by_cases heq : s = t
    · simp [heq]
    · have hor : CodeUnits.Le s t ∨ CodeUnits.Le t s := Std.Total.total s t
      have hnot : CodeUnits.Le s t → ¬CodeUnits.Le t s := fun h h' =>
        heq (Std.Antisymm.antisymm s t h h')
      by_cases hle : CodeUnits.Le s t
      · simp [heq, Ne.symm heq, hle, hnot hle]
      · simp [heq, Ne.symm heq, hle, hor.resolve_left hle]
  trans s t u h h' := by
    have hle : ∀ a b, (if a = b then (0 : ℤ) else if CodeUnits.Le a b then -1 else 1) ≤ 0 ↔
        CodeUnits.Le a b := by
      intro a b
      by_cases heq : a = b
      · have hrefl : CodeUnits.Le b b := (Std.Total.total b b).elim id id
        simp [heq, hrefl]
      · by_cases hab : CodeUnits.Le a b <;> simp [heq, hab]
    rw [hle] at h h' ⊢
    exact IsTrans.trans s t u h h'

section Comparing

variable {α : Type} (collation : Collation)

/-- One record may stand before another when both are sorted by a field. -/
def Collation.Before (sortKey : α → String) (a b : α) : Prop :=
  collation.localeCompare (sortKey a) (sortKey b) ≤ 0

instance (sortKey : α → String) : DecidableRel (collation.Before sortKey) :=
  fun _ _ => inferInstanceAs (Decidable (_ ≤ _))

instance (sortKey : α → String) : Std.Total (collation.Before sortKey) where
  total a b := by
    have hswap := collation.swap (sortKey b) (sortKey a)
    show collation.localeCompare (sortKey a) (sortKey b) ≤ 0 ∨
      collation.localeCompare (sortKey b) (sortKey a) ≤ 0
    omega

instance (sortKey : α → String) : IsTrans α (collation.Before sortKey) where
  trans _ _ _ := collation.trans _ _ _

/-- The fields of each record are sorted as well, so that records are compared by their fields. -/
def sortByKeyAndValue (sortKey : α → String) (array : List α) : List α :=
  array.insertionSort (collation.Before sortKey)

/-- The order in which `sort()` puts records: all have the text `[object Object]`. -/
def SameText (_ _ : α) : Prop := True

instance : DecidableRel (SameText (α := α)) := fun _ _ => inferInstanceAs (Decidable True)

/-- Both arrays are sorted in the order of texts, and compared position by position. -/
def arraysHaveSameContents [DecidableEq α] (textOrder : α → α → Prop) [DecidableRel textOrder]
    (arr1 arr2 : List α) : Bool :=
  arr1.length = arr2.length && arr1.insertionSort textOrder = arr2.insertionSort textOrder

end Comparing

/-! ## Reading the lists back -/

section Reading

variable {ι : Type u}

/-- The entries of the arrays in `Object.entries(idMap)`. -/
def traversed (idMap : IdToRoleAssignments ι) : List (String × RoleAssignment ι) :=
  (objectEntries idMap.own).flatMap (keyed id)

def emailsOf (l : List (String × RoleAssignment ι)) : List RbacEmailRoleAssignment :=
  l.filterMap fun e =>
    match e.2 with
    | .Email displayName => some ⟨e.1, displayName⟩
    | _ => none

def scimGroupsOf (l : List (String × RoleAssignment ι)) : List SCIMGroupRoleAssignment :=
  l.filterMap fun e =>
    match e.2 with
    | .SCIM _ groupId => some ⟨e.1, groupId, false⟩
    | _ => none

variable [DecidableEq ι]

/-- A connection-level entry has the group `''`. -/
def infoOf (id : ι) (l : List (String × RoleAssignment ι)) : SSORoleAssignmentInfo where
  connectionRoleAssignments := l.filterMap fun e =>
    match e.2 with
    | .SSO _ id' group => if id' = id ∧ group = "" then some e.1 else none
    | _ => none
  groupRoleAssignments := l.filterMap fun e =>
    match e.2 with
    | .SSO _ id' group => if id' = id ∧ group ≠ "" then some ⟨group, e.1⟩ else none
    | _ => none

/-- What two connections were given is the same up to order. -/
def SSORoleAssignmentInfo.Perm (a b : SSORoleAssignmentInfo) : Prop :=
  a.connectionRoleAssignments.Perm b.connectionRoleAssignments ∧
    a.groupRoleAssignments.Perm b.groupRoleAssignments

def SSORoleAssignmentInfo.push (info : SSORoleAssignmentInfo) (roleId group : String) :
    SSORoleAssignmentInfo :=
  if group ≠ "" then
    { info with groupRoleAssignments := info.groupRoleAssignments ++ [⟨group, roleId⟩] }
  else { info with connectionRoleAssignments := info.connectionRoleAssignments ++ [roleId] }

/-- The object with an entry for each connection, whose ids are distinct. -/
def byId {α : Type} (config : Config ι) (f : TaggedConnection ι → α) : OrderedMap ι α where
  entries := config.taggedConnections.map fun connection => (connection.connection_id, f connection)
  nodup := by simpa [Function.comp_def] using config.distinct

def remoteAssignments (config : Config ι) : OrderedMap ι SSORoleAssignmentInfo :=
  byId config TaggedConnection.assignments

/-- One turn of the loop that sorts the entries for SSO by their connections. -/
def addLocal (localAssignments : OrderedMap ι SSORoleAssignmentInfo)
    (e : String × RoleAssignment ι) : Except TypeError (OrderedMap ι SSORoleAssignmentInfo) :=
  match e.2 with
  | .SSO _ connectionId group =>
      match localAssignments.get connectionId with
      | some info => .ok (localAssignments.set connectionId (info.push e.1 group))
      | none => .error .typeError
  | _ => .ok localAssignments

def localAssignments (config : Config ι) (idMap : IdToRoleAssignments ι) :
    Except TypeError (OrderedMap ι SSORoleAssignmentInfo) :=
  (traversed idMap).foldlM addLocal (byId config fun _ => ⟨[], []⟩)

/-! ## What is reported as changed -/

def hasUpdatedConnection (collation : Collation)
    (localConnection remoteConnection : SSORoleAssignmentInfo) : Bool :=
  !arraysHaveSameContents CodeUnits.Le localConnection.connectionRoleAssignments
      remoteConnection.connectionRoleAssignments ||
    !arraysHaveSameContents SameText
      (sortByKeyAndValue collation GroupRoleAssignment.group localConnection.groupRoleAssignments)
      (sortByKeyAndValue collation GroupRoleAssignment.group remoteConnection.groupRoleAssignments)

/-- `updatedSsoRoleAssignments`. The two objects have the same keys. -/
def updatedSsoRoleAssignments (collation : Collation) (config : Config ι)
    (idMap : IdToRoleAssignments ι) : Except TypeError (OrderedMap ι SSORoleAssignmentInfo) :=
  (localAssignments config idMap).map fun localAssignments =>
    localAssignments.filter fun connectionId localConnection =>
      ((remoteAssignments config).get connectionId).any
        (hasUpdatedConnection collation localConnection)

/-- The lists that are to be saved. -/
structure Updates (ι : Type u) where
  emails : Option (List RbacEmailRoleAssignment)
  sso : OrderedMap ι SSORoleAssignmentInfo
  scimGroups : Option (List SCIMGroupRoleAssignment)

def updatedEmails (collation : Collation) (config : Config ι) (idMap : IdToRoleAssignments ι) :
    Option (List RbacEmailRoleAssignment) :=
  let sortedLocalEmails :=
    sortByKeyAndValue collation RbacEmailRoleAssignment.domain (emailsOf (traversed idMap))
  let sortedRemoteEmails :=
    sortByKeyAndValue collation RbacEmailRoleAssignment.domain config.remoteEmails
  if arraysHaveSameContents SameText sortedLocalEmails sortedRemoteEmails then none
  else some sortedLocalEmails

def updatedScimGroups (config : Config ι) (idMap : IdToRoleAssignments ι) :
    Option (List SCIMGroupRoleAssignment) :=
  let localScimGroups := scimGroupsOf (traversed idMap)
  if arraysHaveSameContents SameText localScimGroups config.remoteScimGroups then none
  else some localScimGroups

def updates (collation : Collation) (config : Config ι) (idMap : IdToRoleAssignments ι) :
    Except TypeError (Updates ι) :=
  (updatedSsoRoleAssignments collation config idMap).map fun sso =>
    { emails := updatedEmails collation config idMap
      sso
      scimGroups := updatedScimGroups config idMap }

def Updates.disableSave (updates : Updates ι) : Bool :=
  updates.emails.isNone && updates.sso.entries.isEmpty && updates.scimGroups.isNone

/-! ## Saving -/

inductive Mutation (ι : Type u) where
  | organization (emails : List RbacEmailRoleAssignment)
  | saml (connection_id : ι) (assignments : SSORoleAssignmentInfo)
  | external (connection_id : ι) (assignments : SSORoleAssignmentInfo)
  | scim (connection_id : ι) (groups : List SCIMGroupRoleAssignment)

def mutateSsoConnection (e : ι × SSORoleAssignmentInfo) : ConnectionType → Mutation ι
  | .saml => .saml e.1 e.2
  | .external => .external e.1 e.2

/-- The mutations of `handleSave`, in the order in which they are started. -/
def handleSave (config : Config ι) (updates : Updates ι) : List (Mutation ι) :=
  (updates.emails.map .organization).toList ++
    updates.sso.entries.filterMap (fun e =>
      ((byId config TaggedConnection.connectionType).get e.1).map (mutateSsoConnection e)) ++
    (config.scimConnection.bind fun scimConnection =>
      updates.scimGroups.map (.scim scimConnection.connection_id)).toList

/-- What the backend stores. -/
structure Backend (ι : Type u) where
  emails : List RbacEmailRoleAssignment
  connections : OrderedMap ι SSORoleAssignmentInfo
  scimGroups : List SCIMGroupRoleAssignment

def Config.backend (config : Config ι) : Backend ι :=
  ⟨config.remoteEmails, remoteAssignments config, config.remoteScimGroups⟩

def Backend.mutate (backend : Backend ι) : Mutation ι → Backend ι
  | .organization emails => { backend with emails }
  | .saml id assignments | .external id assignments =>
      { backend with connections := backend.connections.set id assignments }
  | .scim _ scimGroups => { backend with scimGroups }

/-- What is stored when all mutations have succeeded. -/
def stored (config : Config ι) (updates : Updates ι) : Backend ι :=
  (handleSave config updates).foldl Backend.mutate config.backend

/-! ## The page -/

/-- The roles that are shown. Under the id of a known role an object finds an array or, once the
prototype is lost, `Object.prototype`, whose length is undefined. -/
def rolesWithAssignments (config : Config ι) (idMap : IdToRoleAssignments ι) :
    Except TypeError (List String) :=
  config.sortedRoles.foldlM (fun acc role =>
    match idMap.get arrayFields role with
    | .value roleAssignments => .ok (if roleAssignments.length > 0 then acc ++ [role] else acc)
    | .foreign _ => .ok acc
    | .undefined => .error .typeError) []

/-- The page after a render. -/
structure Page (ι : Type u) where
  idMap : IdToRoleAssignments ι
  updates : Updates ι

def render (collation : Collation) (config : Config ι) (idMap : IdToRoleAssignments ι) :
    Except TypeError (Page ι) :=
  (rolesWithAssignments config idMap).bind fun _ =>
    (updates collation config idMap).map fun updates => ⟨idMap, updates⟩

/-- The page after a sequence of edits, each followed by a render. -/
def page (collation : Collation) (config : Config ι) (edits : List (Edit ι)) :
    Except TypeError (Page ι) :=
  ((idMap config).bind (render collation config)).bind fun opened =>
    edits.foldlM
      (fun page e => (applyEdit config page.idMap e).bind (render collation config)) opened

/-- The assignments of the form: an array may have become the prototype. -/
def entries (idMap : IdToRoleAssignments ι) : List (String × RoleAssignment ι) :=
  listed id idMap.own ++ (idMap.proto.getD []).map ("__proto__", ·)

def pairs (scimGroups : List SCIMGroupRoleAssignment) : List (String × String) :=
  scimGroups.map fun a => (a.role_id, a.group_id)

/-- After saving the backend has the assignments of the form. -/
structure Applied (config : Config ι) (page : Page ι) : Prop where
  emails : (stored config page.updates).emails.Perm (emailsOf (entries page.idMap))
  connections : ∀ connection ∈ config.taggedConnections,
    ∃ info, (stored config page.updates).connections.get connection.connection_id = some info ∧
      info.Perm (infoOf connection.connection_id (entries page.idMap))
  scimGroups : (pairs (stored config page.updates).scimGroups).Perm
    (pairs (scimGroupsOf (entries page.idMap)))

/-- A source whose assignments are the remote ones is not reported as changed and gets no mutation. -/
structure Quiet (config : Config ι) (page : Page ι) : Prop where
  emails : (emailsOf (entries page.idMap)).Perm config.remoteEmails →
    page.updates.emails = none ∧ ∀ emails, .organization emails ∉ handleSave config page.updates
  connections : ∀ connection ∈ config.taggedConnections,
    (infoOf connection.connection_id (entries page.idMap)).Perm connection.assignments →
      page.updates.sso.get connection.connection_id = none ∧
        ∀ info, .saml connection.connection_id info ∉ handleSave config page.updates ∧
          .external connection.connection_id info ∉ handleSave config page.updates
  scimGroups : (pairs (scimGroupsOf (entries page.idMap))).Perm (pairs config.remoteScimGroups) →
    page.updates.scimGroups = none ∧ ∀ id groups, .scim id groups ∉ handleSave config page.updates

/-- No step throws, and saving applies exactly the edits. -/
def SavesExactly (collation : Collation) (config : Config ι) (edits : List (Edit ι)) : Prop :=
  ∃ p, page collation config edits = .ok p ∧ Applied config p ∧ Quiet config p ∧
    (edits = [] → p.updates.disableSave = true)

/-! ## The condition -/

/-- The form after a sequence of edits. -/
def formAfter (config : Config ι) (edits : List (Edit ι)) :
    Except TypeError (IdToRoleAssignments ι) :=
  (idMap config).bind (edits.foldlM (applyEdit config))

/-- Two lists of records have the records that are tied with any one in the same order. -/
def SameOrder {α : Type} (collation : Collation) (sortKey : α → String) (l l' : List α) : Prop :=
  ∀ a, l.filter (StableSort.Tied (collation.Before sortKey) a) =
    l'.filter (StableSort.Tied (collation.Before sortKey) a)

/-- Where the form has the remote assignments of a source, it lists them in the remote order: those
that are tied for emails and groups, all of them for SCIM. -/
structure InOrder (collation : Collation) (config : Config ι) (idMap : IdToRoleAssignments ι) :
    Prop where
  emails : (emailsOf (traversed idMap)).Perm config.remoteEmails →
    SameOrder collation RbacEmailRoleAssignment.domain (emailsOf (traversed idMap))
      config.remoteEmails
  groups : ∀ connection ∈ config.taggedConnections,
    (infoOf connection.connection_id (traversed idMap)).Perm connection.assignments →
      SameOrder collation GroupRoleAssignment.group
        (infoOf connection.connection_id (traversed idMap)).groupRoleAssignments
        connection.assignments.groupRoleAssignments
  scimGroups : (pairs (scimGroupsOf (traversed idMap))).Perm (pairs config.remoteScimGroups) →
    scimGroupsOf (traversed idMap) = config.remoteScimGroups

/-! ## What is compared -/

section Same

variable {α : Type} [DecidableEq α]

theorem arraysHaveSameContents_iff {textOrder : α → α → Prop} [DecidableRel textOrder]
    {arr1 arr2 : List α} :
    arraysHaveSameContents textOrder arr1 arr2 = true ↔
      arr1.insertionSort textOrder = arr2.insertionSort textOrder := by
  rw [arraysHaveSameContents, Bool.and_eq_true, decide_eq_true_iff, decide_eq_true_iff]
  exact and_iff_right_of_imp fun h => (StableSort.perm_of_insertionSort_eq h).length_eq

theorem arraysHaveSameContents_records {arr1 arr2 : List α} :
    arraysHaveSameContents SameText arr1 arr2 = true ↔ arr1 = arr2 := by
  have htied : ∀ a b : α, SameText a b := fun _ _ => trivial
  rw [arraysHaveSameContents_iff, StableSort.insertionSort_of_tied htied,
    StableSort.insertionSort_of_tied htied]

theorem arraysHaveSameContents_texts {arr1 arr2 : List String} :
    arraysHaveSameContents CodeUnits.Le arr1 arr2 = true ↔ arr1.Perm arr2 :=
  arraysHaveSameContents_iff.trans StableSort.insertionSort_eq_iff_perm

/-- Sorted records are compared position by position, so the order of tied ones counts. -/
theorem arraysHaveSameContents_sorted {collation : Collation} {sortKey : α → String}
    {l l' : List α} :
    arraysHaveSameContents SameText (sortByKeyAndValue collation sortKey l)
        (sortByKeyAndValue collation sortKey l') = true ↔
      SameOrder collation sortKey l l' :=
  arraysHaveSameContents_records.trans StableSort.insertionSort_eq_iff

omit [DecidableEq α] in
theorem SameOrder.perm {collation : Collation} {sortKey : α → String} {l l' : List α}
    (h : SameOrder collation sortKey l l') : l.Perm l' :=
  StableSort.perm_of_insertionSort_eq (StableSort.insertionSort_eq_iff.2 h)

end Same

theorem SSORoleAssignmentInfo.Perm.symm {a b : SSORoleAssignmentInfo} (h : a.Perm b) : b.Perm a :=
  ⟨h.1.symm, h.2.symm⟩

theorem SSORoleAssignmentInfo.Perm.trans {a b c : SSORoleAssignmentInfo} (h : a.Perm b)
    (h' : b.Perm c) : a.Perm c :=
  ⟨h.1.trans h'.1, h.2.trans h'.2⟩

theorem hasUpdatedConnection_eq_false_iff {collation : Collation}
    {localConnection remoteConnection : SSORoleAssignmentInfo} :
    hasUpdatedConnection collation localConnection remoteConnection = false ↔
      localConnection.Perm remoteConnection ∧
        SameOrder collation GroupRoleAssignment.group localConnection.groupRoleAssignments
          remoteConnection.groupRoleAssignments := by
  rw [hasUpdatedConnection, Bool.or_eq_false_iff, Bool.not_eq_false', Bool.not_eq_false',
    arraysHaveSameContents_texts, arraysHaveSameContents_sorted]
  constructor
  · rintro ⟨hroles, hgroups⟩
    exact ⟨⟨hroles, hgroups.perm⟩, hgroups⟩
  · rintro ⟨hperm, hgroups⟩
    exact ⟨hperm.1, hgroups⟩

section Lists

variable {collation : Collation} {config : Config ι} {idMap : IdToRoleAssignments ι}

omit [DecidableEq ι] in
/-- The traversal of the object meets every entry of the form. -/
theorem traversed_perm (h : idMap.proto = none) : (traversed idMap).Perm (entries idMap) := by
  have hentries : entries idMap = listed id idMap.own := by simp [entries, h]
  rw [hentries]
  exact (objectEntries_perm idMap.own).flatMap_right _

omit [DecidableEq ι] in
theorem emailsOf_perm {l l' : List (String × RoleAssignment ι)} (h : l.Perm l') :
    (emailsOf l).Perm (emailsOf l') :=
  h.filterMap _

omit [DecidableEq ι] in
theorem pairs_scimGroupsOf_perm {l l' : List (String × RoleAssignment ι)} (h : l.Perm l') :
    (pairs (scimGroupsOf l)).Perm (pairs (scimGroupsOf l')) :=
  (h.filterMap _).map _

theorem infoOf_perm (id : ι) {l l' : List (String × RoleAssignment ι)} (h : l.Perm l') :
    (infoOf id l).Perm (infoOf id l') :=
  ⟨h.filterMap _, h.filterMap _⟩

omit [DecidableEq ι] in
theorem updatedEmails_cases (collation : Collation) (config : Config ι)
    (idMap : IdToRoleAssignments ι) :
    (SameOrder collation RbacEmailRoleAssignment.domain (emailsOf (traversed idMap))
        config.remoteEmails ∧ updatedEmails collation config idMap = none) ∨
      (¬SameOrder collation RbacEmailRoleAssignment.domain (emailsOf (traversed idMap))
        config.remoteEmails ∧
        ∃ emails, updatedEmails collation config idMap = some emails ∧
          emails.Perm (emailsOf (traversed idMap))) := by
  unfold updatedEmails
  dsimp only
  split_ifs with hsame
  · exact .inl ⟨arraysHaveSameContents_sorted.1 hsame, rfl⟩
  · refine .inr ⟨fun h => hsame (arraysHaveSameContents_sorted.2 h), _, rfl, ?_⟩
    exact List.perm_insertionSort _ _

omit [DecidableEq ι] in
theorem updatedScimGroups_cases (config : Config ι) (idMap : IdToRoleAssignments ι) :
    (scimGroupsOf (traversed idMap) = config.remoteScimGroups ∧
        updatedScimGroups config idMap = none) ∨
      (scimGroupsOf (traversed idMap) ≠ config.remoteScimGroups ∧
        updatedScimGroups config idMap = some (scimGroupsOf (traversed idMap))) := by
  unfold updatedScimGroups
  dsimp only
  split_ifs with hsame
  · exact .inl ⟨arraysHaveSameContents_records.1 hsame, rfl⟩
  · exact .inr ⟨fun h => hsame (arraysHaveSameContents_records.2 h), rfl⟩

end Lists

end Reading

end StytchBrowser.AdminPortal.OrgRoles
