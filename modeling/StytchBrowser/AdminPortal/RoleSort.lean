import StytchBrowser.AdminPortal.RoleAssignmentChanges
import StytchBrowser.Core.RBACPolicy

/-!
# The order of roles

Roles are shown in the order of their display names, the well-known ones first. A project may put
some of them before the others: the roles are entered into a map by their ids, those that the project
names are taken out of it in its order, and what is left in the map follows.

The map has one entry for each id, so rows with the same role (a role that a member has from several
sources) become one row. `sorted_iff` says that nothing else can go wrong.
-/

namespace StytchBrowser.AdminPortal.RoleSort

open StytchBrowser.Core OrgRoles

def ROLE_ID_STYTCH_MEMBER : String := "stytch_member"

def ROLE_ID_STYTCH_ADMIN : String := "stytch_admin"

def wellKnownRoleIds : List String := [ROLE_ID_STYTCH_MEMBER, ROLE_ID_STYTCH_ADMIN]

/-- The loop of `compareWellKnownRoleIds`. -/
def compareListed (a b : String) : List String → ℤ
  | [] => 0
  | roleId :: roleIds =>
      if a = roleId then -1 else if b = roleId then 1 else compareListed a b roleIds

def compareWellKnownRoleIds (a b : String) : ℤ :=
  if a = b then 0 else compareListed a b wellKnownRoleIds

/-- `AdminPortalUIConfigRoleDisplayProvider`. -/
structure RoleDisplayProvider where
  getRoleDisplayName : Option (RBACPolicyRole → String)
  getRoleSortOrder : Option (List RBACPolicyRole → List String)

def getRoleDefaultDisplayName (role : RBACPolicyRole) : String := role.roleId

/-- `useGetRoleDisplayName`. -/
def getRoleDisplayName (config : Option RoleDisplayProvider) (role : RBACPolicyRole) : String :=
  let displayName := (config.bind (·.getRoleDisplayName)).elim "" fun f => f role
  if displayName ≠ "" then displayName else getRoleDefaultDisplayName role

/-- A role of the policy with its display name. -/
structure NamedRole where
  role : RBACPolicyRole
  displayName : String

def NamedRole.fields (r : NamedRole) (k : String) : Option Bool :=
  if k = "displayName" then some (r.displayName ≠ "") else r.role.fields k

/-- `useRolesById`. -/
def rolesById (config : Option RoleDisplayProvider) (allRoles : Option (List RBACPolicyRole)) :
    Option (PlainObject NamedRole) :=
  allRoles.map fun allRoles =>
    .index (fun r => r.role.roleId) (allRoles.map fun role => ⟨role, getRoleDisplayName config role⟩)

/-- `rolesById?.[roleId]`. What is not a role has none of the fields that are read. -/
def matchingPolicyRole (byId : Option (PlainObject NamedRole)) (roleId : String) :
    Option NamedRole :=
  match byId.map fun byId : PlainObject NamedRole => byId.get NamedRole.fields roleId with
  | some (.value role) => some role
  | _ => none

/-- A row that is sorted by its role. It may have a description and permissions of its own. -/
structure RoleRow (α : Type) where
  role_id : String
  description : Option String
  permissions : Option (List RBACPermission)
  rest : α

/-- A row with the fields of its role and a display name. -/
structure NamedRow (α : Type) where
  role : RBACPolicyRole
  displayName : String
  rest : α

variable {α : Type}

/-- The callback of `roles.map`. -/
def RoleRow.withDisplayName (byId : Option (PlainObject NamedRole)) (row : RoleRow α) : NamedRow α :=
  let matching := matchingPolicyRole byId row.role_id
  { role.roleId := row.role_id
    role.description := row.description.getD (matching.elim "" fun r => r.role.description)
    role.permissions := row.permissions.getD (matching.elim [] fun r => r.role.permissions)
    displayName := matching.elim row.role_id NamedRole.displayName
    rest := row.rest }

/-- The comparison of `useRoleSortFn`. -/
def compareRows (collation : Collation) (a b : NamedRow α) : ℤ :=
  if compareWellKnownRoleIds a.role.roleId b.role.roleId ≠ 0 then
    compareWellKnownRoleIds a.role.roleId b.role.roleId
  else collation.localeCompare a.displayName b.displayName

/-- The rows in the default order. -/
def preSortedRoles (collation : Collation) (byId : Option (PlainObject NamedRole))
    (roles : List (RoleRow α)) : List (NamedRow α) :=
  (roles.map (RoleRow.withDisplayName byId)).insertionSort fun a b => compareRows collation a b ≤ 0

/-- The order that the project gives, empty when it gives none. -/
def sortOrder (config : Option RoleDisplayProvider) (roles : List (NamedRow α)) : List String :=
  (config.bind (·.getRoleSortOrder)).elim [] fun f => f (roles.map NamedRow.role)

/-- The loop over the order of the project. -/
def sortLoop (customSortedRoles : List (NamedRow α))
    (remainingRoles : OrderedMap String (NamedRow α)) :
    List String → List (NamedRow α) × OrderedMap String (NamedRow α)
  | [] => (customSortedRoles, remainingRoles)
  | roleId :: order =>
      match remainingRoles.get roleId with
      | some role => sortLoop (customSortedRoles ++ [role]) (remainingRoles.erase roleId) order
      | none => sortLoop customSortedRoles remainingRoles order

/-- `new Map(roles.map((role) => [role.role_id, role]))`. -/
def mapOf (roles : List (NamedRow α)) : OrderedMap String (NamedRow α) :=
  roles.foldl (fun m role => m.set role.role.roleId role) .empty

/-- `useGetRoleSortOrder`. -/
def getRoleSortOrder (config : Option RoleDisplayProvider) (roles : List (NamedRow α)) :
    List (NamedRow α) :=
  if (sortOrder config roles).length = 0 then roles
  else
    let sorted := sortLoop [] (mapOf roles) (sortOrder config roles)
    sorted.1 ++ sorted.2.entries.map Prod.snd

/-- `useRoleSortFn`. -/
def sortRoles (config : Option RoleDisplayProvider) (collation : Collation)
    (allRoles : Option (List RBACPolicyRole)) (roles : List (RoleRow α)) : List (NamedRow α) :=
  getRoleSortOrder config (preSortedRoles collation (rolesById config allRoles) roles)

/-- The rows are all there, first those that the order names, in that order, then the others as they
were. -/
structure Sorted (order : List String) (rows result : List (NamedRow α)) : Prop where
  perm : result.Perm rows
  split : ∃ named rest, result = named ++ rest ∧ (∀ r ∈ named, r.role.roleId ∈ order) ∧
    named.Pairwise (fun a b => order.idxOf a.role.roleId ≤ order.idxOf b.role.roleId) ∧
    rest = rows.filter fun r => r.role.roleId ∉ order

/-! ## The map -/

/-- The key of every entry is the id of its role. -/
def KeyedById (m : OrderedMap String (NamedRow α)) : Prop :=
  ∀ e ∈ m.entries, e.1 = e.2.role.roleId

theorem keyedById_mapOf (roles : List (NamedRow α)) : KeyedById (mapOf roles) := by
  induction roles using List.reverseRecOn with
  | nil => exact fun e he => absurd he List.not_mem_nil
  | append_singleton roles role ih =>
    intro e he
    rw [mapOf, List.foldl_append, List.foldl_cons, List.foldl_nil] at he
    rcases List.mem_cons.1 (((mapOf roles).entries_set_perm _ _).subset he) with rfl | he
    · rfl
    · exact ih e (List.mem_of_mem_filter he)

section Loop

variable {roleId : String} {order : List String} {m : OrderedMap String (NamedRow α)}

theorem key_ne_of_mem_erase {e : String × NamedRow α} (he : e ∈ (m.erase roleId).entries) :
    e.1 ≠ roleId := by
  have h := (List.mem_filter.1 he).2
  exact of_decide_eq_true h

theorem filter_erase_named :
    (m.erase roleId).entries.filter (fun e => e.1 ∈ roleId :: order) =
      (m.erase roleId).entries.filter fun e => e.1 ∈ order := by
  refine List.filter_congr fun e he => ?_
  rw [decide_eq_decide, List.mem_cons, or_iff_right (key_ne_of_mem_erase he)]

theorem filter_erase_others :
    (m.erase roleId).filter (fun k _ => k ∉ order) = m.filter fun k _ => k ∉ roleId :: order := by
  apply OrderedMap.ext
  show List.filter _ (List.filter _ m.entries) = _
  rw [List.filter_filter]
  refine List.filter_congr fun e _ => ?_
  rw [Bool.eq_iff_iff, Bool.and_eq_true, decide_eq_true_iff, decide_eq_true_iff,
    decide_eq_true_iff, List.mem_cons, not_or, and_comm]

/-- A name put in front of the order moves the others by one. -/
theorem pairwise_idxOf_cons {named : List (String × NamedRow α)}
    (hne : ∀ e ∈ named, e.1 ≠ roleId)
    (hnamed : named.Pairwise fun a b => order.idxOf a.1 ≤ order.idxOf b.1) :
    named.Pairwise fun a b => (roleId :: order).idxOf a.1 ≤ (roleId :: order).idxOf b.1 := by
  refine hnamed.imp_of_mem fun {a b} ha hb hab => ?_
  rw [List.idxOf_cons_ne _ (hne a ha).symm, List.idxOf_cons_ne _ (hne b hb).symm]
  exact Nat.succ_le_succ hab

end Loop

/-- What is taken out of the map, and what is left in it. -/
theorem sortLoop_eq (order : List String) (customSortedRoles : List (NamedRow α))
    (m : OrderedMap String (NamedRow α)) :
    ∃ named : List (String × NamedRow α),
      sortLoop customSortedRoles m order =
        (customSortedRoles ++ named.map Prod.snd, m.filter fun k _ => k ∉ order) ∧
      named.Perm (m.entries.filter fun e => e.1 ∈ order) ∧
      named.Pairwise fun a b => order.idxOf a.1 ≤ order.idxOf b.1 := by
  induction order generalizing customSortedRoles m with
  | nil => exact ⟨[], by simp [sortLoop, OrderedMap.filter], by simp, List.Pairwise.nil⟩
  | cons roleId order ih =>
    rw [sortLoop]
    cases hget : m.get roleId with
    | none =>
      obtain ⟨named, hloop, hperm, hsorted⟩ := ih customSortedRoles m
      have herase := m.erase_of_get_eq_none hget
      have hne : ∀ e ∈ named, e.1 ≠ roleId := by
        intro e he
        have hmem := List.mem_of_mem_filter (hperm.subset he)
        rw [← herase] at hmem
        exact key_ne_of_mem_erase hmem
      refine ⟨named, ?_, ?_, pairwise_idxOf_cons hne hsorted⟩
      · dsimp only
        rw [hloop, ← filter_erase_others, herase]
      · rw [← herase, filter_erase_named, herase]
        exact hperm
    | some role =>
      obtain ⟨named, hloop, hperm, hsorted⟩ := ih (customSortedRoles ++ [role]) (m.erase roleId)
      have hne : ∀ e ∈ named, e.1 ≠ roleId := fun e he =>
        key_ne_of_mem_erase (List.mem_of_mem_filter (hperm.subset he))
      refine ⟨(roleId, role) :: named, ?_, ?_, ?_⟩
      · dsimp only
        rw [hloop, filter_erase_others, List.append_assoc]
        rfl
      · refine List.Perm.symm (((OrderedMap.entries_perm_of_get hget).filter _).trans ?_)
        rw [List.filter_cons_of_pos (by simp), filter_erase_named]
        exact hperm.symm.cons _
      · refine List.pairwise_cons.2 ⟨fun e _ => ?_, pairwise_idxOf_cons hne hsorted⟩
        rw [List.idxOf_cons_self]
        exact Nat.zero_le _

/-! ## What is sorted -/

section Sorting

variable (order : List String) (rows : List (NamedRow α))

/-- What the loop and the rest of the map give. -/
def customSorted : List (NamedRow α) :=
  (sortLoop [] (mapOf rows) order).1 ++ (sortLoop [] (mapOf rows) order).2.entries.map Prod.snd

/-- The rows of the map are all there, up to their order. -/
theorem customSorted_perm : (customSorted order rows).Perm ((mapOf rows).entries.map Prod.snd) := by
  obtain ⟨named, hloop, hperm, -⟩ := sortLoop_eq order [] (mapOf rows)
  rw [customSorted, hloop, List.nil_append]
  have hsplit := List.filter_append_perm (fun e : String × NamedRow α => decide (e.1 ∈ order))
    (mapOf rows).entries
  have hmap := ((hperm.append_right _).trans hsplit).map Prod.snd
  rw [List.map_append] at hmap
  convert hmap using 4
  simp [OrderedMap.filter]

/-- No role occurs twice. -/
theorem nodup_customSorted : ((customSorted order rows).map fun r => r.role.roleId).Nodup := by
  have hids : (mapOf rows).entries.map (fun e => e.2.role.roleId) = (mapOf rows).keys :=
    List.map_congr_left fun e he => (keyedById_mapOf rows e he).symm
  refine ((customSorted_perm order rows).map _).nodup_iff.2 ?_
  rw [List.map_map]
  exact hids.symm ▸ (mapOf rows).nodup

variable {order rows}

theorem sorted_of_nodup (hnodup : (rows.map fun r => r.role.roleId).Nodup) :
    Sorted order rows (customSorted order rows) := by
  have hentries : (mapOf rows).entries = rows.map fun r => (r.role.roleId, r) :=
    OrderedMap.entries_foldl_set (m := .empty) (fun r : NamedRow α => r.role.roleId) id hnodup
      fun _ _ => List.not_mem_nil
  have hrows : (mapOf rows).entries.map Prod.snd = rows := by
    rw [hentries, List.map_map]
    exact List.map_id _
  obtain ⟨named, hloop, hperm, hsorted⟩ := sortLoop_eq order [] (mapOf rows)
  have hnamed : ∀ e ∈ named, e.1 = e.2.role.roleId ∧ e.1 ∈ order := by
    intro e he
    obtain ⟨hmem, horder⟩ := List.mem_filter.1 (hperm.subset he)
    exact ⟨keyedById_mapOf rows e hmem, of_decide_eq_true horder⟩
  have hall := customSorted_perm order rows
  rw [hrows] at hall
  refine ⟨hall, named.map Prod.snd,
    rows.filter fun r => r.role.roleId ∉ order, ?_, ?_, ?_, rfl⟩
  · rw [customSorted, hloop, List.nil_append]
    refine congrArg (named.map Prod.snd ++ ·) ?_
    show (List.filter _ (mapOf rows).entries).map Prod.snd = _
    rw [hentries, List.filter_map, List.map_map]
    exact List.map_id _
  · intro r hr
    obtain ⟨e, he, rfl⟩ := List.mem_map.1 hr
    obtain ⟨hkey, horder⟩ := hnamed e he
    exact hkey ▸ horder
  · rw [List.pairwise_map]
    refine hsorted.imp_of_mem fun {a b} ha hb hab => ?_
    rw [← (hnamed a ha).1, ← (hnamed b hb).1]
    exact hab

/-- Rows that all survive have different roles. -/
theorem nodup_of_sorted (h : Sorted order rows (customSorted order rows)) :
    (rows.map fun r => r.role.roleId).Nodup :=
  (h.perm.map _).nodup_iff.1 (nodup_customSorted order rows)

theorem sorted_nil : Sorted [] rows rows :=
  ⟨List.Perm.refl _, [], rows, rfl, nofun, List.Pairwise.nil, by simp⟩

end Sorting

theorem preSortedRoles_perm (collation : Collation) (byId : Option (PlainObject NamedRole))
    (roles : List (RoleRow α)) :
    (preSortedRoles collation byId roles).Perm (roles.map (RoleRow.withDisplayName byId)) :=
  List.perm_insertionSort _ _

theorem nodup_preSortedRoles_iff (collation : Collation) (byId : Option (PlainObject NamedRole))
    (roles : List (RoleRow α)) :
    ((preSortedRoles collation byId roles).map fun r => r.role.roleId).Nodup ↔
      (roles.map RoleRow.role_id).Nodup := by
  rw [((preSortedRoles_perm collation byId roles).map _).nodup_iff, List.map_map]
  rfl

/-- The roles are sorted as the project wants if and only if it names none or no two rows have the
same role. -/
theorem sorted_iff (config : Option RoleDisplayProvider) (collation : Collation)
    (allRoles : Option (List RBACPolicyRole)) (roles : List (RoleRow α)) :
    let rows := preSortedRoles collation (rolesById config allRoles) roles
    rows.Perm (roles.map (RoleRow.withDisplayName (rolesById config allRoles))) ∧
      (Sorted (sortOrder config rows) rows (sortRoles config collation allRoles roles) ↔
        sortOrder config rows = [] ∨ (roles.map RoleRow.role_id).Nodup) := by
  intro rows
  refine ⟨preSortedRoles_perm _ _ _, ?_⟩
  rw [← nodup_preSortedRoles_iff collation (rolesById config allRoles) roles]
  show Sorted (sortOrder config rows) rows (getRoleSortOrder config rows) ↔ _
  rw [getRoleSortOrder]
  by_cases hnone : sortOrder config rows = []
  · rw [if_pos (by rw [hnone, List.length_nil]), hnone]
    exact iff_of_true sorted_nil (.inl rfl)
  · rw [if_neg (by rwa [List.length_eq_zero_iff])]
    refine ⟨fun h => .inr (nodup_of_sorted h), ?_⟩
    rintro (h | hnodup)
    · exact absurd h hnone
    · exact sorted_of_nodup hnodup

/-- The project puts the editors first. -/
def editorsFirst : RoleDisplayProvider := ⟨none, some fun _ => ["editor"]⟩

/-- A role that a member has from two sources. -/
def emailAndSso : List (RoleRow String) :=
  [⟨"editor", none, none, "email_assignment"⟩, ⟨"editor", none, none, "sso_connection"⟩]

/-- The row of one of the sources is lost. -/
theorem sortRoles_loses_row :
    ¬Sorted ["editor"] (preSortedRoles .codeUnits (rolesById (some editorsFirst) none) emailAndSso)
      (sortRoles (some editorsFirst) .codeUnits none emailAndSso) := by
  intro h
  have hlength := (h.perm.trans (preSortedRoles_perm .codeUnits _ emailAndSso)).length_eq
  exact absurd hlength (by decide)

end StytchBrowser.AdminPortal.RoleSort
