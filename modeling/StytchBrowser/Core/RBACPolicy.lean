import StytchBrowser.JsUtils.PlainObject

/-!
# RBAC policies

The `RBACPolicy` of `core/rbac.ts`. Its constructor indexes the roles by id in a plain object, and
the ids a caller holds are looked up there, so the answer depends on more than the roles: of two
roles with one id the later is found, and an id that is no role's may still be answered with a
property the object inherits. `callerIsAuthorized_eq_true` says what is computed, in terms of the
list of roles alone.
-/

namespace StytchBrowser.Core

def WILDCARD_ACTION : String := "*"

/-- An entry of `permissions`. -/
structure RBACPermission where
  resourceId : String
  actions : List String

/-- `RBACPolicyRole`. -/
structure RBACPolicyRole where
  roleId : String
  description : String
  permissions : List RBACPermission

/-- `RBACPolicyScope`. -/
structure RBACPolicyScope where
  scope : String
  description : String
  permissions : List RBACPermission

/-- `RBACPolicyResource`. -/
structure RBACPolicyResource where
  resourceId : String
  description : String
  actions : List String

/-- `RBACPolicyRaw`. -/
structure RBACPolicyRaw where
  roles : List RBACPolicyRole
  resources : List RBACPolicyResource
  scopes : List RBACPolicyScope

/-- `RBACPolicy`. -/
structure RBACPolicy where
  roles : List RBACPolicyRole
  resources : List RBACPolicyResource

/-- The properties a role has of its own, with their truth values. -/
def RBACPolicyRole.fields (r : RBACPolicyRole) (k : String) : Option Bool :=
  if k = "role_id" then some (r.roleId ≠ "")
  else if k = "description" then some (r.description ≠ "")
  else if k = "permissions" then some true
  else none

/-- The callback of `find`. -/
def RBACPermission.allows (p : RBACPermission) (action : String) : Bool :=
  p.actions.contains action || p.actions.contains WILDCARD_ACTION

/-- The callback of the first `filter`: a role is an object, hence truthy. -/
def isFound : Property RBACPolicyRole → Bool
  | .undefined => false
  | .value _ => true
  | .foreign truthy => truthy

/-- The callback of `flatMap`. What is not a role has no `permissions`, and `flatMap` keeps the
`undefined` it is mapped to. -/
def permissionsOf : Property RBACPolicyRole → List (Option RBACPermission)
  | .value r => r.permissions.map some
  | _ => [none]

/-- The second `filter`, which reads `resource_id` of every element. -/
def filterResource (resourceId : String) :
    List (Option RBACPermission) → Except TypeError (List RBACPermission)
  | [] => .ok []
  | none :: _ => .error .typeError
  | some p :: ps => do
      let rest ← filterResource resourceId ps
      return if p.resourceId = resourceId then p :: rest else rest

namespace RBACPolicy

/-- `fromJSON`. -/
def fromJSON (input : RBACPolicyRaw) : RBACPolicy := ⟨input.roles, input.resources⟩

/-- The index the constructor builds. -/
def rolesByID (p : RBACPolicy) : PlainObject RBACPolicyRole :=
  PlainObject.index RBACPolicyRole.roleId p.roles

/-- `mergeWithCustomRoles`. -/
def mergeWithCustomRoles (p : RBACPolicy) (customRoles : List RBACPolicyRole) : RBACPolicy :=
  ⟨p.roles ++ customRoles, p.resources⟩

/-- The merging of `getEffectivePolicy` and `getEffectivePolicySync`, given the custom roles of the
organization, if there is one. -/
def effectivePolicy (p : RBACPolicy) (customRoles : Option (List RBACPolicyRole)) : RBACPolicy :=
  match customRoles with
  | none => p
  | some [] => p
  | some (r :: rs) => p.mergeWithCustomRoles (r :: rs)

/-- `callerIsAuthorized`. -/
def callerIsAuthorized (p : RBACPolicy) (memberRoles : List String) (resourceId action : String) :
    Except TypeError Bool := do
  let found := (memberRoles.map (p.rolesByID.get RBACPolicyRole.fields)).filter isFound
  let permissions ← filterResource resourceId (found.flatMap permissionsOf)
  return (permissions.find? fun p => p.allows action).isSome

/-- One round of the outer `forEach` of `allPermissionsForCaller`. -/
def permissionsForResource (p : RBACPolicy) (memberRoles : List String)
    (resource : RBACPolicyResource) : Except TypeError (OrderedMap String Bool) :=
  resource.actions.foldlM (fun perms action => do
    let allowed ← p.callerIsAuthorized memberRoles resource.resourceId action
    return setPrimitive perms action allowed) .empty

/-- `allPermissionsForCaller`. -/
def allPermissionsForCaller (p : RBACPolicy) (memberRoles : List String) :
    Except TypeError (OrderedMap String (OrderedMap String Bool)) :=
  p.resources.foldlM (fun allPerms resource => do
    let perms ← p.permissionsForResource memberRoles resource
    return allPerms.set resource.resourceId perms) .empty

theorem effectivePolicy_eq (p : RBACPolicy) (customRoles : Option (List RBACPolicyRole)) :
    p.effectivePolicy customRoles = p.mergeWithCustomRoles (customRoles.getD []) := by
  obtain ⟨roles, resources⟩ := p
  match customRoles with
  | none => simp [effectivePolicy, mergeWithCustomRoles]
  | some [] => simp [effectivePolicy, mergeWithCustomRoles]
  | some (r :: rs) => rfl

end RBACPolicy

/-! ## What is computed -/

/-- The role has a permission for the resource that lists the action or the wildcard. -/
def RBACPolicyRole.Grants (r : RBACPolicyRole) (resourceId action : String) : Prop :=
  ∃ p ∈ r.permissions, p.resourceId = resourceId ∧ (action ∈ p.actions ∨ WILDCARD_ACTION ∈ p.actions)

/-- The role an id stands for: the last of the roles with that id. -/
def roleWithId (roles : List RBACPolicyRole) (id : String) : Option RBACPolicyRole :=
  PlainObject.lastWith RBACPolicyRole.roleId roles id

/-- The id is no role's, and names something else in the object that the roles are indexed in: a
property of every object or, when a role is called `__proto__`, a field of that role. -/
def Shadowed (roles : List RBACPolicyRole) (id : String) : Prop :=
  (∀ r ∈ roles, r.roleId ≠ id) ∧
    (id = "__proto__" ∨ id ∈ objectPrototypeNames ∨
      ∃ r, roleWithId roles "__proto__" = some r ∧ r.fields id = some true)

theorem fields_of_objectPrototypeNames (r : RBACPolicyRole) {id : String}
    (h : id ∈ objectPrototypeNames) : r.fields id = none := by
  unfold RBACPolicyRole.fields
  have h₁ : id ≠ "role_id" := by
    rintro rfl
    exact absurd h (by decide)
  have h₂ : id ≠ "description" := by
    rintro rfl
    exact absurd h (by decide)
  have h₃ : id ≠ "permissions" := by
    rintro rfl
    exact absurd h (by decide)
  rw [if_neg h₁, if_neg h₂, if_neg h₃]

theorem get_of_roleWithId {p : RBACPolicy} {id : String} {r : RBACPolicyRole}
    (h : roleWithId p.roles id = some r) :
    p.rolesByID.get RBACPolicyRole.fields id = .value r := by
  rw [RBACPolicy.rolesByID, PlainObject.get_index]
  unfold roleWithId at h
  rw [h]

theorem roleWithId_of_shadowed {roles : List RBACPolicyRole} {id : String}
    (h : Shadowed roles id) : roleWithId roles id = none :=
  PlainObject.lastWith_eq_none.2 h.1

theorem get_of_shadowed {p : RBACPolicy} {id : String} (h : Shadowed p.roles id) :
    p.rolesByID.get RBACPolicyRole.fields id = .foreign true := by
  have hnone := roleWithId_of_shadowed h
  rw [RBACPolicy.rolesByID, PlainObject.get_index]
  unfold roleWithId at hnone
  rw [hnone]
  dsimp only
  by_cases hp : id = "__proto__"
  · rw [if_pos hp]
  · rw [if_neg hp]
    rcases h.2 with h | h | ⟨r, hr, hf⟩
    · exact absurd h hp
    · have hf : ((PlainObject.lastWith RBACPolicyRole.roleId p.roles "__proto__").bind
          fun r => r.fields id) = none := by
        cases PlainObject.lastWith RBACPolicyRole.roleId p.roles "__proto__" with
        | none => rfl
        | some r => exact fields_of_objectPrototypeNames r h
      rw [hf, if_pos h]
    · unfold roleWithId at hr
      rw [hr, Option.bind_some, hf]

/-- An id that is no role's and is not shadowed is filtered out. -/
theorem get_of_not_shadowed {p : RBACPolicy} {id : String} (hnone : roleWithId p.roles id = none)
    (h : ¬ Shadowed p.roles id) :
    isFound (p.rolesByID.get RBACPolicyRole.fields id) = false := by
  have hno : ∀ r ∈ p.roles, r.roleId ≠ id := PlainObject.lastWith_eq_none.1 hnone
  have hp : id ≠ "__proto__" := fun hp => h ⟨hno, .inl hp⟩
  have hnames : id ∉ objectPrototypeNames := fun hin => h ⟨hno, .inr (.inl hin)⟩
  rw [RBACPolicy.rolesByID, PlainObject.get_index]
  unfold roleWithId at hnone
  rw [hnone]
  dsimp only
  rw [if_neg hp, if_neg hnames]
  cases hf : (PlainObject.lastWith RBACPolicyRole.roleId p.roles "__proto__").bind
      fun r => r.fields id with
  | none => rfl
  | some truthy =>
    obtain ⟨r, hr, hrf⟩ := Option.bind_eq_some_iff.1 hf
    cases truthy with
    | false => rfl
    | true => exact absurd ⟨hno, .inr (.inr ⟨r, hr, hrf⟩)⟩ h

/-! ## The search -/

theorem filterResource_of_none {resourceId : String} {l : List (Option RBACPermission)}
    (h : none ∈ l) : filterResource resourceId l = .error .typeError := by
  induction l with
  | nil => cases h
  | cons x l ih =>
    cases x with
    | none => rfl
    | some p =>
      have hl : none ∈ l := by simpa using h
      rw [filterResource, ih hl]
      rfl

theorem filterResource_map_some (resourceId : String) (l : List RBACPermission) :
    filterResource resourceId (l.map some) = .ok (l.filter fun p => p.resourceId = resourceId) := by
  induction l with
  | nil => rfl
  | cons p l ih =>
    rw [List.map_cons, filterResource, ih, List.filter_cons]
    by_cases hp : p.resourceId = resourceId
    · rw [if_pos (decide_eq_true hp)]
      change Except.ok _ = _
      rw [if_pos hp]
    · rw [if_neg (by simpa using hp)]
      change Except.ok _ = _
      rw [if_neg hp]

namespace RBACPolicy

/-- An id that is shadowed makes the search throw. -/
theorem callerIsAuthorized_of_shadowed {p : RBACPolicy} {memberRoles : List String} {id : String}
    (hid : id ∈ memberRoles) (h : Shadowed p.roles id) (resourceId action : String) :
    p.callerIsAuthorized memberRoles resourceId action = .error .typeError := by
  have hmem : none ∈ ((memberRoles.map (p.rolesByID.get RBACPolicyRole.fields)).filter
      isFound).flatMap permissionsOf := by
    refine List.mem_flatMap.2 ⟨.foreign true, List.mem_filter.2 ⟨?_, rfl⟩, by simp [permissionsOf]⟩
    exact List.mem_map.2 ⟨id, hid, get_of_shadowed h⟩
  rw [callerIsAuthorized, filterResource_of_none hmem]
  rfl

/-- The permissions the search goes through when no id is shadowed. -/
theorem flatMap_permissionsOf {p : RBACPolicy} {memberRoles : List String}
    (h : ∀ id ∈ memberRoles, ¬ Shadowed p.roles id) :
    ((memberRoles.map (p.rolesByID.get RBACPolicyRole.fields)).filter isFound).flatMap
        permissionsOf =
      ((memberRoles.filterMap (roleWithId p.roles)).flatMap RBACPolicyRole.permissions).map
        some := by
  induction memberRoles with
  | nil => rfl
  | cons id ids ih =>
    have hids := ih fun id' hid' => h id' (List.mem_cons_of_mem id hid')
    rw [List.map_cons, List.filter_cons]
    cases hrole : roleWithId p.roles id with
    | some r =>
      rw [get_of_roleWithId hrole, if_pos (by rfl), List.flatMap_cons, hids,
        List.filterMap_cons_some hrole, List.flatMap_cons, List.map_append]
      rfl
    | none =>
      rw [get_of_not_shadowed hrole (h id List.mem_cons_self), if_neg (by decide), hids,
        List.filterMap_cons_none hrole]

theorem find_allows_isSome (l : List RBACPermission) (resourceId action : String) :
    ((l.filter fun p => p.resourceId = resourceId).find? fun p => p.allows action).isSome ↔
      ∃ p ∈ l, p.resourceId = resourceId ∧ (action ∈ p.actions ∨ WILDCARD_ACTION ∈ p.actions) := by
  simp only [List.find?_isSome, List.mem_filter, decide_eq_true_eq, RBACPermission.allows,
    Bool.or_eq_true, List.contains_iff_mem, and_assoc]

/-- Where no id is shadowed, the search finds what the roles of the caller grant. -/
theorem callerIsAuthorized_of_not_shadowed {p : RBACPolicy} {memberRoles : List String}
    (h : ∀ id ∈ memberRoles, ¬ Shadowed p.roles id) (resourceId action : String) :
    ∃ b, p.callerIsAuthorized memberRoles resourceId action = .ok b ∧
      (b = true ↔
        ∃ id ∈ memberRoles, ∃ r, roleWithId p.roles id = some r ∧ r.Grants resourceId action) := by
  rw [callerIsAuthorized, flatMap_permissionsOf h, filterResource_map_some]
  refine ⟨_, rfl, ?_⟩
  rw [find_allows_isSome]
  simp only [List.mem_flatMap, List.mem_filterMap, RBACPolicyRole.Grants]
  constructor
  · rintro ⟨perm, ⟨r, ⟨id, hid, hr⟩, hperm⟩, hgrants⟩
    exact ⟨id, hid, r, hr, perm, hperm, hgrants⟩
  · rintro ⟨id, hid, r, hr, perm, hperm, hgrants⟩
    exact ⟨perm, ⟨r, ⟨id, hid, hr⟩, hperm⟩, hgrants⟩

/-- The caller is authorized exactly when no id is shadowed and one of its roles grants it. -/
theorem callerIsAuthorized_eq_true (p : RBACPolicy) (memberRoles : List String)
    (resourceId action : String) :
    p.callerIsAuthorized memberRoles resourceId action = .ok true ↔
      (∀ id ∈ memberRoles, ¬ Shadowed p.roles id) ∧
        ∃ id ∈ memberRoles, ∃ r, roleWithId p.roles id = some r ∧ r.Grants resourceId action := by
  by_cases h : ∀ id ∈ memberRoles, ¬ Shadowed p.roles id
  · obtain ⟨b, hb, hiff⟩ := callerIsAuthorized_of_not_shadowed h resourceId action
    rw [hb, Except.ok.injEq, hiff]
    exact ⟨fun hg => ⟨h, hg⟩, And.right⟩
  · refine ⟨fun htrue => ?_, fun hand => absurd hand.1 h⟩
    push Not at h
    obtain ⟨id, hid, hsh⟩ := h
    rw [callerIsAuthorized_of_shadowed hid hsh] at htrue
    cases htrue

end RBACPolicy

end StytchBrowser.Core
