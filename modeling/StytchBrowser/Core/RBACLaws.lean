import StytchBrowser.Core.RBACPolicy

/-!
# Laws of RBAC policies

Evaluating a policy agrees with its meaning as a set of permissions exactly where no id of the
caller is shadowed (`evaluation_exact_iff`), and merging custom roles adds permissions exactly where
a custom role that takes the id of another role grants what that role granted
(`merge_additive_iff`).
-/

namespace StytchBrowser.Core

namespace RBACPolicy

/-! ## Merging -/

theorem roleWithId_merge (p : RBACPolicy) (customRoles : List RBACPolicyRole) (id : String) :
    roleWithId (p.mergeWithCustomRoles customRoles).roles id =
      (roleWithId customRoles id).or (roleWithId p.roles id) :=
  PlainObject.lastWith_append ..

/-- What it takes for a merge to take nothing away. -/
structure MergeSafe (p : RBACPolicy) (customRoles : List RBACPolicyRole) : Prop where
  /-- A custom role with the id of another role grants what that role grants. -/
  covers : ∀ id r c, roleWithId p.roles id = some r → roleWithId customRoles id = some c →
    ∀ resourceId action, r.Grants resourceId action → c.Grants resourceId action
  /-- No further id is shadowed, unless there is nothing to lose. -/
  unshadowed : (∀ id, Shadowed (p.mergeWithCustomRoles customRoles).roles id → Shadowed p.roles id) ∨
    ∀ id r, roleWithId p.roles id = some r → ∀ resourceId action, ¬ r.Grants resourceId action

theorem authorized_merge {p : RBACPolicy} {customRoles : List RBACPolicyRole}
    (h : p.MergeSafe customRoles) {memberRoles : List String} {resourceId action : String}
    (hauth : p.callerIsAuthorized memberRoles resourceId action = .ok true) :
    (p.mergeWithCustomRoles customRoles).callerIsAuthorized memberRoles resourceId action =
      .ok true := by
  rw [callerIsAuthorized_eq_true] at hauth ⊢
  obtain ⟨hsh, id, hid, r, hr, hgrants⟩ := hauth
  refine ⟨fun id' hid' hmerged => ?_, id, hid, ?_⟩
  · rcases h.unshadowed with hu | hu
    · exact hsh id' hid' (hu id' hmerged)
    · exact hu id r hr _ _ hgrants
  · rw [roleWithId_merge]
    cases hc : roleWithId customRoles id with
    | none => exact ⟨r, by rw [Option.none_or, hr], hgrants⟩
    | some c => exact ⟨c, rfl, h.covers id r c hr hc _ _ hgrants⟩

theorem mergeSafe_of_authorized {p : RBACPolicy} {customRoles : List RBACPolicyRole}
    (h : ∀ memberRoles resourceId action,
      p.callerIsAuthorized memberRoles resourceId action = .ok true →
        (p.mergeWithCustomRoles customRoles).callerIsAuthorized memberRoles resourceId action =
          .ok true) :
    p.MergeSafe customRoles := by
  simp only [callerIsAuthorized_eq_true] at h
  refine ⟨fun id r c hr hc resourceId action hgrants => ?_, ?_⟩
  · -- the caller who has this one role
    have hsh : ∀ id' ∈ [id], ¬ Shadowed p.roles id' := by
      intro id' hid' hsh
      rw [List.mem_singleton.1 hid'] at hsh
      rw [roleWithId_of_shadowed hsh] at hr
      cases hr
    obtain ⟨-, id', hid', r', hr', hgrants'⟩ :=
      h [id] resourceId action ⟨hsh, id, List.mem_singleton_self id, r, hr, hgrants⟩
    rw [List.mem_singleton.1 hid', roleWithId_merge, hc, Option.some_or] at hr'
    exact Option.some.inj hr' ▸ hgrants'
  · by_contra hnot
    push Not at hnot
    obtain ⟨⟨bad, hbad, hok⟩, id, r, hr, resourceId, action, hgrants⟩ := hnot
    -- the caller who also has the id that the merge shadows
    have hsh : ∀ id' ∈ [id, bad], ¬ Shadowed p.roles id' := by
      intro id' hid' hsh
      rcases List.mem_pair.1 hid' with rfl | rfl
      · rw [roleWithId_of_shadowed hsh] at hr
        cases hr
      · exact hok hsh
    obtain ⟨hsh', -⟩ := h [id, bad] resourceId action
      ⟨hsh, id, List.mem_cons_self, r, hr, hgrants⟩
    exact hsh' bad (by simp) hbad

theorem authorized_of_merge {p : RBACPolicy} {customRoles : List RBACPolicyRole}
    {memberRoles : List String} {resourceId action : String}
    (h : (p.mergeWithCustomRoles customRoles).callerIsAuthorized memberRoles resourceId action =
      .ok true) :
    (∃ r ∈ p.roles, r.roleId ∈ memberRoles ∧ r.Grants resourceId action) ∨
      ∃ r ∈ customRoles, r.roleId ∈ memberRoles ∧ r.Grants resourceId action := by
  obtain ⟨-, id, hid, r, hr, hgrants⟩ := (callerIsAuthorized_eq_true ..).1 h
  obtain ⟨hmem, rfl⟩ := PlainObject.lastWith_eq_some hr
  rcases List.mem_append.1 hmem with hmem | hmem
  · exact .inl ⟨r, hmem, hid, hgrants⟩
  · exact .inr ⟨r, hmem, hid, hgrants⟩

/-- Merging custom roles is additive exactly when it is safe. -/
theorem merge_additive_iff (p : RBACPolicy) (customRoles : List RBACPolicyRole) :
    (∀ memberRoles resourceId action,
      (p.callerIsAuthorized memberRoles resourceId action = .ok true →
        (p.mergeWithCustomRoles customRoles).callerIsAuthorized memberRoles resourceId action =
          .ok true) ∧
      ((p.mergeWithCustomRoles customRoles).callerIsAuthorized memberRoles resourceId action =
          .ok true →
        (∃ r ∈ p.roles, r.roleId ∈ memberRoles ∧ r.Grants resourceId action) ∨
          ∃ r ∈ customRoles, r.roleId ∈ memberRoles ∧ r.Grants resourceId action)) ↔
      p.MergeSafe customRoles := by
  constructor
  · intro h
    exact mergeSafe_of_authorized fun memberRoles resourceId action =>
      (h memberRoles resourceId action).1
  · intro h memberRoles resourceId action
    exact ⟨authorized_merge h, authorized_of_merge⟩

/-- A role that may read documents. -/
def reader : RBACPolicyRole := ⟨"reader", "", [⟨"documents", ["read"]⟩]⟩

/-- A custom role with the same id that may only read images. -/
def imageReader : RBACPolicyRole := ⟨"reader", "", [⟨"images", ["read"]⟩]⟩

/-- A custom role replaces the role whose id it takes. -/
theorem merge_revokes :
    (⟨[reader], []⟩ : RBACPolicy).callerIsAuthorized ["reader"] "documents" "read" = .ok true ∧
      ((⟨[reader], []⟩ : RBACPolicy).mergeWithCustomRoles [imageReader]).callerIsAuthorized
        ["reader"] "documents" "read" = .ok false :=
  ⟨by decide, by decide⟩

/-! ## Evaluation -/

/-- The policy declares the action on the resource. -/
def Declares (p : RBACPolicy) (resourceId action : String) : Prop :=
  ∃ resource ∈ p.resources, resource.resourceId = resourceId ∧ action ∈ resource.actions

/-- Every action that is declared is one of the last resource with its id, and none is called
`__proto__`. -/
def Recorded (p : RBACPolicy) : Prop :=
  ∀ resource ∈ p.resources, ∀ action ∈ resource.actions, action ≠ "__proto__" ∧
    ∀ last, PlainObject.lastWith RBACPolicyResource.resourceId p.resources resource.resourceId =
      some last → action ∈ last.actions

/-- `allPerms[resourceId]?.[action]`, as an own property. -/
def entry (allPerms : OrderedMap String (OrderedMap String Bool)) (resourceId action : String) :
    Option Bool :=
  (allPerms.get resourceId).bind fun perms => perms.get action

theorem get_foldl_setPrimitive (f : String → Bool) (actions : List String)
    (m : OrderedMap String Bool) (action : String) :
    (actions.foldl (fun perms a => setPrimitive perms a (f a)) m).get action =
      if action ∈ actions ∧ action ≠ "__proto__" then some (f action) else m.get action := by
  induction actions generalizing m with
  | nil => simp
  | cons a actions ih =>
    rw [List.foldl_cons, ih, setPrimitive]
    by_cases hproto : action = "__proto__"
    · by_cases ha : a = "__proto__"
      · simp [hproto, ha]
      · simp [hproto, ha, OrderedMap.get_set, Ne.symm ha]
    · by_cases ha : a = "__proto__"
      · simp [hproto, ha]
      · by_cases haa : action = a <;> simp [hproto, ha, haa, OrderedMap.get_set]

section

variable {p : RBACPolicy} {memberRoles : List String} {allowed : String → String → Bool}

theorem permissionsForResource_eq
    (h : ∀ resourceId action,
      p.callerIsAuthorized memberRoles resourceId action = .ok (allowed resourceId action))
    (resource : RBACPolicyResource) :
    p.permissionsForResource memberRoles resource =
      .ok (resource.actions.foldl
        (fun perms a => setPrimitive perms a (allowed resource.resourceId a)) .empty) := by
  unfold permissionsForResource
  simp only [h]
  exact List.foldlM_pure ..

theorem allPermissionsForCaller_eq
    (h : ∀ resourceId action,
      p.callerIsAuthorized memberRoles resourceId action = .ok (allowed resourceId action)) :
    p.allPermissionsForCaller memberRoles =
      .ok (p.resources.foldl (fun allPerms resource => allPerms.set resource.resourceId
        (resource.actions.foldl
          (fun perms a => setPrimitive perms a (allowed resource.resourceId a)) .empty)) .empty) := by
  unfold allPermissionsForCaller
  simp only [permissionsForResource_eq h]
  exact List.foldlM_pure ..

/-- The entries that are written: those of the last resource with an id. -/
theorem entry_allPermissions (resources : List RBACPolicyResource) (resourceId action : String) :
    entry (resources.foldl (fun allPerms resource => allPerms.set resource.resourceId
        (resource.actions.foldl
          (fun perms a => setPrimitive perms a (allowed resource.resourceId a)) .empty)) .empty)
        resourceId action =
      (PlainObject.lastWith RBACPolicyResource.resourceId resources resourceId).bind fun last =>
        if action ∈ last.actions ∧ action ≠ "__proto__" then some (allowed resourceId action)
        else none := by
  rw [entry, OrderedMap.get_foldl_set_key, OrderedMap.get_empty, Option.or_none]
  change ((PlainObject.lastWith RBACPolicyResource.resourceId resources resourceId).map _).bind _ = _
  cases hlast : PlainObject.lastWith RBACPolicyResource.resourceId resources resourceId with
  | none => rfl
  | some last =>
    rw [Option.map_some, Option.bind_some, get_foldl_setPrimitive,
      (PlainObject.lastWith_eq_some hlast).2]
    rfl

theorem entry_allPermissionsForCaller
    (h : ∀ resourceId action,
      p.callerIsAuthorized memberRoles resourceId action = .ok (allowed resourceId action)) :
    ∃ allPerms, p.allPermissionsForCaller memberRoles = .ok allPerms ∧
      ∀ resourceId action, entry allPerms resourceId action =
        (PlainObject.lastWith RBACPolicyResource.resourceId p.resources resourceId).bind
          fun last => if action ∈ last.actions ∧ action ≠ "__proto__" then
            some (allowed resourceId action) else none :=
  ⟨_, allPermissionsForCaller_eq h, entry_allPermissions p.resources⟩

end

theorem lastWith_isSome {p : RBACPolicy} {resource : RBACPolicyResource}
    (h : resource ∈ p.resources) :
    ∃ last,
      PlainObject.lastWith RBACPolicyResource.resourceId p.resources resource.resourceId =
        some last := by
  refine Option.ne_none_iff_exists'.1 fun hnone => ?_
  exact PlainObject.lastWith_eq_none.1 hnone resource h rfl

/-- Where every declared action is recorded, the entries are the declarations. -/
theorem entry_iff_of_recorded {p : RBACPolicy} (h : p.Recorded) {value : Bool}
    {resourceId action : String} (b : Bool) :
    ((PlainObject.lastWith RBACPolicyResource.resourceId p.resources resourceId).bind fun last =>
        if action ∈ last.actions ∧ action ≠ "__proto__" then some value else none) = some b ↔
      p.Declares resourceId action ∧ value = b := by
  rw [Option.bind_eq_some_iff]
  constructor
  · rintro ⟨last, hlast, hb⟩
    rw [Option.ite_none_right_eq_some, Option.some.injEq] at hb
    obtain ⟨hmem, hid⟩ := PlainObject.lastWith_eq_some hlast
    exact ⟨⟨last, hmem, hid, hb.1.1⟩, hb.2⟩
  · rintro ⟨⟨resource, hmem, rfl, haction⟩, hb⟩
    obtain ⟨hproto, hrecorded⟩ := h resource hmem action haction
    obtain ⟨last, hlast⟩ := lastWith_isSome hmem
    exact ⟨last, hlast, by rw [if_pos ⟨hrecorded last hlast, hproto⟩, hb]⟩

/-- What is recorded where every declaration has an entry. -/
theorem recorded_of_entries {p : RBACPolicy} {memberRoles : List String}
    {allowed : String → String → Bool}
    (hallowed : ∀ resourceId action,
      p.callerIsAuthorized memberRoles resourceId action = .ok (allowed resourceId action))
    {allPerms : OrderedMap String (OrderedMap String Bool)}
    (hall : p.allPermissionsForCaller memberRoles = .ok allPerms)
    (hentry : ∀ resourceId action, p.Declares resourceId action →
      entry allPerms resourceId action = some (allowed resourceId action)) : p.Recorded := by
  intro resource hmem action haction
  obtain ⟨allPerms', hall', hentry'⟩ := entry_allPermissionsForCaller hallowed
  obtain rfl := Except.ok.inj (hall.symm.trans hall')
  have hsome := hentry resource.resourceId action ⟨resource, hmem, rfl, haction⟩
  rw [hentry', Option.bind_eq_some_iff] at hsome
  obtain ⟨last, hlast, hcond⟩ := hsome
  rw [Option.ite_none_right_eq_some] at hcond
  refine ⟨hcond.1.2, fun last' hlast' => ?_⟩
  rw [hlast] at hlast'
  exact Option.some.inj hlast' ▸ hcond.1.1

/-- The roles a caller holds, looked up by id or found among the roles. -/
theorem exists_roleWithId_iff {p : RBACPolicy} (hids : (p.roles.map RBACPolicyRole.roleId).Nodup)
    {memberRoles : List String} {resourceId action : String} :
    (∃ id ∈ memberRoles, ∃ r, roleWithId p.roles id = some r ∧ r.Grants resourceId action) ↔
      ∃ r ∈ p.roles, r.roleId ∈ memberRoles ∧ r.Grants resourceId action := by
  simp only [roleWithId, PlainObject.lastWith_of_nodup hids]
  constructor
  · rintro ⟨id, hid, r, ⟨hr, rfl⟩, hgrants⟩
    exact ⟨r, hr, hid, hgrants⟩
  · rintro ⟨r, hr, hid, hgrants⟩
    exact ⟨r.roleId, hid, r, ⟨hr, rfl⟩, hgrants⟩

/-- For a policy whose role ids are distinct, `callerIsAuthorized` gives the meaning of the policy
without throwing and `allPermissionsForCaller` records it for each declared action, exactly when no
id of the caller is shadowed and every declared action is recorded. -/
theorem evaluation_exact_iff (p : RBACPolicy) (hids : (p.roles.map RBACPolicyRole.roleId).Nodup)
    (memberRoles : List String) :
    ((∀ resourceId action, ∃ b, p.callerIsAuthorized memberRoles resourceId action = .ok b ∧
        (b = true ↔ ∃ r ∈ p.roles, r.roleId ∈ memberRoles ∧ r.Grants resourceId action)) ∧
      ∃ allPerms, p.allPermissionsForCaller memberRoles = .ok allPerms ∧
        ∀ resourceId action b, entry allPerms resourceId action = some b ↔
          p.Declares resourceId action ∧
            p.callerIsAuthorized memberRoles resourceId action = .ok b) ↔
      (∀ id ∈ memberRoles, ¬ Shadowed p.roles id) ∧ p.Recorded := by
  constructor
  · rintro ⟨heval, allPerms, hall, hentry⟩
    refine ⟨fun id hid hsh => ?_, ?_⟩
    · obtain ⟨b, hb, -⟩ := heval "" ""
      rw [callerIsAuthorized_of_shadowed hid hsh] at hb
      cases hb
    · choose allowed hallowed using fun resourceId action => (heval resourceId action).imp
        fun _ h => h.1
      refine recorded_of_entries hallowed hall fun resourceId action hdeclares => ?_
      exact (hentry resourceId action _).2 ⟨hdeclares, hallowed _ _⟩
  · rintro ⟨hsh, hrecorded⟩
    choose allowed hallowed hiff using callerIsAuthorized_of_not_shadowed hsh
    refine ⟨fun resourceId action => ⟨_, hallowed resourceId action, ?_⟩, ?_⟩
    · rw [hiff, exists_roleWithId_iff hids]
    · obtain ⟨allPerms, hall, hentry⟩ := entry_allPermissionsForCaller hallowed
      refine ⟨allPerms, hall, fun resourceId action b => ?_⟩
      rw [hentry, entry_iff_of_recorded hrecorded, hallowed, Except.ok.injEq]

/-- A policy with one role and one resource. -/
def readerPolicy : RBACPolicy := ⟨[reader], [⟨"documents", "", ["read", "write"]⟩]⟩

theorem evaluation_exact_iff_reader :
    (∃ b, readerPolicy.callerIsAuthorized ["reader", "unknown"] "documents" "read" = .ok b ∧
      (b = true ↔ ∃ r ∈ readerPolicy.roles,
        r.roleId ∈ ["reader", "unknown"] ∧ r.Grants "documents" "read")) := by
  have hsh : ∀ id ∈ ["reader", "unknown"], ¬ Shadowed readerPolicy.roles id := by
    rintro id hid ⟨hno, h⟩
    rcases List.mem_pair.1 hid with rfl | rfl
    · exact hno reader (by simp [readerPolicy]) rfl
    · rcases h with h | h | ⟨r, hr, -⟩
      · exact absurd h (by decide)
      · exact absurd h (by decide)
      · cases hr
  have hrecorded : readerPolicy.Recorded := by
    intro resource hmem action haction
    obtain rfl := List.mem_singleton.1 hmem
    refine ⟨?_, fun last hlast => ?_⟩
    · rintro rfl
      exact absurd haction (by decide)
    · obtain rfl := Option.some.inj hlast
      exact haction
  exact ((evaluation_exact_iff readerPolicy (by decide) ["reader", "unknown"]).2
    ⟨hsh, hrecorded⟩).1 "documents" "read"

/-- An id that names a property of every object makes the evaluation throw. -/
theorem evaluation_throws :
    (readerPolicy.roles.map RBACPolicyRole.roleId).Nodup ∧
      readerPolicy.callerIsAuthorized ["reader", "constructor"] "documents" "read" =
        .error .typeError :=
  ⟨by decide, by decide⟩

end RBACPolicy

end StytchBrowser.Core
