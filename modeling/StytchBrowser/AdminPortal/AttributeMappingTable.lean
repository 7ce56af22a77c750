import StytchBrowser.JsUtils.PlainObject
import StytchBrowser.Lib.Machine

/-!
# Editing an attribute mapping

The table of `AttributeMappingTable.tsx`, while it is edited. A row offers to edit and to delete its
entry, each through a modal or at once; below the rows, entries are added through a third modal. What
was typed into a modal stays in the state when the modal is closed.

* `Complete`: the mapping has the required entries; no run takes them away;
* `get_confirmedEdit_of_other`: what an edit leaves alone, whichever modal it was made in;
* `attribute_mapping_iff`: when a step changes exactly the entry that it is about.
-/

namespace StytchBrowser.AdminPortal.AttributeMappingTable

open Machine

def nameKeys : List String := ["full_name", "first_name", "last_name"]

def requiredKeys : List String := nameKeys ++ ["email"]

abbrev AttributeMapping := OrderedMap String String

inductive EditMode where
  | key
  | name
  deriving DecidableEq

inductive OpenModal where
  | edit
  | add
  | delete
  deriving DecidableEq

/-- The mapping of the form, and the state of the component. -/
structure Table where
  attributeMapping : AttributeMapping
  pendingAttributeMapping : List (String × String)
  editMode : EditMode
  editedAttributeMappingKey : String
  editedAttributeMappingValue : String
  editedAttributeMappingLastNameValue : String
  pendingDeleteAttributeMappingKey : Option String
  /-- The open modal, which covers the table. -/
  openModal : Option OpenModal

/-- `!!attributeMapping[key]`. What an object inherits is truthy. -/
def truthyAt (attributeMapping : AttributeMapping) (key : String) : Bool :=
  match attributeMapping.get key with
  | some value => value ≠ ""
  | none => key ∈ "__proto__" :: objectPrototypeNames

def hasFirstAndLastNameKeys (attributeMapping : AttributeMapping) : Bool :=
  truthyAt attributeMapping "first_name" && truthyAt attributeMapping "last_name"

def hasFullNameKey (attributeMapping : AttributeMapping) : Bool :=
  truthyAt attributeMapping "full_name"

/-! ## Editing -/

/-- The entry is edited together with the format of the name. -/
def EditsName (attributeMapping : AttributeMapping) (key : String) : Prop :=
  (key = "full_name" ∧ truthyAt attributeMapping "first_name" = false ∧
      truthyAt attributeMapping "last_name" = false) ∨
    ((key = "first_name" ∨ key = "last_name") ∧ hasFullNameKey attributeMapping = false)

instance (attributeMapping : AttributeMapping) (key : String) :
    Decidable (EditsName attributeMapping key) := inferInstanceAs (Decidable (_ ∨ _))

def handleEditAttributeMapping (s : Table) (key : String) : Table :=
  if EditsName s.attributeMapping key then
    let effectiveKey := if key = "full_name" then "full_name" else "first_name"
    { s with
      editMode := .name
      editedAttributeMappingKey := effectiveKey
      editedAttributeMappingValue := (s.attributeMapping.get effectiveKey).getD ""
      editedAttributeMappingLastNameValue := (s.attributeMapping.get "last_name").getD ""
      openModal := some .edit }
  else
    { s with
      editMode := .key
      editedAttributeMappingKey := key
      editedAttributeMappingValue := (s.attributeMapping.get key).getD ""
      openModal := some .edit }

def editedMapping (s : Table) : AttributeMapping :=
  if s.editMode = .name ∧ s.editedAttributeMappingKey = "first_name" then
    (OrderedMap.empty.set "first_name" s.editedAttributeMappingValue).set "last_name"
      s.editedAttributeMappingLastNameValue
  else OrderedMap.empty.set s.editedAttributeMappingKey s.editedAttributeMappingValue

/-- The mapping after the modal for an edit is confirmed. -/
def confirmedEdit (s : Table) : AttributeMapping :=
  let mergedMapping := s.attributeMapping.merge (editedMapping s)
  if s.editMode = .name then
    let mergedMapping :=
      if s.editedAttributeMappingKey = "full_name" then
        (mergedMapping.erase "first_name").erase "last_name"
      else mergedMapping
    if s.editedAttributeMappingKey = "first_name" then mergedMapping.erase "full_name"
    else mergedMapping
  else mergedMapping

/-! ## Adding and deleting -/

/-- What is added of the entries that were typed in. -/
def addable (s : Table) : List (String × String) :=
  s.pendingAttributeMapping.filter fun e =>
    e.1 ≠ "" && e.2 ≠ "" && !truthyAt s.attributeMapping e.1

/-- `Object.fromEntries`. -/
def fromEntries (entries : List (String × String)) : AttributeMapping :=
  entries.foldl (fun acc e => acc.set e.1 e.2) .empty

/-- The mapping after the modal for new entries is confirmed. -/
def confirmedAdd (s : Table) : AttributeMapping := s.attributeMapping.merge (fromEntries (addable s))

def deleteAttributeMapping (s : Table) (key : String) : Table :=
  { s with attributeMapping := s.attributeMapping.erase key }

def handleRequestDeleteAttributeMapping (s : Table) (key : String) : Table :=
  if key ≠ "groups" then deleteAttributeMapping s key
  else { s with pendingDeleteAttributeMappingKey := some key, openModal := some .delete }

/-- The confirmed modal for a deletion. -/
def confirmedDelete (s : Table) : Table :=
  match s.pendingDeleteAttributeMappingKey with
  | some key => if key = "" then s else deleteAttributeMapping s key
  | none => s

/-! ## The offered actions -/

/-- The row of the key offers to edit it. -/
def OffersEdit (attributeMapping : AttributeMapping) (key : String) : Prop :=
  attributeMapping.contains key ∧
    ¬(key = "email" ∧ attributeMapping.get key = some "NameID")

/-- The row of the key offers to delete it. -/
def OffersDelete (attributeMapping : AttributeMapping) (key : String) : Prop :=
  attributeMapping.contains key ∧
    ¬(key = "email" ∨ key ∈ nameKeys ∧
      ¬(hasFirstAndLastNameKeys attributeMapping ∧ hasFullNameKey attributeMapping))

instance (attributeMapping : AttributeMapping) (key : String) :
    Decidable (OffersEdit attributeMapping key) := inferInstanceAs (Decidable (_ ∧ _))

instance (attributeMapping : AttributeMapping) (key : String) :
    Decidable (OffersDelete attributeMapping key) := inferInstanceAs (Decidable (_ ∧ _))

inductive Action where
  | edit (key : String)
  | selectFormat (fullName : Bool)
  | changeKey (value : String)
  | changeValue (value : String)
  | changeLastName (value : String)
  | confirmEdit
  | add
  | addPending
  | changePendingKey (i : ℕ) (value : String)
  | changePendingValue (i : ℕ) (value : String)
  | confirmAdd
  | delete (key : String)
  | confirmDelete
  /-- Cancel the open modal. -/
  | close

/-- The select of the format is shown. -/
def ShowsFormat (s : Table) : Prop := s.openModal = some .edit ∧ s.editMode = .name

/-- The input of the last name is shown. -/
def ShowsLastName (s : Table) : Prop :=
  ShowsFormat s ∧
    (s.editedAttributeMappingKey = "first_name" ∨ s.editedAttributeMappingKey = "last_name")

instance (s : Table) : Decidable (ShowsFormat s) := inferInstanceAs (Decidable (_ ∧ _))

instance (s : Table) : Decidable (ShowsLastName s) := inferInstanceAs (Decidable (_ ∧ _))

def next (s : Table) : Action → Option Table
  | .edit key =>
    if s.openModal = none ∧ OffersEdit s.attributeMapping key then
      some (handleEditAttributeMapping s key)
    else none
  | .selectFormat fullName =>
    if ShowsFormat s then
      some { s with editedAttributeMappingKey := if fullName then "full_name" else "first_name" }
    else none
  | .changeKey value =>
    if s.openModal = some .edit ∧ s.editMode = .key then
      some { s with editedAttributeMappingKey := value }
    else none
  | .changeValue value =>
    if s.openModal = some .edit then some { s with editedAttributeMappingValue := value } else none
  | .changeLastName value =>
    if ShowsLastName s then some { s with editedAttributeMappingLastNameValue := value } else none
  | .confirmEdit =>
    if s.openModal = some .edit then
      some { s with attributeMapping := confirmedEdit s, openModal := none }
    else none
  | .add => if s.openModal = none then some { s with openModal := some .add } else none
  | .addPending =>
    if s.openModal = some .add then
      some { s with pendingAttributeMapping := s.pendingAttributeMapping ++ [("", "")] }
    else none
  | .changePendingKey i value =>
    if s.openModal = some .add then
      some { s with
        pendingAttributeMapping := s.pendingAttributeMapping.modify i fun item => (value, item.2) }
    else none
  | .changePendingValue i value =>
    if s.openModal = some .add then
      some { s with
        pendingAttributeMapping := s.pendingAttributeMapping.modify i fun item => (item.1, value) }
    else none
  | .confirmAdd =>
    if s.openModal = some .add then
      some { s with attributeMapping := confirmedAdd s, openModal := none }
    else none
  | .delete key =>
    if s.openModal = none ∧ OffersDelete s.attributeMapping key then
      some (handleRequestDeleteAttributeMapping s key)
    else none
  | .confirmDelete =>
    if s.openModal = some .delete then some { confirmedDelete s with openModal := none } else none
  | .close => if s.openModal ≠ none then some { s with openModal := none } else none

/-- The mapping has an email and a complete name. -/
structure Complete (attributeMapping : AttributeMapping) : Prop where
  email : attributeMapping.contains "email"
  name : attributeMapping.contains "full_name" ∨
    attributeMapping.contains "first_name" ∧ attributeMapping.contains "last_name"

/-- The table of a mapping that has the required entries. -/
def table : Machine Table Action where
  init s := Complete s.attributeMapping ∧ s.pendingAttributeMapping = [("", "")] ∧
    s.editMode = .key ∧ s.editedAttributeMappingKey = "" ∧ s.editedAttributeMappingValue = "" ∧
    s.editedAttributeMappingLastNameValue = "" ∧ s.pendingDeleteAttributeMappingKey = none ∧
    s.openModal = none
  next := next

/-! ## What a step is meant to change -/

/-- The key of the row whose edit was asked for last. -/
def requestedKey (h : List Action) : Option String :=
  h.findSome? fun a =>
    match a with
    | .edit key => some key
    | _ => none

/-- The entry of the key became an entry of `key'`, and nothing else changed. -/
structure Edits (old new : AttributeMapping) (key key' value : String) : Prop where
  written : new.get key' = some value
  replaced : key' ≠ key → new.get key = none
  others : ∀ k, k ≠ key → k ≠ key' → new.get k = old.get k

/-- The entry of the key was removed, and nothing else changed. -/
structure Removes (old new : AttributeMapping) (key : String) : Prop where
  present : old.contains key
  removed : new.get key = none
  others : ∀ k, k ≠ key → new.get k = old.get k

/-- The step changes exactly the entry that it is about. -/
def ChangesExactly (h : List Action) (s : Table) (a : Action) (s' : Table) : Prop :=
  match a with
  | .confirmEdit => ∀ key, requestedKey h = some key → key ∉ requiredKeys →
      Edits s.attributeMapping s'.attributeMapping key s.editedAttributeMappingKey
        s.editedAttributeMappingValue
  | .confirmAdd => ∀ key value, s.attributeMapping.get key = some value →
      s'.attributeMapping.get key = some value
  | .delete key =>
      if key = "groups" then s'.attributeMapping = s.attributeMapping
      else Removes s.attributeMapping s'.attributeMapping key
  | .confirmDelete => Removes s.attributeMapping s'.attributeMapping "groups"
  | _ => s'.attributeMapping = s.attributeMapping

/-- An edit of a custom entry leaves its key as it was, and nothing is added under a key that has the
empty value. -/
def KeepsKeys : Guard Table Action := fun h s a =>
  match a with
  | .confirmEdit => ∀ key, requestedKey h = some key → key ∉ requiredKeys →
      s.editedAttributeMappingKey = key
  | .confirmAdd => ∀ e ∈ s.pendingAttributeMapping, e.1 ≠ "" → e.2 ≠ "" →
      s.attributeMapping.get e.1 ≠ some ""
  | _ => True

/-! ## The required entries -/

theorem Complete.merge {m : AttributeMapping} (h : Complete m) (n : AttributeMapping) :
    Complete (m.merge n) where
  email := (m.contains_merge_iff n _).2 (.inr h.email)
  name := by
    simp only [OrderedMap.contains_merge_iff]
    exact h.name.imp .inr fun hboth => ⟨.inr hboth.1, .inr hboth.2⟩

theorem contains_email_confirmedEdit {s : Table} (h : Complete s.attributeMapping) :
    (confirmedEdit s).contains "email" := by
  have hmerged := (h.merge (editedMapping s)).email
  rw [confirmedEdit]
  split_ifs <;> simp [OrderedMap.contains_erase_iff, hmerged]

/-- Neither format of the name is given up without the other being written. -/
theorem Complete.confirmedEdit {s : Table} (h : Complete s.attributeMapping) :
    Complete (confirmedEdit s) where
  email := contains_email_confirmedEdit h
  name := by
    have hmerged := (h.merge (editedMapping s)).name
    rw [AttributeMappingTable.confirmedEdit]
    by_cases hmode : s.editMode = .name
    · rw [if_pos hmode]
      by_cases hfull : s.editedAttributeMappingKey = "full_name"
      · left
        rw [if_neg (by rw [hfull]; decide), if_pos hfull]
        simp [OrderedMap.contains_erase_iff, OrderedMap.contains_merge_iff, editedMapping, hfull,
          OrderedMap.contains_set_iff]
      · rw [if_neg hfull]
        by_cases hfirst : s.editedAttributeMappingKey = "first_name"
        · right
          rw [if_pos hfirst]
          simp [OrderedMap.contains_erase_iff, OrderedMap.contains_merge_iff, editedMapping, hmode,
            hfirst, OrderedMap.contains_set_iff]
        · rwa [if_neg hfirst]
    · rwa [if_neg hmode]

theorem contains_of_truthyAt {m : AttributeMapping} {key : String} (hkey : key ∈ nameKeys)
    (h : truthyAt m key) : m.contains key := by
  have hown : ∀ k ∈ nameKeys, k ∉ "__proto__" :: objectPrototypeNames := by decide
  rw [OrderedMap.contains, Option.isSome_iff_ne_none]
  intro hnone
  rw [truthyAt, hnone] at h
  exact hown key hkey (of_decide_eq_true h)

theorem Complete.erase {m : AttributeMapping} (h : Complete m) {key : String}
    (hoffers : OffersDelete m key) : Complete (m.erase key) := by
  obtain ⟨-, hkey⟩ := hoffers
  obtain ⟨hemail, hname⟩ := not_or.1 hkey
  refine ⟨(m.contains_erase_iff ..).2 ⟨Ne.symm hemail, h.email⟩, ?_⟩
  simp only [OrderedMap.contains_erase_iff]
  by_cases hmem : key ∈ nameKeys
  · have hall := not_not.1 fun hnot => hname ⟨hmem, hnot⟩
    obtain ⟨hfirst, hlast⟩ := Bool.and_eq_true_iff.1 hall.1
    by_cases hfull : key = "full_name"
    · right
      subst hfull
      exact ⟨⟨by decide, contains_of_truthyAt (by decide) hfirst⟩,
        by decide, contains_of_truthyAt (by decide) hlast⟩
    · exact .inl ⟨Ne.symm hfull, contains_of_truthyAt (by decide) hall.2⟩
  · have hne : ∀ k ∈ nameKeys, k ≠ key := fun k hk heq => hmem (heq ▸ hk)
    exact h.name.imp (fun hfull => ⟨hne _ (by decide), hfull⟩) fun hboth =>
      ⟨⟨hne _ (by decide), hboth.1⟩, hne _ (by decide), hboth.2⟩

/-! ## The open modal -/

/-- A modal is open about an entry that the mapping has. -/
structure Consistent (h : List Action) (s : Table) : Prop where
  complete : Complete s.attributeMapping
  edited : s.openModal = some .edit → ∃ key, requestedKey h = some key ∧
    s.attributeMapping.contains key ∧ (s.editMode = .name → key ∈ nameKeys)
  deleted : s.openModal = some .delete → s.pendingDeleteAttributeMappingKey = some "groups" ∧
    s.attributeMapping.contains "groups"

variable {h : List Action} {s s' : Table}

theorem Consistent.of_closed (hcomplete : Complete s.attributeMapping) (hclosed : s.openModal = none) :
    Consistent h s :=
  ⟨hcomplete, fun hopen => absurd (hclosed.symm.trans hopen) nofun,
    fun hopen => absurd (hclosed.symm.trans hopen) nofun⟩

/-- Typing into a modal. -/
theorem Consistent.typed {h' : List Action} (hs : Consistent h s)
    (hrequested : requestedKey h' = requestedKey h)
    (hmapping : s'.attributeMapping = s.attributeMapping) (hmode : s'.editMode = s.editMode)
    (hdelete : s'.pendingDeleteAttributeMappingKey = s.pendingDeleteAttributeMappingKey)
    (hopen : s'.openModal = s.openModal) : Consistent h' s' := by
  constructor
  · rw [hmapping]
    exact hs.complete
  · rw [hrequested, hmapping, hmode, hopen]
    exact hs.edited
  · rw [hdelete, hmapping, hopen]
    exact hs.deleted

theorem attributeMapping_handleEdit (s : Table) (key : String) :
    (handleEditAttributeMapping s key).attributeMapping = s.attributeMapping := by
  rw [handleEditAttributeMapping]
  by_cases hname : EditsName s.attributeMapping key
  · rw [if_pos hname]
  · rw [if_neg hname]

/-- Only the edit of the name is an edit of its format. -/
theorem EditsName.mem {m : AttributeMapping} {key : String} (hname : EditsName m key) :
    key ∈ nameKeys := by
  rcases hname with ⟨rfl, -⟩ | ⟨rfl | rfl, -⟩ <;> decide

theorem consistent_edit (hs : Consistent h s) {key : String}
    (hoffers : OffersEdit s.attributeMapping key) :
    Consistent (.edit key :: h) (handleEditAttributeMapping s key) := by
  rw [handleEditAttributeMapping]
  by_cases hname : EditsName s.attributeMapping key
  · rw [if_pos hname]
    exact ⟨hs.complete, fun _ => ⟨key, rfl, hoffers.1, fun _ => hname.mem⟩, nofun⟩
  · rw [if_neg hname]
    exact ⟨hs.complete, fun _ => ⟨key, rfl, hoffers.1, nofun⟩, nofun⟩

theorem consistent_delete (hs : Consistent h s) (hclosed : s.openModal = none) {key : String}
    (hoffers : OffersDelete s.attributeMapping key) (h' : List Action) :
    Consistent h' (handleRequestDeleteAttributeMapping s key) := by
  rw [handleRequestDeleteAttributeMapping]
  split_ifs with hgroups
  · exact .of_closed (hs.complete.erase hoffers) hclosed
  · obtain rfl := not_not.1 hgroups
    exact ⟨hs.complete, nofun, fun _ => ⟨rfl, hoffers.1⟩⟩

theorem confirmedDelete_eq (hs : Consistent h s) (hopen : s.openModal = some .delete) :
    confirmedDelete s = deleteAttributeMapping s "groups" := by
  rw [confirmedDelete, (hs.deleted hopen).1]
  exact if_neg (by decide)

theorem offersDelete_groups (hs : Consistent h s) (hopen : s.openModal = some .delete) :
    OffersDelete s.attributeMapping "groups" := by
  refine ⟨(hs.deleted hopen).2, ?_⟩
  rintro (hemail | ⟨hname, -⟩)
  · exact absurd hemail (by decide)
  · exact absurd hname (by decide)

theorem consistent_next (hs : Consistent h s) {a : Action} (hn : table.next s a = some s') :
    Consistent (a :: h) s' := by
  cases a with
  | edit key =>
    obtain ⟨⟨-, hoffers⟩, rfl⟩ := Option.ite_some_none_eq_some.1 hn
    exact consistent_edit hs hoffers
  | delete key =>
    obtain ⟨⟨hclosed, hoffers⟩, rfl⟩ := Option.ite_some_none_eq_some.1 hn
    exact consistent_delete hs hclosed hoffers _
  | confirmEdit =>
    obtain ⟨-, rfl⟩ := Option.ite_some_none_eq_some.1 hn
    exact .of_closed hs.complete.confirmedEdit rfl
  | confirmAdd =>
    obtain ⟨-, rfl⟩ := Option.ite_some_none_eq_some.1 hn
    exact .of_closed (hs.complete.merge _) rfl
  | confirmDelete =>
    obtain ⟨hopen, rfl⟩ := Option.ite_some_none_eq_some.1 hn
    refine .of_closed ?_ rfl
    rw [confirmedDelete_eq hs hopen]
    exact hs.complete.erase (offersDelete_groups hs hopen)
  | close =>
    obtain ⟨-, rfl⟩ := Option.ite_some_none_eq_some.1 hn
    exact .of_closed hs.complete rfl
  | add =>
    obtain ⟨-, rfl⟩ := Option.ite_some_none_eq_some.1 hn
    exact ⟨hs.complete, nofun, nofun⟩
  | _ =>
    obtain ⟨-, rfl⟩ := Option.ite_some_none_eq_some.1 hn
    exact hs.typed rfl rfl rfl rfl rfl

theorem consistent_of_reach {C : Guard Table Action} (hr : Reach table C h s) : Consistent h s := by
  refine hr.invariant (I := Consistent) ?_ fun _ _ _ _ hs _ hn => consistent_next hs hn
  rintro s ⟨hcomplete, -, -, -, -, -, -, hclosed⟩
  exact .of_closed hcomplete hclosed

/-! ## What is edited, added and deleted -/

theorem removes_erase {m : AttributeMapping} {key : String} (hkey : m.contains key) :
    Removes m (m.erase key) key := by
  refine ⟨hkey, ?_, fun k hk => ?_⟩
  · rw [OrderedMap.get_erase, if_pos rfl]
  · rw [OrderedMap.get_erase, if_neg hk]

theorem get_confirmedEdit (hmode : s.editMode ≠ .name) (k : String) :
    (confirmedEdit s).get k =
      if k = s.editedAttributeMappingKey then some s.editedAttributeMappingValue
      else s.attributeMapping.get k := by
  rw [confirmedEdit, if_neg hmode, editedMapping, if_neg fun h => hmode h.1, OrderedMap.get_merge,
    OrderedMap.get_set]
  split_ifs <;> rfl

/-- The entry of the old key stays. -/
theorem edits_confirmedEdit_iff (hmode : s.editMode ≠ .name) {key : String}
    (hkey : s.attributeMapping.contains key) :
    Edits s.attributeMapping (confirmedEdit s) key s.editedAttributeMappingKey
        s.editedAttributeMappingValue ↔ s.editedAttributeMappingKey = key := by
  constructor
  · intro hedits
    by_contra hne
    have hgone := hedits.replaced hne
    rw [get_confirmedEdit hmode, if_neg (Ne.symm hne)] at hgone
    rw [OrderedMap.contains, hgone] at hkey
    exact absurd hkey (by decide)
  · rintro rfl
    refine ⟨?_, fun hne => absurd rfl hne, fun k hk _ => ?_⟩
    · rw [get_confirmedEdit hmode, if_pos rfl]
    · rw [get_confirmedEdit hmode, if_neg hk]

/-- Whatever the modal was about, an edit leaves the entries alone that are not the name and are not
under the key it writes. -/
theorem get_confirmedEdit_of_other {k : String} (hname : k ∉ nameKeys)
    (hk : k ≠ s.editedAttributeMappingKey) :
    (confirmedEdit s).get k = s.attributeMapping.get k := by
  have hne : ∀ k' ∈ nameKeys, k ≠ k' := fun k' hk' heq => hname (heq ▸ hk')
  have hedited : (editedMapping s).get k = none := by
    rw [editedMapping]
    split_ifs
    · rw [OrderedMap.get_set, if_neg (hne _ (by decide)), OrderedMap.get_set,
        if_neg (hne _ (by decide)), OrderedMap.get_empty]
    · rw [OrderedMap.get_set, if_neg hk, OrderedMap.get_empty]
  have hmerged : (s.attributeMapping.merge (editedMapping s)).get k = s.attributeMapping.get k := by
    rw [OrderedMap.get_merge, hedited, Option.none_or]
  rw [confirmedEdit]
  split_ifs <;> simp only [OrderedMap.get_erase, if_neg (hne "full_name" (by decide)),
    if_neg (hne "first_name" (by decide)), if_neg (hne "last_name" (by decide)), hmerged]

theorem mem_addable {e : String × String} :
    e ∈ addable s ↔ e ∈ s.pendingAttributeMapping ∧ e.1 ≠ "" ∧ e.2 ≠ "" ∧
      truthyAt s.attributeMapping e.1 = false := by
  simp [addable, and_assoc]

theorem get_fromEntries (entries : List (String × String)) (k : String) :
    (fromEntries entries).get k = (entries.filter fun e => e.1 = k).getLast?.map Prod.snd := by
  rw [fromEntries, OrderedMap.get_foldl_set_key Prod.fst Prod.snd, OrderedMap.get_empty,
    Option.or_none]

theorem mem_of_get_fromEntries {entries : List (String × String)} {k value : String}
    (hget : (fromEntries entries).get k = some value) : (k, value) ∈ entries := by
  rw [get_fromEntries] at hget
  obtain ⟨e, he, rfl⟩ := Option.map_eq_some_iff.1 hget
  obtain ⟨hmem, hk⟩ := List.mem_filter.1 (List.mem_of_getLast? he)
  rwa [← of_decide_eq_true hk]

theorem exists_get_fromEntries {entries : List (String × String)} {e : String × String}
    (he : e ∈ entries) : ∃ value, (fromEntries entries).get e.1 = some value := by
  rw [get_fromEntries]
  have hmem : e ∈ entries.filter fun e' => e'.1 = e.1 := List.mem_filter.2 ⟨he, by simp⟩
  obtain ⟨last, hlast⟩ := Option.isSome_iff_exists.1
    (List.getLast?_isSome.2 (List.ne_nil_of_mem hmem))
  exact ⟨last.2, by rw [hlast]; rfl⟩

/-- An entry is overwritten when it is empty. -/
theorem keeps_confirmedAdd_iff :
    (∀ key value, s.attributeMapping.get key = some value →
      (confirmedAdd s).get key = some value) ↔
    ∀ e ∈ s.pendingAttributeMapping, e.1 ≠ "" → e.2 ≠ "" →
      s.attributeMapping.get e.1 ≠ some "" := by
  simp only [confirmedAdd, OrderedMap.get_merge]
  constructor
  · intro hkeeps e he hkey hvalue hempty
    have hadd : e ∈ addable s := mem_addable.2 ⟨he, hkey, hvalue, by simp [truthyAt, hempty]⟩
    obtain ⟨value, hget⟩ := exists_get_fromEntries hadd
    have hkept := hkeeps e.1 "" hempty
    rw [hget, Option.some_or] at hkept
    exact (mem_addable.1 (mem_of_get_fromEntries hget)).2.2.1 (Option.some.inj hkept)
  · intro hfull key value hget
    cases hadded : (fromEntries (addable s)).get key with
    | none => rwa [Option.none_or]
    | some added =>
      obtain ⟨hmem, hkey, hvalue, hfalse⟩ := mem_addable.1 (mem_of_get_fromEntries hadded)
      have hempty : value = "" := by simpa [truthyAt, hget] using hfalse
      exact absurd (hempty ▸ hget) (hfull _ hmem hkey hvalue)

/-! ## Every step -/

/-- The edit of a custom entry is not an edit of the name. -/
theorem changesExactly_confirmEdit_iff (hs : Consistent h s) (hopen : s.openModal = some .edit)
    (hmapping : s'.attributeMapping = confirmedEdit s) :
    ChangesExactly h s .confirmEdit s' ↔ KeepsKeys h s .confirmEdit := by
  obtain ⟨key, hrequested, hkey, hname⟩ := hs.edited hopen
  have hmode : key ∉ requiredKeys → s.editMode ≠ .name := fun hcustom heq =>
    hcustom (List.mem_append_left _ (hname heq))
  rw [ChangesExactly, KeepsKeys, hmapping]
  refine forall_congr' fun key' => forall_congr' fun hrequested' => forall_congr' fun hcustom => ?_
  obtain rfl : key = key' := Option.some.inj (hrequested.symm.trans hrequested')
  exact edits_confirmedEdit_iff (hmode hcustom) hkey

theorem changesExactly_delete {key : String} (hoffers : OffersDelete s.attributeMapping key) :
    ChangesExactly h s (.delete key) (handleRequestDeleteAttributeMapping s key) := by
  by_cases hgroups : key = "groups"
  · refine (if_pos hgroups).mpr ?_
    rw [handleRequestDeleteAttributeMapping, if_neg (not_not.2 hgroups)]
  · refine (if_neg hgroups).mpr ?_
    rw [handleRequestDeleteAttributeMapping, if_pos hgroups]
    exact removes_erase hoffers.1

/-- Every step keeps the required entries, and changes exactly the entry that it is about if it is not
the confirmation of another key for a custom entry or of something new for an empty one. -/
theorem attribute_mapping_iff {h : List Action} {s : Table} (hr : Reach table anyStep h s) :
    Complete s.attributeMapping ∧ ∀ a s', table.next s a = some s' →
      (ChangesExactly h s a s' ↔ KeepsKeys h s a) := by
  have hs := consistent_of_reach hr
  refine ⟨hs.complete, fun a s' hn => ?_⟩
  cases a with
  | confirmEdit =>
    obtain ⟨hopen, rfl⟩ := Option.ite_some_none_eq_some.1 hn
    exact changesExactly_confirmEdit_iff hs hopen rfl
  | confirmAdd =>
    obtain ⟨-, rfl⟩ := Option.ite_some_none_eq_some.1 hn
    exact keeps_confirmedAdd_iff
  | edit key =>
    obtain ⟨-, rfl⟩ := Option.ite_some_none_eq_some.1 hn
    exact iff_of_true (attributeMapping_handleEdit s key) trivial
  | delete key =>
    obtain ⟨⟨-, hoffers⟩, rfl⟩ := Option.ite_some_none_eq_some.1 hn
    exact iff_of_true (changesExactly_delete hoffers) trivial
  | confirmDelete =>
    obtain ⟨hopen, rfl⟩ := Option.ite_some_none_eq_some.1 hn
    refine iff_of_true ?_ trivial
    change Removes s.attributeMapping (confirmedDelete s).attributeMapping "groups"
    rw [confirmedDelete_eq hs hopen]
    exact removes_erase (hs.deleted hopen).2
  | _ =>
    obtain ⟨-, rfl⟩ := Option.ite_some_none_eq_some.1 hn
    exact iff_of_true rfl trivial

/-- The mapping `{ email: 'email', full_name: 'name', department: 'dept' }`. -/
def departments : AttributeMapping :=
  ((OrderedMap.empty.set "email" "email").set "full_name" "name").set "department" "dept"

def openedTable : Table :=
  ⟨departments, [("", "")], .key, "", "", "", none, none⟩

theorem init_openedTable : table.init openedTable :=
  ⟨⟨by decide, .inl (by decide)⟩, rfl, rfl, rfl, rfl, rfl, rfl, rfl⟩

/-- The value of a custom entry is changed. -/
theorem attribute_mapping_value :
    ∃ h s s', Reach table anyStep h s ∧ table.next s .confirmEdit = some s' ∧
      Complete s.attributeMapping ∧
      Edits departments s'.attributeMapping "department" "department" "team" := by
  have hr : Reach table anyStep [.changeValue "team", .edit "department"] _ :=
    reach_of_exec init_openedTable rfl
  obtain ⟨hcomplete, hstep⟩ := attribute_mapping_iff hr
  refine ⟨_, _, _, hr, rfl, hcomplete, (hstep .confirmEdit _ rfl).2 ?_ _ rfl (by decide)⟩
  rintro key hkey -
  exact Option.some.inj hkey

/-- The renamed entry is there twice. -/
theorem renamed_entry_kept :
    ¬ ∀ h s, Reach table anyStep h s → ∀ a s', table.next s a = some s' →
      ChangesExactly h s a s' := by
  intro hall
  have hr : Reach table anyStep [.changeKey "team", .edit "department"] _ :=
    reach_of_exec init_openedTable rfl
  have hedits := hall _ _ hr .confirmEdit _ rfl "department" rfl (by decide)
  exact absurd (hedits.replaced (by decide)) (by decide)

end StytchBrowser.AdminPortal.AttributeMappingTable
