import Mathlib.Data.Rat.Defs
import StytchBrowser.Lib.OrderedMap

/-!
# JSON data and the state objects of the SDK

`Json` is what `JSON.parse` yields. The state object a subscription service keeps in memory
(`ConsumerState` or `B2BState`) is a `JsObject`: a JavaScript object whose fields hold JSON data or
an explicit `undefined`. What is persisted is a `JsonObject`, in which no field is `undefined`,
because `JSON.stringify` drops such fields.

`Json.tree` says what a JSON value means when object fields are unordered and the fields named in
an exclusion list are left out at every level. Two values are *equal up to the excluded keys* when
their trees are equal; the subscription service excludes `last_accessed_at`.
-/

namespace StytchBrowser

/-- The data `JSON.parse` yields. A finite double is represented by its rational value. -/
inductive Json where
  | null
  | bool (b : Bool)
  | num (x : ℚ)
  | str (s : String)
  | arr (xs : List Json)
  | obj (fields : List (String × Json))

namespace Json

/-- `j?.k` for an own field `k`. -/
def field (j : Json) (k : String) : Option Json :=
  match j with
  | .obj fields => fields.lookup k
  | _ => none

/-- `!!j`. -/
def truthy : Json → Bool
  | .null => false
  | .bool b => b
  | .num x => x ≠ 0
  | .str s => s ≠ ""
  | .arr _ => true
  | .obj _ => true

/-- The string a value is, when it is one. -/
def asString : Json → Option String
  | .str s => some s
  | _ => none

/-- No object names a field twice. -/
inductive Proper : Json → Prop where
  | null : Proper .null
  | bool (b : Bool) : Proper (.bool b)
  | num (x : ℚ) : Proper (.num x)
  | str (s : String) : Proper (.str s)
  | arr {xs : List Json} : (∀ x ∈ xs, Proper x) → Proper (.arr xs)
  | obj {fields : List (String × Json)} : (fields.map Prod.fst).Nodup →
      (∀ e ∈ fields, Proper e.2) → Proper (.obj fields)

/-- Induction on JSON data: what holds of the elements of an array holds of the array, what holds of
the values of an object holds of the object. -/
@[elab_as_elim]
theorem induction {motive : Json → Prop} (null : motive .null) (bool : ∀ b, motive (.bool b))
    (num : ∀ x, motive (.num x)) (str : ∀ s, motive (.str s))
    (arr : ∀ xs, (∀ x ∈ xs, motive x) → motive (.arr xs))
    (obj : ∀ fields, (∀ e ∈ fields, motive e.2) → motive (.obj fields)) : ∀ j, motive j
  | .null => null
  | .bool b => bool b
  | .num x => num x
  | .str s => str s
  | .arr xs => arr xs fun x _ => induction null bool num str arr obj x
  | .obj fields => obj fields fun e _ => induction null bool num str arr obj e.2
termination_by j => sizeOf j
decreasing_by
  · have := List.sizeOf_lt_of_mem ‹x ∈ xs›
    simp only [Json.arr.sizeOf_spec]
    omega
  · have := List.sizeOf_lt_of_mem ‹e ∈ fields›
    have : sizeOf e.2 < sizeOf e := by
      rcases e with ⟨k, v⟩
      have hkv := Prod.mk.sizeOf_spec k v
      show sizeOf v < sizeOf (k, v)
      omega
    simp only [Json.obj.sizeOf_spec]
    omega

end Json

/-- A JSON value whose objects are maps: what is left of `Json` when the order of the fields does
not count. -/
inductive JsonTree where
  | null
  | bool (b : Bool)
  | num (x : ℚ)
  | str (s : String)
  | arr (xs : List JsonTree)
  | obj (fields : String → Option JsonTree)

namespace Json

mutual

/-- The tree of a value, without the fields named in `excl`. -/
def tree (excl : List String) : Json → JsonTree
  | .null => .null
  | .bool b => .bool b
  | .num x => .num x
  | .str s => .str s
  | .arr xs => .arr (treeElems excl xs)
  | .obj fields => .obj (treeFields excl fields)

/-- The trees of the elements of an array. -/
def treeElems (excl : List String) : List Json → List JsonTree
  | [] => []
  | x :: xs => x.tree excl :: treeElems excl xs

/-- The trees of the fields of an object. -/
def treeFields (excl : List String) : List (String × Json) → String → Option JsonTree
  | [], _ => none
  | (k, v) :: fields, q =>
      if k ∈ excl then treeFields excl fields q
      else if q = k then some (v.tree excl) else treeFields excl fields q

end

section

variable (excl : List String)

theorem treeElems_eq_map (xs : List Json) : treeElems excl xs = xs.map (tree excl) := by
  induction xs with
  | nil => rfl
  | cons x xs ih => exact congrArg (x.tree excl :: ·) ih

theorem treeFields_eq_lookup (fields : List (String × Json)) (k : String) :
    treeFields excl fields k = if k ∈ excl then none else (fields.lookup k).map (tree excl) := by
  induction fields with
  | nil => exact (ite_self none).symm
  | cons e fields ih =>
    obtain ⟨k', v⟩ := e
    rw [treeFields, ih, List.lookup_cons]
    by_cases hk : k = k'
    · subst hk
      by_cases he : k ∈ excl <;> simp [he]
    · rw [beq_eq_false_iff_ne.2 hk, if_neg hk]
      by_cases he : k' ∈ excl <;> simp [he]

theorem tree_arr (xs : List Json) : (arr xs).tree excl = .arr (xs.map (tree excl)) :=
  congrArg JsonTree.arr (treeElems_eq_map excl xs)

theorem tree_obj (fields : List (String × Json)) : (obj fields).tree excl =
    .obj fun k => if k ∈ excl then none else (fields.lookup k).map (tree excl) :=
  congrArg JsonTree.obj (funext fun k => treeFields_eq_lookup excl fields k)

end

end Json

/-! ## State objects -/

/-- An object in memory: a field holds JSON data, or `none` for an explicit `undefined`. -/
abbrev JsObject := OrderedMap String (Option Json)

/-- An object as it is persisted: a field holds JSON data. -/
abbrev JsonObject := OrderedMap String Json

/-- `{ ...old, ...new }`, where `old` may be `null`. -/
def spread (old : Option JsObject) (new : JsObject) : JsObject := (old.getD .empty).merge new

/-- `JSON.stringify` of an object drops the fields that are `undefined`. -/
def stringify (o : JsObject) : JsonObject := o.filterMap id

/-- `JSON.parse` of a persisted object. -/
def parse (o : JsonObject) : JsObject := o.filterMap fun j => some (some j)

/-- `o?.k`: the data of a field, `none` when it is absent or `undefined` or `o` is `null`. -/
def fieldOf (o : Option JsObject) (k : String) : Option Json := o.bind fun o => (o.get k).join

theorem get_spread (old : Option JsObject) (new : JsObject) (k : String) :
    (spread old new).get k = (new.get k).or (old.bind (·.get k)) := by
  cases old <;> simp [spread, OrderedMap.get_merge]

@[simp] theorem get_stringify (o : JsObject) (k : String) : (stringify o).get k = (o.get k).join := by
  rw [stringify, OrderedMap.get_filterMap]
  rfl

@[simp] theorem get_parse (o : JsonObject) (k : String) : (parse o).get k = (o.get k).map some := by
  rw [parse, OrderedMap.get_filterMap]
  cases o.get k <;> rfl

/-! ## Equality up to excluded keys -/

section Tree

variable (excl : List String)

/-- What the fields of an object mean, without the fields named in `excl`. -/
def JsObject.tree (o : JsObject) : String → Option JsonTree := fun k =>
  if k ∈ excl then none else (o.get k).join.map (Json.tree excl)

/-- What a state means. -/
def stateTree (s : Option JsObject) : Option (String → Option JsonTree) := s.map (JsObject.tree excl)

/-- Two states are equal up to the excluded keys. -/
def SameState (s t : Option JsObject) : Prop := stateTree excl s = stateTree excl t

variable {excl}

theorem SameState.refl (s : Option JsObject) : SameState excl s s := rfl

theorem SameState.symm {s t : Option JsObject} (h : SameState excl s t) : SameState excl t s :=
  Eq.symm h

theorem SameState.trans {s t u : Option JsObject} (h₁ : SameState excl s t)
    (h₂ : SameState excl t u) : SameState excl s u :=
  Eq.trans h₁ h₂

theorem sameState_some_iff (o p : JsObject) :
    SameState excl (some o) (some p) ↔ JsObject.tree excl o = JsObject.tree excl p := by
  simp [SameState, stateTree]

/-- Persisting a state and reading it back loses only fields that are `undefined`. -/
theorem tree_parse_stringify (o : JsObject) :
    JsObject.tree excl (parse (stringify o)) = JsObject.tree excl o := by
  funext k
  unfold JsObject.tree
  rw [get_parse, get_stringify]
  cases o.get k with
  | none => rfl
  | some v => cases v <;> rfl

/-- Data spread over a state replaces the fields it has and keeps the others. -/
theorem tree_spread_parse (old : Option JsObject) (new : JsonObject) (k : String) :
    JsObject.tree excl (spread old (parse new)) k =
      (JsObject.tree excl (parse new) k).or ((stateTree excl old).bind fun t => t k) := by
  unfold stateTree JsObject.tree
  rw [get_spread, get_parse]
  by_cases hk : k ∈ excl
  · cases old <;> simp [hk]
  · cases new.get k with
    | some j => simp [hk]
    | none => cases old <;> simp [hk]

end Tree

end StytchBrowser
