import StytchBrowser.JsUtils.DeepEqualLaws

/-!
# `mergeWithStableProps`

`Held` is JSON data as it is held in memory: every array and every object has a reference, and `===`
compares references. A memory says what is at each reference; it `Stores` a value when it has, at the
reference of every part of the value, this part.

The merge looks at the data only through `deepEqual`, which never compares references. So a property
that is the same object in both values is compared like any other (`Faithful.refl` says that it
passes), and an old property is kept exactly when it passes for the new one.
-/

universe u

namespace StytchBrowser.StableProps

open DeepEqual (Operand deepEqual inherited objectPrototypeMethods Faithful)

/-- JSON data in memory. -/
inductive Held (α : Type u) where
  | null
  | bool (b : Bool)
  | num (x : ℚ)
  | str (s : String)
  | arr (ref : α) (xs : List (Held α))
  | obj (ref : α) (fields : List (String × Held α))

variable {α : Type u}

namespace Held

mutual

/-- The data, without the references. -/
def json : Held α → Json
  | .null => .null
  | .bool b => .bool b
  | .num x => .num x
  | .str s => .str s
  | .arr _ xs => .arr (jsonElems xs)
  | .obj _ fields => .obj (jsonFields fields)

/-- The data of the elements of an array. -/
def jsonElems : List (Held α) → List Json
  | [] => []
  | x :: xs => x.json :: jsonElems xs

/-- The data of the fields of an object. -/
def jsonFields : List (String × Held α) → List (String × Json)
  | [] => []
  | (k, x) :: fields => (k, x.json) :: jsonFields fields

end

theorem jsonElems_eq_map (xs : List (Held α)) : jsonElems xs = xs.map json := by
  induction xs with
  | nil => rfl
  | cons x xs ih => rw [jsonElems, ih, List.map_cons]

theorem jsonFields_eq_map (fields : List (String × Held α)) :
    jsonFields fields = fields.map fun e => (e.1, e.2.json) := by
  induction fields with
  | nil => rfl
  | cons e fields ih => rw [jsonFields, ih, List.map_cons]

theorem lookup_jsonFields (fields : List (String × Held α)) (k : String) :
    (jsonFields fields).lookup k = (fields.lookup k).map json := by
  induction fields with
  | nil => rfl
  | cons e fields ih =>
    rw [jsonFields, List.lookup_cons, List.lookup_cons, ih]
    cases k == e.1 <;> rfl

/-- `x === y`. -/
def Same : Held α → Held α → Prop
  | .null, .null => True
  | .bool a, .bool b => a = b
  | .num a, .num b => a = b
  | .str a, .str b => a = b
  | .arr r _, .arr r' _ => r = r'
  | .obj r _, .obj r' _ => r = r'
  | _, _ => False

/-- A memory has every part of a value at the reference of that part. -/
inductive Stored (m : α → Option (Held α)) : Held α → Prop where
  | null : Stored m .null
  | bool (b : Bool) : Stored m (.bool b)
  | num (x : ℚ) : Stored m (.num x)
  | str (s : String) : Stored m (.str s)
  | arr {ref : α} {xs : List (Held α)} : m ref = some (.arr ref xs) → (∀ x ∈ xs, Stored m x) →
      Stored m (.arr ref xs)
  | obj {ref : α} {fields : List (String × Held α)} : m ref = some (.obj ref fields) →
      (fields.map Prod.fst).Nodup → (∀ e ∈ fields, Stored m e.2) → Stored m (.obj ref fields)

variable {m : α → Option (Held α)}

/-- In one memory `===` is equality. -/
theorem Stored.same_iff {x y : Held α} (hx : Stored m x) (hy : Stored m y) : x.Same y ↔ x = y := by
  constructor
  · intro h
    cases hx with
    | arr hm _ =>
      cases hy with
      | arr hm' _ =>
        cases (show _ = _ from h)
        exact Option.some.inj (hm.symm.trans hm')
      | _ => cases h
    | obj hm _ _ =>
      cases hy with
      | obj hm' _ _ =>
        cases (show _ = _ from h)
        exact Option.some.inj (hm.symm.trans hm')
      | _ => cases h
    | null => cases hy <;> first | rfl | cases h
    | bool | num | str => cases hy <;> first | exact congrArg _ h | cases h
  · rintro rfl
    cases hx with
    | null => trivial
    | _ => exact rfl

theorem Stored.proper {x : Held α} (hx : Stored m x) : x.json.Proper := by
  induction hx with
  | null => exact .null
  | bool b => exact .bool b
  | num x => exact .num x
  | str s => exact .str s
  | arr _ _ ih =>
    rw [json, jsonElems_eq_map]
    refine .arr fun j hj => ?_
    obtain ⟨x, hx, rfl⟩ := List.mem_map.1 hj
    exact ih x hx
  | obj _ hnd _ ih =>
    rw [json, jsonFields_eq_map]
    refine .obj ?_ fun e he => ?_
    · rw [List.map_map]
      exact hnd
    · obtain ⟨e', he', rfl⟩ := List.mem_map.1 he
      exact ih e' he'

end Held

/-- An object in memory: a `Record<string, unknown>`. -/
structure Obj (α : Type u) where
  ref : α
  props : OrderedMap String (Held α)

/-- The object as a value. -/
def Obj.held (o : Obj α) : Held α := .obj o.ref o.props.entries

/-- The data of the object. -/
def Obj.data (o : Obj α) : JsonObject := o.props.filterMap fun x => some x.json

/-- `acc[key] = value`. Under `__proto__` this replaces the prototype, which is no part of the data,
unless the object has a property of its own under this key. -/
def assign (acc : OrderedMap String (Held α)) (key : String) (value : Held α) :
    OrderedMap String (Held α) :=
  if key = "__proto__" ∧ acc.contains key = false then acc else acc.set key value

/-- `key in newValue && deepEqual(value, newValue[key])`. -/
def passes (newValue : Obj α) (key : String) (value : Held α) : Bool :=
  ((Operand.value newValue.held.json).prop key).any (deepEqual [] value.json)

/-- `mergeWithStableProps`, with `fresh` the reference of the object literal `{ ...newValue }`. -/
def mergeWithStableProps [DecidableEq α] (fresh : α) (oldValue newValue : Obj α) : Obj α :=
  if oldValue.ref = newValue.ref then newValue
  else
    ⟨fresh, oldValue.props.entries.foldl
      (fun acc e => if passes newValue e.1 e.2 then assign acc e.1 e.2 else acc) newValue.props⟩

/-! ## What the merge keeps -/

/-- Data passes for a function nowhere. -/
theorem deepEqual_function (a : Json) : deepEqual [] a .function = false := by
  cases a <;> rfl

/-- Under a key that it does not have itself, an object passes for `{}` and `[]` under `__proto__` at
most. -/
theorem passes_inherited {newValue : Obj α} {k : String} (hk : newValue.props.get k = none)
    (hp : k ≠ "__proto__") (x : Held α) : passes newValue k x = false := by
  have hlookup : (Held.jsonFields newValue.props.entries).lookup k = none := by
    rw [Held.lookup_jsonFields]
    exact congrArg (Option.map Held.json) hk
  have hprop : (Operand.value newValue.held.json).prop k = inherited k := by
    rw [Obj.held, Held.json]
    dsimp only [Operand.prop]
    rw [hlookup, Option.elim_none]
  rw [passes, hprop, inherited, if_neg hp]
  split_ifs
  · exact deepEqual_function _
  · rfl

theorem passes_own {newValue : Obj α} {k : String} {y : Held α}
    (hk : newValue.props.get k = some y) (x : Held α) :
    passes newValue k x = deepEqual [] x.json (.value y.json) := by
  have hlookup : (Held.jsonFields newValue.props.entries).lookup k = some y.json := by
    rw [Held.lookup_jsonFields]
    exact congrArg (Option.map Held.json) hk
  rw [passes, Obj.held, Held.json, DeepEqual.prop_field hlookup, Option.any_some]

/-- Whether an old property passes for the one the new value has itself. -/
def keeps (newValue : Obj α) (k : String) (x : Held α) : Bool :=
  (newValue.props.get k).any fun y => deepEqual [] x.json (.value y.json)

/-- One round of the loop writes a key of the new value or nothing. -/
theorem round_eq {newValue : Obj α} {acc : OrderedMap String (Held α)}
    (hacc : acc.keys = newValue.props.keys) (k : String) (x : Held α) :
    (if passes newValue k x then assign acc k x else acc) =
      if keeps newValue k x then acc.set k x else acc := by
  have hcontains : acc.contains k = newValue.props.contains k :=
    OrderedMap.contains_congr hacc k
  cases hk : newValue.props.get k with
  | some y =>
    have hown : acc.contains k = true := by
      rw [hcontains, OrderedMap.contains, hk, Option.isSome_some]
    rw [passes_own hk, keeps, hk, Option.any_some, assign, hown]
    simp only [Bool.true_eq_false, and_false, if_false]
  | none =>
    have hnot : acc.contains k = false := by
      rw [hcontains, OrderedMap.contains, hk, Option.isSome_none]
    rw [keeps, hk, Option.any_none, if_neg Bool.false_ne_true]
    by_cases hp : k = "__proto__"
    · have hassign : assign acc k x = acc := if_pos ⟨hp, hnot⟩
      rw [hassign, ite_self]
    · rw [passes_inherited hk hp, if_neg Bool.false_ne_true]

theorem contains_of_keeps {newValue : Obj α} {k : String} {x : Held α}
    (hk : keeps newValue k x = true) : newValue.props.contains k = true := by
  rw [keeps, Option.any_eq_true] at hk
  obtain ⟨y, hy, -⟩ := hk
  rw [OrderedMap.contains, hy, Option.isSome_some]

section

variable [DecidableEq α]

/-- Unless the values are the same object, the merge writes the old properties that pass over the
new ones. -/
theorem props_mergeWithStableProps (fresh : α) {oldValue newValue : Obj α}
    (h : oldValue.ref ≠ newValue.ref) :
    (mergeWithStableProps fresh oldValue newValue).props =
      newValue.props.mergeIf (keeps newValue) oldValue.props := by
  have hfold : ∀ (l : List (String × Held α)) (acc : OrderedMap String (Held α)),
      acc.keys = newValue.props.keys →
      l.foldl (fun acc e => if passes newValue e.1 e.2 then assign acc e.1 e.2 else acc) acc =
        l.foldl (fun acc e => if keeps newValue e.1 e.2 then acc.set e.1 e.2 else acc) acc := by
    intro l
    induction l with
    | nil => exact fun _ _ => rfl
    | cons e l ih =>
      intro acc hacc
      rw [List.foldl_cons, List.foldl_cons, round_eq hacc]
      apply ih
      split_ifs with hk
      · rw [OrderedMap.keys_set_of_contains, hacc]
        rw [OrderedMap.contains_congr hacc, contains_of_keeps hk]
      · exact hacc
  rw [mergeWithStableProps, if_neg h]
  exact hfold _ _ rfl

/-- The result has the keys of the new value, in the same order. -/
theorem keys_mergeWithStableProps (fresh : α) (oldValue newValue : Obj α) :
    (mergeWithStableProps fresh oldValue newValue).props.keys = newValue.props.keys := by
  by_cases h : oldValue.ref = newValue.ref
  · rw [mergeWithStableProps, if_pos h]
  · rw [props_mergeWithStableProps fresh h]
    exact OrderedMap.keys_mergeIf fun _ _ _ => contains_of_keeps

end

/-! ## Structural sharing -/

/-- Structural equality: the same data up to the order in which objects name their fields. -/
def Unchanged (x y : Held α) : Prop := x.json.tree [] = y.json.tree []

theorem Obj.get_data (o : Obj α) (k : String) : o.data.get k = (o.props.get k).map Held.json := by
  rw [data, OrderedMap.get_filterMap, Option.map_eq_bind]
  rfl

theorem Obj.keys_data (o : Obj α) : o.data.keys = o.props.keys := by
  unfold data OrderedMap.keys OrderedMap.filterMap
  simp only [Option.map_some, List.filterMap_eq_map', List.map_map]
  rfl

theorem Obj.get_json (o : Obj α) (k : String) :
    (Held.jsonFields o.props.entries).lookup k = (o.props.get k).map Held.json :=
  Held.lookup_jsonFields ..

theorem Held.Stored.prop {m : α → Option (Held α)} {o : Obj α} (ho : Held.Stored m o.held)
    {k : String} {x : Held α} (hk : o.props.get k = some x) : Held.Stored m x := by
  cases ho with
  | obj _ _ h => exact h _ ((o.props.get_eq_some_iff ..).1 hk)

/-- Objects with the same structure under every key have the same structure. -/
theorem unchanged_of_props {o p : Obj α} (hk : o.props.keys = p.props.keys)
    (h : ∀ k x y, o.props.get k = some x → p.props.get k = some y → Unchanged x y) :
    Unchanged o.held p.held := by
  unfold Unchanged Obj.held
  rw [Held.json, Held.json]
  apply DeepEqual.tree_obj_congr
  intro k _
  rw [o.get_json, p.get_json, Option.map_map, Option.map_map]
  have hc := OrderedMap.contains_congr hk k
  unfold OrderedMap.contains at hc
  cases hx : o.props.get k with
  | none =>
    rw [hx, Option.isSome_none, eq_comm, Option.isSome_eq_false_iff, Option.isNone_iff_eq_none] at hc
    rw [hc]
  | some x =>
    rw [hx, Option.isSome_some, eq_comm] at hc
    obtain ⟨y, hy⟩ := Option.isSome_iff_exists.1 hc
    rw [hy]
    exact congrArg some (h k x y hx hy)

section

variable [DecidableEq α] {m : α → Option (Held α)} {oldValue newValue : Obj α}

/-- What a property of both values becomes. -/
theorem get_of_both (fresh : α) (h : oldValue.ref ≠ newValue.ref) {k : String} {x y : Held α}
    (hx : oldValue.props.get k = some x) (hy : newValue.props.get k = some y) :
    (mergeWithStableProps fresh oldValue newValue).props.get k =
      some (if deepEqual [] x.json (.value y.json) then x else y) := by
  rw [props_mergeWithStableProps fresh h, OrderedMap.get_mergeIf, hx, hy, Option.filter_some, keeps,
    hy, Option.any_some]
  split_ifs <;> rfl

/-- What a property that only the new value has becomes. -/
theorem get_of_new (fresh : α) {k : String} (hx : oldValue.props.get k = none) :
    (mergeWithStableProps fresh oldValue newValue).props.get k = newValue.props.get k := by
  by_cases h : oldValue.ref = newValue.ref
  · rw [mergeWithStableProps, if_pos h]
  · rw [props_mergeWithStableProps fresh h, OrderedMap.get_mergeIf, hx, Option.filter_none,
      Option.none_or]

omit [DecidableEq α] in
/-- Objects of one memory with the same reference are the same. -/
theorem eq_of_ref (ho : Held.Stored m oldValue.held) (hn : Held.Stored m newValue.held)
    (h : oldValue.ref = newValue.ref) : oldValue = newValue := by
  have hheld := (ho.same_iff hn).1 h
  obtain ⟨r, props⟩ := oldValue
  obtain ⟨r', props'⟩ := newValue
  obtain ⟨rfl, hprops⟩ := Held.obj.inj hheld
  exact congrArg (Obj.mk _) (OrderedMap.ext hprops)

/-- A property that is faithfully compared is shared exactly when it is unchanged. -/
theorem shared_iff (ho : Held.Stored m oldValue.held) (hn : Held.Stored m newValue.held) (fresh : α)
    {k : String} {x y : Held α} (hx : oldValue.props.get k = some x)
    (hy : newValue.props.get k = some y) (hf : Faithful [] x.json y.json) :
    ∃ z, (mergeWithStableProps fresh oldValue newValue).props.get k = some z ∧ Unchanged z y ∧
      (z.Same x ↔ Unchanged x y) := by
  have hsx := ho.prop hx
  have hsy := hn.prop hy
  by_cases h : oldValue.ref = newValue.ref
  · obtain rfl := eq_of_ref ho hn h
    obtain rfl := Option.some.inj (hx.symm.trans hy)
    refine ⟨x, ?_, rfl, ?_⟩
    · rw [mergeWithStableProps, if_pos rfl, hx]
    · exact iff_of_true ((hsx.same_iff hsx).2 rfl) rfl
  · rw [get_of_both fresh h hx hy]
    have hdecides := (DeepEqual.deepEqual_decides_iff hsx.proper).2 hf
    refine ⟨_, rfl, ?_⟩
    split_ifs with hd
    · have hu : Unchanged x y := hdecides.1 hd
      exact ⟨hu, iff_of_true ((hsx.same_iff hsx).2 rfl) hu⟩
    · refine ⟨rfl, ?_⟩
      constructor
      · intro hyx
        rw [← (hsy.same_iff hsx).1 hyx]
        rfl
      · exact fun hu => absurd (hdecides.2 hu) hd

end

/-! ## Two equal objects -/

/-- `{ a: 1 }`. -/
def one (ref : ℕ) : Obj ℕ := ⟨ref, OrderedMap.empty.set "a" (.num 1)⟩

/-- A memory with two such objects. -/
def two (ref : ℕ) : Option (Held ℕ) := if ref < 2 then some (one ref).held else none

theorem stored_one {ref : ℕ} (h : ref < 2) : Held.Stored two (one ref).held := by
  refine .obj (if_pos h) (one ref).props.nodup fun e he => ?_
  rw [List.mem_singleton.1 he]
  exact .num 1

end StytchBrowser.StableProps
