import Mathlib.Data.List.Sort
import StytchBrowser.Lib.Digits
import StytchBrowser.Lib.OrderedMap

/-!
# Plain objects used as dictionaries

An object literal `{}` that is indexed by arbitrary strings is not a map: a key that was never
written may be found on a prototype, and writing `__proto__` runs a setter. An assignment of an
object to `__proto__` makes that object the prototype; an assignment of anything else to it does
nothing.

`PlainObject α` is such an object with values of type `α` that are themselves plain objects, and
`setPrimitive` is the write to one whose values are not objects. `Object.create(null)` has neither
problem: it is an `OrderedMap`.
-/

universe u

namespace StytchBrowser

/-- What the runtime throws when a property of `undefined` is read or `undefined` is called. -/
inductive TypeError where
  | typeError
  deriving DecidableEq

/-- The names a plain object inherits, `__proto__` apart; each of them is a function. -/
def objectPrototypeNames : List String :=
  ["constructor", "__defineGetter__", "__defineSetter__", "hasOwnProperty", "__lookupGetter__",
    "__lookupSetter__", "isPrototypeOf", "propertyIsEnumerable", "toString", "valueOf",
    "toLocaleString"]

/-- `o[k] = v` for a `v` that is not an object. -/
def setPrimitive {α : Type u} (o : OrderedMap String α) (k : String) (v : α) :
    OrderedMap String α :=
  if k = "__proto__" then o else o.set k v

/-- A key that is an array index: a numeral without leading zeros, below `2^32 - 1`. -/
def arrayIndex (key : String) : Option ℕ :=
  let digits := key.toList
  if digits ≠ [] ∧ digits.all Char.isDigit ∧ (digits.head? = some '0' → digits.length = 1) ∧
      Digits.decode 10 digits < 2 ^ 32 - 1 then some (Digits.decode 10 digits)
  else none

/-- `Object.entries(o)`: the array indices come first, in ascending order. -/
def objectEntries {α : Type u} (o : OrderedMap String α) : List (String × α) :=
  let indices := o.entries.filterMap fun e => (arrayIndex e.1).map (·, e)
  (indices.insertionSort fun a b => a.1 ≤ b.1).map Prod.snd ++
    o.entries.filter fun e => (arrayIndex e.1).isNone

theorem objectEntries_perm {α : Type u} (o : OrderedMap String α) :
    (objectEntries o).Perm o.entries := by
  have hindices : ∀ l : List (String × α),
      (l.filterMap fun e => (arrayIndex e.1).map (·, e)).map Prod.snd =
        l.filter fun e => !(arrayIndex e.1).isNone := by
    intro l
    induction l with
    | nil => rfl
    | cons e l ih =>
      cases h : arrayIndex e.1 with
      | none => rw [List.filterMap_cons_none (by rw [h]; rfl), ih, List.filter_cons_of_neg (by simp [h])]
      | some n =>
        rw [List.filterMap_cons_some (by rw [h]; rfl), List.map_cons, ih,
          List.filter_cons_of_pos (by simp [h])]
  have hsorted := (List.perm_insertionSort (fun a b : ℕ × String × α => a.1 ≤ b.1)
    (o.entries.filterMap fun e => (arrayIndex e.1).map (·, e))).map Prod.snd
  rw [hindices] at hsorted
  exact (hsorted.append_right _).trans (List.perm_append_comm.trans (List.filter_append_perm _ _))

/-- What reading a property yields: `foreign` is an inherited value that nobody wrote under the
key, with its truth value. -/
inductive Property (α : Type u) where
  | undefined
  | value (a : α)
  | foreign (truthy : Bool)

/-- A plain object with values that are objects. -/
structure PlainObject (α : Type u) where
  own : OrderedMap String α
  /-- The prototype, when it was replaced. -/
  proto : Option α

namespace PlainObject

variable {α : Type u}

/-- `{}`. -/
def empty : PlainObject α := ⟨.empty, none⟩

/-- `o[k] = a`. -/
def set (o : PlainObject α) (k : String) (a : α) : PlainObject α :=
  if k = "__proto__" then { o with proto := some a } else { o with own := o.own.set k a }

/-- `o[k]`. What a value has as properties of its own, and whether they are truthy, is given by
`fields`, because a value may become the prototype. -/
def get (fields : α → String → Option Bool) (o : PlainObject α) (k : String) : Property α :=
  match o.own.get k with
  | some a => .value a
  | none =>
      if k = "__proto__" then
        match o.proto with
        | some a => .value a
        | none => .foreign true
      else
        match o.proto.bind fun a => fields a k with
        | some truthy => .foreign truthy
        | none => if k ∈ objectPrototypeNames then .foreign true else .undefined

theorem get_of_own (fields : α → String → Option Bool) {o : PlainObject α} {k : String} {a : α}
    (h : o.own.get k = some a) : o.get fields k = .value a := by
  rw [get, h]

/-- What an object whose prototype was never replaced inherits is truthy. -/
theorem get_of_inherited (fields : α → String → Option Bool) {o : PlainObject α} {k : String}
    (hproto : o.proto = none) (hown : o.own.get k = none)
    (h : k = "__proto__" ∨ k ∈ objectPrototypeNames) : o.get fields k = .foreign true := by
  rcases h with rfl | h
  · simp [get, hown, hproto]
  · simp [get, hown, hproto, h]

theorem get_of_not_inherited (fields : α → String → Option Bool) {o : PlainObject α} {k : String}
    (hproto : o.proto = none) (hown : o.own.get k = none)
    (h : ¬(k = "__proto__" ∨ k ∈ objectPrototypeNames)) : o.get fields k = .undefined := by
  obtain ⟨hne, hname⟩ := not_or.1 h
  simp [get, hown, hproto, hne, hname]

/-- The object that `l.forEach((a) => (o[key(a)] = a))` builds. -/
def index (key : α → String) (l : List α) : PlainObject α :=
  l.foldl (fun o a => o.set (key a) a) empty

/-- The last element of a list with a given key. -/
def lastWith (key : α → String) (l : List α) (k : String) : Option α :=
  (l.filter fun a => key a = k).getLast?

variable {key : α → String}

theorem lastWith_append (l l' : List α) (k : String) :
    lastWith key (l ++ l') k = (lastWith key l' k).or (lastWith key l k) := by
  rw [lastWith, List.filter_append, List.getLast?_append]
  rfl

theorem lastWith_eq_some {l : List α} {k : String} {a : α} (h : lastWith key l k = some a) :
    a ∈ l ∧ key a = k := by
  have ha := List.mem_of_getLast? h
  simpa using ha

theorem lastWith_eq_none {l : List α} {k : String} :
    lastWith key l k = none ↔ ∀ a ∈ l, key a ≠ k := by
  rw [lastWith, List.getLast?_eq_none_iff, List.filter_eq_nil_iff]
  simp

/-- Where the keys are distinct, the last element with a key is the only one. -/
theorem lastWith_of_nodup {l : List α} (hl : (l.map key).Nodup) {k : String} {a : α} :
    lastWith key l k = some a ↔ a ∈ l ∧ key a = k := by
  refine ⟨lastWith_eq_some, fun ⟨ha, hk⟩ => ?_⟩
  cases hb : lastWith key l k with
  | none => exact absurd hk (lastWith_eq_none.1 hb a ha)
  | some b =>
    obtain ⟨hbl, hbk⟩ := lastWith_eq_some hb
    rw [List.inj_on_of_nodup_map hl hbl ha (hbk.trans hk.symm)]

theorem lastWith_concat (l : List α) (a : α) (k : String) :
    lastWith key (l ++ [a]) k = if key a = k then some a else lastWith key l k := by
  rw [lastWith_append]
  by_cases hk : key a = k <;> simp [lastWith, hk]

theorem own_set (o : PlainObject α) (k k' : String) (a : α) :
    (o.set k a).own.get k' =
      if k' = k ∧ k ≠ "__proto__" then some a else o.own.get k' := by
  unfold set
  by_cases hk : k = "__proto__"
  · simp [hk]
  · simp [hk, OrderedMap.get_set]

theorem proto_set (o : PlainObject α) (k : String) (a : α) :
    (o.set k a).proto = if k = "__proto__" then some a else o.proto := by
  unfold set
  split_ifs <;> rfl

theorem index_concat (l : List α) (a : α) : index key (l ++ [a]) = (index key l).set (key a) a := by
  rw [index, List.foldl_append]
  rfl

theorem own_index (l : List α) (k : String) :
    (index key l).own.get k = if k = "__proto__" then none else lastWith key l k := by
  induction l using List.reverseRecOn with
  | nil => simp [index, empty, lastWith]
  | append_singleton l a ih =>
    rw [index_concat, own_set, lastWith_concat, ih]
    by_cases hk : k = "__proto__"
    · have hne : ¬ (k = key a ∧ key a ≠ "__proto__") := fun h => h.2 (h.1 ▸ hk)
      rw [if_neg hne, if_pos hk, if_pos hk]
    · by_cases hak : key a = k
      · have hpos : k = key a ∧ key a ≠ "__proto__" := ⟨hak.symm, hak ▸ hk⟩
        rw [if_pos hpos, if_neg hk, if_pos hak]
      · have hneg : ¬ (k = key a ∧ key a ≠ "__proto__") := fun h => hak h.1.symm
        rw [if_neg hneg, if_neg hk, if_neg hk, if_neg hak]

theorem proto_index (l : List α) : (index key l).proto = lastWith key l "__proto__" := by
  induction l using List.reverseRecOn with
  | nil => rfl
  | append_singleton l a ih => rw [index_concat, proto_set, lastWith_concat, ih]

/-- What reading an index yields: the last element with the key, else what is inherited. -/
theorem get_index (fields : α → String → Option Bool) (l : List α) (k : String) :
    (index key l).get fields k =
      match lastWith key l k with
      | some a => .value a
      | none =>
          if k = "__proto__" then .foreign true
          else
            match (lastWith key l "__proto__").bind fun a => fields a k with
            | some truthy => .foreign truthy
            | none => if k ∈ objectPrototypeNames then .foreign true else .undefined := by
  unfold get
  rw [own_index, proto_index]
  by_cases hk : k = "__proto__"
  · subst hk
    rw [if_pos rfl]
    cases lastWith key l "__proto__" <;> rfl
  · rw [if_neg hk]
    cases lastWith key l k with
    | some a => rfl
    | none => simp only [if_neg hk]

end PlainObject

end StytchBrowser
