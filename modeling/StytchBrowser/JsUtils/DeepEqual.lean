import StytchBrowser.JsUtils.Json

/-!
# `createDeepEqual`

The comparison of `js-utils/createDeepEqual`, on JSON data and on state objects. The comparison
asks for the keys of `a` with `k in b`, which also finds what `b` inherits from the built-in
prototypes, and then reads `b[k]`; `Operand` is everything such a read can give.
-/

namespace StytchBrowser.DeepEqual

/-- The methods every object inherits. -/
def objectPrototypeMethods : List String :=
  ["constructor", "__defineGetter__", "__defineSetter__", "hasOwnProperty", "__lookupGetter__",
    "__lookupSetter__", "isPrototypeOf", "propertyIsEnumerable", "toString", "valueOf",
    "toLocaleString"]

/-- The further methods an array inherits. -/
def arrayPrototypeMethods : List String :=
  ["at", "concat", "copyWithin", "fill", "find", "findIndex", "findLast", "findLastIndex",
    "lastIndexOf", "pop", "push", "reverse", "shift", "unshift", "slice", "sort", "splice",
    "includes", "indexOf", "join", "keys", "entries", "values", "forEach", "filter", "flat",
    "flatMap", "map", "every", "some", "reduce", "reduceRight", "toReversed", "toSorted",
    "toSpliced", "with"]

/-- What a property read can give. -/
inductive Operand where
  | undefined
  | value (j : Json)
  /-- A built-in method. -/
  | function
  /-- A built-in prototype object: an object without enumerable own keys. -/
  | prototype

/-- What an object inherits under the key `k`. -/
def inherited (k : String) : Option Operand :=
  if k = "__proto__" then some .prototype
  else if k ∈ objectPrototypeMethods then some .function
  else none

namespace Operand

/-- `typeof b === 'object' && b !== null`. -/
def isObject : Operand → Bool
  | .value (.arr _) => true
  | .value (.obj _) => true
  | .prototype => true
  | _ => false

/-- `Object.keys(b)`. -/
def keys : Operand → List String
  | .value (.arr xs) => (List.range xs.length).map toString
  | .value (.obj fields) => fields.map Prod.fst
  | _ => []

/-- The property of `b` under `k`, `none` when `!(k in b)`. -/
def prop (b : Operand) (k : String) : Option Operand :=
  match b with
  | .value (.arr xs) =>
      match xs.zipIdx.find? fun e => toString e.2 = k with
      | some e => some (.value e.1)
      | none =>
          if k = "length" then some (.value (.num xs.length))
          else if k ∈ arrayPrototypeMethods then some .function
          else inherited k
  | .value (.obj fields) => (fields.lookup k).elim (inherited k) fun j => some (.value j)
  | .prototype => inherited k
  | _ => none

/-- `b[k]`. -/
def read (b : Operand) (k : String) : Operand := (b.prop k).getD .undefined

end Operand

mutual

/-- `deepEqual(a, b)` for JSON data `a`. -/
def deepEqual (excl : List String) : Json → Operand → Bool
  | .null, b => match b with
      | .value .null => true
      | _ => false
  | .bool x, b => match b with
      | .value (.bool y) => x == y
      | _ => false
  | .num x, b => match b with
      | .value (.num y) => decide (x = y)
      | _ => false
  | .str x, b => match b with
      | .value (.str y) => x == y
      | _ => false
  | .arr xs, b =>
      b.isObject && xs.length == b.keys.length &&
        ((List.range xs.length).map toString).all (fun k => (b.prop k).isSome) &&
        deepEqualElems excl 0 xs b
  | .obj fields, b =>
      b.isObject && fields.length == b.keys.length &&
        (fields.map Prod.fst).all (fun k => (b.prop k).isSome) && deepEqualFields excl fields b

/-- The comparison of the elements of an array from index `i` on. -/
def deepEqualElems (excl : List String) : ℕ → List Json → Operand → Bool
  | _, [], _ => true
  | i, x :: xs, b =>
      (excl.contains (toString i) || deepEqual excl x (b.read (toString i))) &&
        deepEqualElems excl (i + 1) xs b

/-- The comparison of the fields of an object. -/
def deepEqualFields (excl : List String) : List (String × Json) → Operand → Bool
  | [], _ => true
  | (k, v) :: fields, b =>
      (excl.contains k || deepEqual excl v (b.read k)) && deepEqualFields excl fields b

end

/-! ## State objects -/

/-- The property of a state object under `k`, `none` when `!(k in b)`. -/
def propOf (b : JsObject) (k : String) : Option Operand :=
  (b.get k).elim (inherited k) fun v => some (v.elim .undefined .value)

/-- The comparison of one field of a state object, which may be `undefined`. -/
def deepEqualField (excl : List String) (v : Option Json) (b : Operand) : Bool :=
  match v, b with
  | none, .undefined => true
  | none, _ => false
  | some j, b => deepEqual excl j b

/-- `deepEqual(a, b)` for two state objects. -/
def deepEqualObject (excl : List String) (a b : JsObject) : Bool :=
  a.keys.length == b.keys.length && a.keys.all (fun k => (propOf b k).isSome) &&
    a.entries.all fun e =>
      excl.contains e.1 || deepEqualField excl e.2 ((propOf b e.1).getD .undefined)

/-- `deepEqual(a, b)` for two states, which may be `null`. -/
def deepEqualState (excl : List String) : Option JsObject → Option JsObject → Bool
  | none, none => true
  | some a, some b => deepEqualObject excl a b
  | _, _ => false

/-- An empty array passes for an empty object. -/
example : deepEqual [] (.arr []) (.value (.obj [])) = true := rfl

end StytchBrowser.DeepEqual
