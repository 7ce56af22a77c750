import Mathlib.Data.Int.Notation
import StytchBrowser.Lib.OrderedMap

/-!
# Values that cross a frame boundary

`Value` is the data that a script hands to `postMessage`: primitives, arrays and plain objects, and
the two kinds of values that a structured clone refuses. A number is represented by the text that
`String` gives it.

* `cloneable v`: a structured clone of `v` is made. It is `v` again; otherwise the clone throws.
* `text v`: the text of `v` in a template string, `none` where the conversion throws. An object with a
  `toString` of its own has none: no value that was cloned can be called.
* `jsonText v`: the text that `JSON.stringify` gives, `none` where it throws.
-/

namespace StytchBrowser

inductive Value where
  | undefined
  | null
  | bool (b : Bool)
  | number (text : String)
  | bigint (n : ℤ)
  | string (s : String)
  | function (source : String)
  | symbol
  | array (elems : List Value)
  | object (fields : List (String × Value))

/-- The enumerable fields of an object. -/
abbrev Fields := OrderedMap String Value

namespace Value

mutual

/-- Whether a structured clone accepts the value. -/
def cloneable : Value → Bool
  | .function _ => false
  | .symbol => false
  | .array elems => cloneableElems elems
  | .object fields => cloneableFields fields
  | .undefined | .null | .bool _ | .number _ | .bigint _ | .string _ => true

def cloneableElems : List Value → Bool
  | [] => true
  | v :: elems => cloneable v && cloneableElems elems

def cloneableFields : List (String × Value) → Bool
  | [] => true
  | (_, v) :: fields => cloneable v && cloneableFields fields

end

/-- `!!v`. -/
def truthy : Value → Bool
  | .undefined => false
  | .null => false
  | .bool b => b
  | .number text => text != "0" && text != "NaN"
  | .bigint n => n != 0
  | .string s => s != ""
  | .function _ | .symbol | .array _ | .object _ => true

/-- `v?.` goes on. -/
def nullish : Value → Bool
  | .undefined => true
  | .null => true
  | .bool _ | .number _ | .bigint _ | .string _ | .function _ | .symbol | .array _ | .object _ => false

/-- `v.k` for a `k` that is on no prototype, of a `v` that is not nullish. -/
def field (v : Value) (k : String) : Value :=
  match v with
  | .object fields => (fields.lookup k).getD .undefined
  | _ => .undefined

mutual

def text : Value → Option String
  | .undefined => some "undefined"
  | .null => some "null"
  | .bool b => some (if b then "true" else "false")
  | .number text => some text
  | .bigint n => some (toString n)
  | .string s => some s
  | .function source => some source
  | .symbol => none
  | .array elems => (textElems elems).map fun texts => ",".intercalate texts
  | .object fields => if (fields.lookup "toString").isSome then none else some "[object Object]"

/-- A nullish element is written as nothing. -/
def textElems : List Value → Option (List String)
  | [] => some []
  | v :: elems =>
    match if v.nullish then some "" else text v, textElems elems with
    | some t, some ts => some (t :: ts)
    | _, _ => none

end

/-- One character inside a JSON string. -/
def escapeChar (c : Char) : String :=
  if c = '"' then "\\\""
  else if c = '\\' then "\\\\"
  else if c.toNat = 8 then "\\b"
  else if c.toNat = 9 then "\\t"
  else if c.toNat = 10 then "\\n"
  else if c.toNat = 12 then "\\f"
  else if c.toNat = 13 then "\\r"
  else if c.toNat < 32 then
    "\\u00" ++ String.ofList [Nat.digitChar (c.toNat / 16), Nat.digitChar (c.toNat % 16)]
  else c.toString

def quote (s : String) : String := "\"" ++ String.join (s.toList.map escapeChar) ++ "\""

mutual

/-- The text, or `undefined` for a value that JSON cannot express; `none` where a bigint throws. -/
def jsonText : Value → Option (Option String)
  | .undefined => some none
  | .null => some (some "null")
  | .bool b => some (some (if b then "true" else "false"))
  | .number text =>
    some (some (if text = "NaN" ∨ text = "Infinity" ∨ text = "-Infinity" then "null" else text))
  | .bigint _ => none
  | .string s => some (some (quote s))
  | .function _ => some none
  | .symbol => some none
  | .array elems => (jsonElems elems).map fun texts => some ("[" ++ ",".intercalate texts ++ "]")
  | .object fields =>
    (jsonFields fields).map fun texts => some ("\x7b" ++ ",".intercalate texts ++ "\x7d")

/-- An element that JSON cannot express is written `null`. -/
def jsonElems : List Value → Option (List String)
  | [] => some []
  | v :: elems =>
    match jsonText v, jsonElems elems with
    | some t, some ts => some (t.getD "null" :: ts)
    | _, _ => none

/-- A field that JSON cannot express is left out. -/
def jsonFields : List (String × Value) → Option (List String)
  | [] => some []
  | (k, v) :: fields =>
    match jsonText v, jsonFields fields with
    | some (some t), some ts => some ((quote k ++ ":" ++ t) :: ts)
    | some none, some ts => some ts
    | _, _ => none

end

end Value

/-- The fields of an object are cloneable. -/
def Fields.cloneable (m : Fields) : Bool := m.entries.all fun e => e.2.cloneable

theorem Fields.cloneable_iff {m : Fields} :
    m.cloneable = true ↔ ∀ k v, m.get k = some v → v.cloneable = true := by
  unfold Fields.cloneable
  rw [List.all_eq_true]
  constructor
  · intro h k v hv
    exact h (k, v) ((m.get_eq_some_iff k v).1 hv)
  · intro h e he
    exact h e.1 e.2 ((m.get_eq_some_iff e.1 e.2).2 he)

end StytchBrowser
