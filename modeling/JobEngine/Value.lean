/-!
# Dynamic values

Job inputs, outputs and operation metadata are free-form JSON documents. `Value` is their
type. Numbers that arrive from a document are binary64 (`num`); integers that the library
itself produces, such as timestamps and counters, are exact (`int`).

## Main Definitions

* `Value` — null, booleans, numbers, strings, lists and objects.
* `Value.map` — an object with sorted, distinct keys, the last binding of a key winning.
* `Value.field?` and the `as…?` views — reading a document.

## Design Notes

Objects are association lists and keep the order they are built in. Objects that stand for
key–value maps are built with `Value.map`, which sorts them, so that writing a map always
lists its keys in increasing order; records with a fixed field order are built with `obj`
directly.
-/

namespace JobEngine

/-- A JSON document. -/
inductive Value where
  | null
  | bool (b : Bool)
  /-- A binary64 number. -/
  | num (x : Float)
  /-- An exact integer. -/
  | int (n : Int)
  | str (s : String)
  | arr (items : List Value)
  /-- Members in the order they are written. -/
  | obj (fields : List (String × Value))
  deriving Inhabited

namespace Value

/-- Binds `k` to `v` in a key-sorted association list, replacing an earlier binding. -/
def bindSorted (k : String) (v : Value) : List (String × Value) → List (String × Value)
  | [] => [(k, v)]
  | (k', v') :: rest =>
    if k < k' then (k, v) :: (k', v') :: rest
    else if k = k' then (k, v) :: rest
    else (k', v') :: bindSorted k v rest

/-- An object for a key–value map: keys sorted by code point, and of several bindings of a key
the last one kept. -/
def map (kvs : List (String × Value)) : Value :=
  .obj (kvs.foldl (fun acc (k, v) => bindSorted k v acc) [])

/-- The member `k` of an object; `none` for a missing key or a value that is no object. -/
def field? (v : Value) (k : String) : Option Value :=
  match v with
  | .obj fs => (fs.find? (·.1 == k)).map (·.2)
  | _ => none

/-- The text of a string value. -/
def asString? : Value → Option String
  | .str s => some s
  | _ => none

/-- The members of an object. -/
def asObject? : Value → Option (List (String × Value))
  | .obj fs => some fs
  | _ => none

/-- The items of a list. -/
def asList? : Value → Option (List Value)
  | .arr xs => some xs
  | _ => none

/-- The number a numeric value stands for, as a double. -/
def asFloat? : Value → Option Float
  | .num x => some x
  | .int n => some (Float.ofInt n)
  | _ => none

/-- Whether the value is `null`. -/
def isNull : Value → Bool
  | .null => true
  | _ => false

/-- A string member of an object, or `""` when it is missing or not a string. -/
def stringField (v : Value) (k : String) : String :=
  ((v.field? k).bind asString?).getD ""

/-- The map with `k` bound to `x`, keeping keys sorted; a value that is no object becomes the
one-member map. -/
def insert (v : Value) (k : String) (x : Value) : Value :=
  match v with
  | .obj fs => .obj (bindSorted k x fs)
  | _ => .obj [(k, x)]

/-- A list of strings as a list value. -/
def strings (xs : List String) : Value := .arr (xs.map .str)

/-- An optional string, `null` when absent. -/
def optString : Option String → Value
  | some s => .str s
  | none => .null

end Value

end JobEngine
