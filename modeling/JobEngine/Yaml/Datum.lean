import JobEngine.Clock.Stamp
import JobEngine.Value.Write
import JobEngine.Decimal.Layout

/-!
# Values bound from YAML

What a YAML document binds to keeps more than JSON can say: an integer is signed or
unsigned, a timestamp is a timestamp, and a map with string keys differs from a map whose
keys may be of any kind. Three text forms of such values matter:

* the **plain** form that names a map key when keys of any kind are written as strings
  (`1`, `1.5`, `true`, `<nil>`, `2001-12-14 00:00:00 +0000 UTC`);
* the **literal** form in which an error shows a collection used as a map key
  (`[]interface {}{"a", 0x8000000000000000}`), maps in key order;
* the **JSON** value it becomes when written as JSON and read back: every number a binary64,
  timestamps as RFC 3339 text, and map keys as their plain form. A number that is not finite,
  or a timestamp JSON cannot write, has no JSON value; the first such, in key order, is the
  error.

## Main Definitions

* `Yaml.Datum` — a bound value.
* `Yaml.Datum.sameKey` — whether two values are the same map key.
* `Yaml.Datum.plain`, `Yaml.Datum.literal` — the plain and literal forms.
* `Yaml.Datum.toJson` — the JSON value.
-/

namespace JobEngine.Yaml

/-- A value bound from YAML. -/
inductive Datum where
  | null
  | bool (b : Bool)
  /-- An integer that fits in 64 signed bits. -/
  | int (n : Int)
  /-- An integer that fits only in 64 unsigned bits. -/
  | uint (n : Nat)
  | float (x : Float)
  | str (s : String)
  | time (t : Clock.Stamp)
  | seq (items : List Datum)
  /-- A map with string keys, in the order its keys were bound. -/
  | strMap (entries : List (String × Datum))
  /-- A map with keys of any kind, in the order its keys were bound. -/
  | anyMap (entries : List (Datum × Datum))
  deriving Inhabited

namespace Datum

/-- Whether two values are the same map key: equal scalars of the same kind. -/
def sameKey : Datum → Datum → Bool
  | .null, .null => true
  | .bool a, .bool b => a == b
  | .int a, .int b => a == b
  | .uint a, .uint b => a == b
  | .float a, .float b => a == b
  | .str a, .str b => a == b
  | .time a, .time b => a.sameKey b
  | _, _ => false

/-- The rank of a key's kind in the order of map keys: null first, then the kinds by the
names of their types. -/
def rank : Datum → Nat
  | .null => 0
  | .bool _ => 1
  | .float _ => 2
  | .int _ => 3
  | .str _ => 4
  | .time _ => 5
  | .uint _ => 6
  | .seq _ => 7
  | .strMap _ => 8
  | .anyMap _ => 9

/-- Whether key `a` comes no later than key `b`: by kind, then by value; a float that is not
a number comes first among floats, and timestamps go by nanoseconds, then by instant. -/
def keyLe (a b : Datum) : Bool :=
  if a.rank != b.rank then a.rank < b.rank
  else match a, b with
    | .bool x, .bool y => !x || y
    | .float x, .float y => x.isNaN || (!y.isNaN && x ≤ y)
    | .int x, .int y => x ≤ y
    | .uint x, .uint y => x ≤ y
    | .str x, .str y => x ≤ y
    | .time x, .time y =>
      x.nanos < y.nanos || (x.nanos == y.nanos && x.unixSeconds ≤ y.unixSeconds)
    | _, _ => true

/-- The plain text of a number. -/
def floatText (x : Float) : String := Decimal.Layout.general.render x

mutual
/-- The plain form: numbers in shortest form, timestamps as displayed, `<nil>` for null,
lists as `[a b]` and maps as `map[k:v]` in key order. -/
def plain : Datum → String
  | .null => "<nil>"
  | .bool b => if b then "true" else "false"
  | .int n => toString n
  | .uint n => toString n
  | .float x => floatText x
  | .str s => s
  | .time t => t.display
  | .seq items => "[" ++ " ".intercalate (plainItems items) ++ "]"
  | .strMap entries =>
    "map[" ++ " ".intercalate ((plainStrEntries entries).mergeSort (fun a b => a.1 ≤ b.1) |>.map (·.2)) ++ "]"
  | .anyMap entries =>
    "map[" ++ " ".intercalate ((plainAnyEntries entries).mergeSort (fun a b => keyLe a.1 b.1) |>.map (·.2)) ++ "]"

/-- The plain forms of list items. -/
def plainItems : List Datum → List String
  | [] => []
  | x :: rest => plain x :: plainItems rest

/-- The plain forms `k:v` of the entries of a map with string keys, by key. -/
def plainStrEntries : List (String × Datum) → List (String × String)
  | [] => []
  | (k, v) :: rest => (k, k ++ ":" ++ plain v) :: plainStrEntries rest

/-- The plain forms `k:v` of the entries of a map with keys of any kind, by key. -/
def plainAnyEntries : List (Datum × Datum) → List (Datum × String)
  | [] => []
  | (k, v) :: rest => (k, plain k ++ ":" ++ plain v) :: plainAnyEntries rest
end

mutual
/-- The literal form: strings quoted, unsigned integers in hexadecimal with `0x`, null as
`interface {}(nil)`, timestamps as `time.Date(…)`, lists as `[]interface {}{…}` and maps as
`map[string]interface {}{…}` or `map[interface {}]interface {}{…}` in key order. -/
def literal : Datum → String
  | .null => "interface \x7b\x7d(nil)"
  | .bool b => if b then "true" else "false"
  | .int n => toString n
  | .uint n => "0x" ++ String.ofList (Nat.toDigits 16 n)
  | .float x => floatText x
  | .str s => Text.quote s
  | .time t => t.literal
  | .seq items => "[]interface \x7b\x7d\x7b" ++ ", ".intercalate (literalItems items) ++ "\x7d"
  | .strMap entries =>
    "map[string]interface \x7b\x7d\x7b" ++
      ", ".intercalate ((literalStrEntries entries).mergeSort (fun a b => a.1 ≤ b.1) |>.map (·.2)) ++
      "\x7d"
  | .anyMap entries =>
    "map[interface \x7b\x7d]interface \x7b\x7d\x7b" ++
      ", ".intercalate ((literalAnyEntries entries).mergeSort (fun a b => keyLe a.1 b.1) |>.map (·.2)) ++
      "\x7d"

/-- The literal forms of list items. -/
def literalItems : List Datum → List String
  | [] => []
  | x :: rest => literal x :: literalItems rest

/-- The literal forms `"k":v` of the entries of a map with string keys, by key. -/
def literalStrEntries : List (String × Datum) → List (String × String)
  | [] => []
  | (k, v) :: rest => (k, Text.quote k ++ ":" ++ literal v) :: literalStrEntries rest

/-- The literal forms `k:v` of the entries of a map with keys of any kind, by key. -/
def literalAnyEntries : List (Datum × Datum) → List (Datum × String)
  | [] => []
  | (k, v) :: rest => (k, literal k ++ ":" ++ literal v) :: literalAnyEntries rest
end

/-- The message of a value JSON cannot write. -/
def unwritable (why : String) : String := "json: " ++ why

/-- Map members, one per key, the last binding kept. -/
def keyed {α : Type} : List (String × α) → List (String × α)
  | [] => []
  | (k, v) :: rest => (k, v) :: (keyed rest).filter (·.1 != k)

/-- The members in key order, or the first failure in that order. -/
def firstFailure : List (String × Except String Value) → Except String (List (String × Value))
  | [] => .ok []
  | (k, r) :: rest => do pure ((k, ← r) :: (← firstFailure rest))

/-- Map members written as JSON: one per key, in key order, the first failure in that order
being the map's. -/
def writeMembers (ms : List (String × Except String Value)) : Except String Value :=
  (.obj ·) <$> firstFailure ((keyed ms).mergeSort (fun a b => a.1 ≤ b.1))

mutual
/-- The JSON value: written as JSON and read back. Maps are written with their keys in
order, and the first value that cannot be written, in that order, is the error. -/
def toJson : Datum → Except String Value
  | .null => .ok .null
  | .bool b => .ok (.bool b)
  | .int n => .ok (.num (Float.ofInt n))
  | .uint n => .ok (.num (Float.ofNat n))
  | .float x =>
    if x.isNaN || x.isInf then .error (unwritable ("unsupported value: " ++ floatText x))
    else .ok (.num x)
  | .str s => .ok (.str s)
  | .time t =>
    match t.jsonText with
    | .ok s => .ok (.str s)
    | .error e => .error (unwritable ("error calling MarshalJSON for type *time.Time: " ++ e))
  | .seq items => (.arr ·) <$> itemsToJson items
  | .strMap entries => writeMembers (membersToJson entries)
  | .anyMap entries => writeMembers (anyMembersToJson entries)

/-- The JSON values of list items; the first failure is the list's. -/
def itemsToJson : List Datum → Except String (List Value)
  | [] => .ok []
  | x :: rest => do pure ((← toJson x) :: (← itemsToJson rest))

/-- The JSON values of the members of a map with string keys. -/
def membersToJson : List (String × Datum) → List (String × Except String Value)
  | [] => []
  | (k, x) :: rest => (k, toJson x) :: membersToJson rest

/-- The JSON values of the members of a map with keys of any kind, under the plain forms
of their keys. -/
def anyMembersToJson : List (Datum × Datum) → List (String × Except String Value)
  | [] => []
  | (k, x) :: rest => (plain k, toJson x) :: anyMembersToJson rest
end

end Datum

end JobEngine.Yaml
