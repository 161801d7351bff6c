import JobEngine.Value
import JobEngine.Decimal.Layout

/-!
# Plain text of dynamic values

The default text of a value inside a message: strings bare, numbers in general layout
(`1.5`, `1e+20`), a missing value as `<nil>`, lists as `[a b]` and maps as `map[k:v]`
with their keys in order.

## Main Definitions

* `Value.display` — the plain text of a value.
-/

namespace JobEngine.Value

mutual
/-- The plain text of a value. -/
def display : Value → String
  | .null => "<nil>"
  | .bool b => toString b
  | .num x => Decimal.Layout.general.render x
  | .int n => toString n
  | .str s => s
  | .arr xs => "[" ++ displayItems xs ++ "]"
  | .obj kvs => "map[" ++ displayFields kvs ++ "]"

/-- The texts of list items, separated by spaces. -/
def displayItems : List Value → String
  | [] => ""
  | [x] => display x
  | x :: rest => display x ++ " " ++ displayItems rest

/-- The texts `key:value` of map entries, separated by spaces. -/
def displayFields : List (String × Value) → String
  | [] => ""
  | [(k, v)] => k ++ ":" ++ display v
  | (k, v) :: rest => k ++ ":" ++ display v ++ " " ++ displayFields rest
end

end JobEngine.Value
