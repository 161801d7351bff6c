import JobEngine.Value
import JobEngine.Decimal.Layout
import JobEngine.Text.Quoted

/-!
# Writing values as JSON

The compact JSON text of a `Value`: no blanks, members in the order the object holds them,
binary64 numbers in `Layout.json`, exact integers in decimal.

## Main Definitions

* `Value.escapeChar` — the text of one character inside a JSON string.
* `Value.jsonString` — a quoted JSON string.
* `Value.render` — the JSON text of a value.

## Design Notes

Strings escape the quote, the backslash and every control character below U+0020, as well as
U+2028 and U+2029, which some script parsers read as line breaks. With `html` set, `<`, `>`
and `&` are escaped too, so that the text can be embedded in a web page; documents sent over
HTTP and hashed are written that way, while plain answers are not.
-/

namespace JobEngine.Value

open JobEngine.Text JobEngine.Decimal

/-- The text of one character inside a JSON string. -/
def escapeChar (html : Bool) (c : Char) : String :=
  match c with
  | '"' => "\\\""
  | '\\' => "\\\\"
  | '\n' => "\\n"
  | '\r' => "\\r"
  | '\t' => "\\t"
  | _ =>
    let n := c.toNat
    if n == 8 then "\\b"
    else if n == 12 then "\\f"
    else if n < 0x20 || n == 0x2028 || n == 0x2029 then "\\u" ++ hexDigits 4 n
    else if html && (c == '<' || c == '>' || c == '&') then "\\u" ++ hexDigits 4 n
    else c.toString

/-- A string as a quoted JSON string. -/
def jsonString (html : Bool) (s : String) : String :=
  "\"" ++ String.join (s.toList.map (escapeChar html)) ++ "\""

/-- The JSON text of a binary64 number; a non-finite number, which JSON cannot hold, is
written `null`. -/
def jsonNumber (x : Float) : String :=
  if x.isNaN || x.isInf then "null" else Layout.json.render x

mutual
/-- The compact JSON text of a value. -/
def render (html : Bool) : Value → String
  | .null => "null"
  | .bool b => if b then "true" else "false"
  | .num x => jsonNumber x
  | .int n => toString n
  | .str s => jsonString html s
  | .arr items => "[" ++ renderItems html items ++ "]"
  | .obj fields => "\x7b" ++ renderFields html fields ++ "\x7d"

/-- Comma-separated JSON texts of list items. -/
def renderItems (html : Bool) : List Value → String
  | [] => ""
  | [x] => render html x
  | x :: rest => render html x ++ "," ++ renderItems html rest

/-- Comma-separated `"key":value` texts of object members. -/
def renderFields (html : Bool) : List (String × Value) → String
  | [] => ""
  | [(k, v)] => jsonString html k ++ ":" ++ render html v
  | (k, v) :: rest => jsonString html k ++ ":" ++ render html v ++ "," ++ renderFields html rest
end

end JobEngine.Value
