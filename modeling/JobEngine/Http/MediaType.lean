import JobEngine.Text.Blank
import JobEngine.Text.Case

/-!
# Media types

A media type such as `application/json; charset=utf-8` is a type, an optional subtype after
a slash, and parameters `; name=value`, where a value is a token or a quoted string. Type and
parameter names are compared without regard to case. A name given twice must carry the same
value; a trailing lone `;` is allowed.

## Main Definitions

* `MediaType.parse` — the lower-case media type of a header value, or why it is malformed.
-/

namespace JobEngine.Http.MediaType

/-- The characters that separate tokens. -/
def separators : List Char := "()<>@,;:\\\"/[]?=".toList

/-- Whether a character may stand in a token: printable ASCII other than a separator. -/
def isTokenChar (c : Char) : Bool :=
  0x20 < c.toNat && c.toNat < 0x7f && !separators.contains c

/-- The longest token at the start of a text, and the rest. -/
def token (cs : List Char) : List Char × List Char := (cs.takeWhile isTokenChar, cs.dropWhile isTokenChar)

/-- A quoted string after its opening quote: its contents and the rest after the closing
quote. A backslash before a separator escapes it; a line break or a missing closing quote
makes it no value. -/
def quoted (acc : List Char) : List Char → Option (List Char × List Char)
  | [] => none
  | '"' :: rest => some (acc.reverse, rest)
  | '\\' :: c :: rest =>
    if separators.contains c then quoted (c :: acc) rest else quoted ('\\' :: acc) (c :: rest)
  | c :: rest => if c == '\r' || c == '\n' then none else quoted (c :: acc) rest

/-- A parameter value at the start of a text: a quoted string or a token. -/
def value (cs : List Char) : Option (List Char × List Char) :=
  match cs with
  | [] => some ([], [])
  | '"' :: rest => quoted [] rest
  | _ => some (token cs)

/-- Skips leading blanks. -/
def skipBlank (cs : List Char) : List Char := cs.dropWhile Text.isBlank

/-- A parameter `; name = value` at the start of a text: its lower-case name, its value and
the rest; none when the text does not start with one. -/
def param (cs : List Char) : Option (String × String × List Char) := do
  let rest ← match skipBlank cs with
    | ';' :: r => some r
    | _ => none
  let (name, rest) := token (skipBlank rest)
  if name.isEmpty then none
  let rest ← match skipBlank rest with
    | '=' :: r => some (skipBlank r)
    | _ => none
  let (v, rest2) ← value rest
  if v.isEmpty && rest2 == rest then none
  some ((String.ofList name).toLower, String.ofList v, rest2)

/-- Why a media type is malformed. -/
inductive Malformed where
  | noMediaType
  | noSlash
  | noSubtype
  | afterSubtype
  | badParameter
  | duplicateParameter
  deriving DecidableEq, Repr

/-- Checks the type and subtype part. -/
def checkType (cs : List Char) : Except Malformed Unit :=
  let (ty, rest) := token cs
  if ty.isEmpty then .error .noMediaType
  else match rest with
    | [] => .ok ()
    | '/' :: r =>
      let (sub, rest) := token r
      if sub.isEmpty then .error .noSubtype
      else if rest.isEmpty then .ok () else .error .afterSubtype
    | _ => .error .noSlash

/-- Reads the parameters after the type; `seen` holds those read so far, keyed by name. -/
def params (seen : List (String × String)) : Nat → List Char → Except Malformed Unit
  | 0, _ => .ok ()
  | fuel + 1, cs =>
    let cs := skipBlank cs
    if cs.isEmpty then .ok ()
    else match param cs with
      | none =>
        if Text.trimBlank (String.ofList cs) == ";" then .ok () else .error .badParameter
      | some (k, v, rest) =>
        match seen.lookup k with
        | some old => if old == v then params seen fuel rest else .error .duplicateParameter
        | none => params ((k, v) :: seen) fuel rest

/-- The lower-case media type of a header value such as `Application/JSON; charset=utf-8`,
without its parameters. -/
def parse (text : String) : Except Malformed String := do
  let cs := text.toList
  let base := cs.takeWhile (· != ';')
  let type := Text.trimBlank (Text.lower (String.ofList base))
  checkType type.toList
  params [] (cs.length + 1) (cs.drop base.length)
  pure type

end JobEngine.Http.MediaType
