import JobEngine.Yaml.Lexer.Scalar

/-!
# Reading YAML node properties and directives

* An **anchor** `&name` or **alias** `*name` is a run of ASCII letters, digits, `_` and `-`,
  followed by a blank or one of `?:,]}%@` and a backquote.
* A **tag** is `!<uri>` (verbatim), `!handle!suffix` with a named handle, `!!suffix`, or
  `!suffix`; a lone `!` is the non-specific tag. A tag must be followed by a blank, or by `,`
  in flow context. URI characters may be escaped as `%` and two hexadecimal digits.
* A **directive** at the start of a line is `%YAML major.minor` or `%TAG handle prefix`;
  any other name is an error.

## Main Definitions

* `LexM.scanAnchor` — an anchor or alias.
* `LexM.scanTag` — a tag, as its handle and suffix.
* `LexM.scanDirective` — a `%YAML` or `%TAG` directive.
-/

namespace JobEngine.Yaml

namespace LexM

open Lexer

/-- Reads characters while they satisfy `p`. -/
def readWhile (p : Char → Bool) (acc : List Char) : Nat → LexM (List Char)
  | 0 => pure acc
  | fuel + 1 => do
    let c ← cur
    if p c then
      skip
      readWhile p (acc ++ [c]) fuel
    else return acc

/-- Reads an anchor (`&`) or an alias (`*`). -/
def scanAnchor (isAlias : Bool) : LexM Token := do
  let start ← mark
  skip
  let name ← readWhile isWordChar [] (← budget)
  let stop ← mark
  let c ← cur
  let ends := isBlankOrEnd c || c == '?' || c == ':' || c == ',' || c == ']' || c == '}' ||
    c == '%' || c == '@' || c.toNat == 96
  if name.isEmpty || !ends then
    fail (if isAlias then "while scanning an alias" else "while scanning an anchor") start
      "did not find expected alphabetic or numeric character"
  let text := String.ofList name
  return { kind := if isAlias then .alias text else .anchor text, start, stop }

/-- Fails while reading a tag, or the tag directive when `directive`. -/
def tagFail (directive : Bool) (start : Mark) (problem : String) : LexM α :=
  fail (if directive then "while parsing a %TAG directive" else "while parsing a tag") start problem

/-- Reads a tag handle: `!`, then letters, then a closing `!` if there is one. In a
directive the handle must be closed (or be `!` alone). -/
def scanTagHandle (directive : Bool) (start : Mark) : LexM (List Char) := do
  if (← cur) != '!' then tagFail directive start "did not find expected '!'"
  skip
  let s ← readWhile isWordChar ['!'] (← budget)
  if (← cur) == '!' then
    skip
    return s ++ ['!']
  if directive && s != ['!'] then tagFail directive start "did not find expected '!'"
  return s

/-- Whether a character may stand in a tag URI; the flow indicators `,[]` only inside
`!<...>`. -/
def isUriChar (verbatim : Bool) (c : Char) : Bool :=
  isWordChar c || ";/?:@&=+$.!~*()%".contains c || c.toNat == 39 ||
    (verbatim && (c == ',' || c == '[' || c == ']'))

/-- The number of bytes of a UTF-8 sequence that starts with `b`, zero when `b` cannot start
one. -/
def utf8Width (b : Nat) : Nat :=
  if b &&& 0x80 == 0x00 then 1
  else if b &&& 0xE0 == 0xC0 then 2
  else if b &&& 0xF0 == 0xE0 then 3
  else if b &&& 0xF8 == 0xF0 then 4
  else 0

/-- Reads a run of `%XX` escapes that spell one UTF-8 character. -/
def scanUriEscapes (directive : Bool) (start : Mark) : LexM Char := do
  let mut bytes : Array UInt8 := #[]
  let mut width := 0
  let mut first := true
  for _ in List.range 4 do
    if !first && bytes.size ≥ width then break
    let c1 ← peekAt 1
    let c2 ← peekAt 2
    if !((← cur) == '%' && isHex c1 && isHex c2) then
      tagFail directive start "did not find URI escaped octet"
    let octet := hexValue c1 * 16 + hexValue c2
    if first then
      width := utf8Width octet
      if width == 0 then tagFail directive start "found an incorrect leading UTF-8 octet"
      first := false
    else if octet &&& 0xC0 != 0x80 then
      tagFail directive start "found an incorrect trailing UTF-8 octet"
    bytes := bytes.push octet.toUInt8
    skip
    skip
    skip
  match String.fromUTF8? (ByteArray.mk bytes) with
  | some s => return s.front
  | none => tagFail directive start "found an incorrect leading UTF-8 octet"

/-- Reads the URI of a tag, after `head` (a handle that turned out to be part of it, whose
`!` is dropped). An empty URI is an error. -/
def scanTagUri (verbatim directive : Bool) (head : List Char) (start : Mark) :
    LexM (List Char) := do
  let rec go (acc : List Char) (seen : Bool) : Nat → LexM (List Char × Bool)
    | 0 => pure (acc, seen)
    | fuel + 1 => do
      let c ← cur
      if !isUriChar verbatim c then return (acc, seen)
      if c == '%' then
        let d ← scanUriEscapes directive start
        go (acc ++ [d]) true fuel
      else
        skip
        go (acc ++ [c]) true fuel
  let (s, seen) ← go (head.drop 1) (!head.isEmpty) (← budget)
  if !seen then tagFail directive start "did not find expected tag URI"
  return s

/-- Reads a tag, returning its handle and suffix: `!<uri>` has an empty handle, `!suffix`
the handle `!`, and a lone `!` an empty handle with the suffix `!`. -/
def scanTag : LexM Token := do
  let start ← mark
  let (handle, suffix) ← if (← peekAt 1) == '<' then do
      skip
      skip
      let suffix ← scanTagUri true false [] start
      if (← cur) != '>' then fail "while scanning a tag" start "did not find the expected '>'"
      skip
      pure ([], suffix)
    else do
      let handle ← scanTagHandle false start
      if handle.length > 1 && handle.head? == some '!' && handle.getLast? == some '!' then
        let suffix ← scanTagUri false false [] start
        pure (handle, suffix)
      else
        let suffix ← scanTagUri false false handle start
        if suffix.isEmpty then pure ([], ['!']) else pure (['!'], suffix)
  let c ← cur
  if !isBlankOrEnd c && ((← get).flowLevel == 0 || c != ',') then
    fail "while scanning a tag" start "did not find expected whitespace or line break"
  return { kind := .tag (String.ofList handle) (String.ofList suffix), start, stop := ← mark }

/-- Reads one number of a `%YAML` directive: one or two digits. -/
def versionNumber (start : Mark) : LexM Nat := do
  let mut value := 0
  let mut length := 0
  for _ in List.range 3 do
    let c ← cur
    if !isDigit c then break
    length := length + 1
    if length > 2 then
      fail "while scanning a %YAML directive" start "found extremely long version number"
    value := value * 10 + (c.toNat - '0'.toNat)
    skip
  if length == 0 then
    fail "while scanning a %YAML directive" start "did not find expected version number"
  return value

/-- Reads a `%YAML` or `%TAG` directive and the rest of its line. -/
def scanDirective : LexM Token := do
  let start ← mark
  skip
  let name ← readWhile isWordChar [] (← budget)
  if name.isEmpty then
    fail "while scanning a directive" start "could not find expected directive name"
  if !isBlankOrEnd (← cur) then
    fail "while scanning a directive" start "found unexpected non-alphabetical character"
  let kind ← match String.ofList name with
    | "YAML" => do
      skipBlanks (← budget)
      let major ← versionNumber start
      if (← cur) != '.' then
        fail "while scanning a %YAML directive" start
          "did not find expected digit or '.' character"
      skip
      let minor ← versionNumber start
      pure (TokenKind.versionDirective major minor)
    | "TAG" => do
      skipBlanks (← budget)
      let handle ← scanTagHandle true start
      if !isBlank (← cur) then
        fail "while scanning a %TAG directive" start "did not find expected whitespace"
      skipBlanks (← budget)
      let pre ← scanTagUri true true [] start
      if !isBlankOrEnd (← cur) then
        fail "while scanning a %TAG directive" start
          "did not find expected whitespace or line break"
      pure (TokenKind.tagDirective (String.ofList handle) (String.ofList pre))
    | _ => fail "while scanning a directive" start "found unknown directive name"
  let stop ← mark
  skipBlanks (← budget)
  if (← cur) == '#' then skipToBreak (← budget)
  if !isBreakOrEnd (← cur) then
    fail "while scanning a directive" start "did not find expected comment or line break"
  if isBreak (← cur) then skipLine
  return { kind, start, stop }

end LexM

end JobEngine.Yaml
