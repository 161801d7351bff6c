import JobEngine.Value.Read
import JobEngine.Clock.Stamp

/-!
# What a YAML scalar means

A scalar's **tag** says what it means. Quoted and block scalars are strings; a plain scalar
without a tag is resolved from its text:

* `~`, `null`, `Null`, `NULL` and the empty text are null;
* `true`, `True`, `TRUE`, `false`, `False`, `FALSE` are truth values (`yes`, `no`, `on` and
  `off` are strings);
* `.inf`, `+.inf`, `-.inf` and `.nan` in three spellings each are special numbers;
* a text starting with a digit or a sign is, after dropping underscores, an integer in base
  10, or with a prefix `0x`, `0o`, `0b` or a leading `0` (octal), that fits in 64 bits
  signed or unsigned; else a decimal floating-point number (`1.5`, `-2e3`, `.5`) that is
  finite; else a date or a date and time (`2001-12-14`, `2001-12-14T21:59:43Z`);
* anything else is a string.

A scalar with an explicit core tag (`!!str`, `!!int`, `!!float`, `!!bool`, `!!null`,
`!!timestamp`) must resolve to that tag, except that an integer may stand for a float. Other
tags leave the text a string.

## Main Definitions

* `Yaml.Scalar` — what a scalar means.
* `Yaml.shortTag` — a core tag written as `!!name`.
* `Yaml.resolve` — the tag and meaning of a scalar's text under a tag.
-/

namespace JobEngine.Yaml

/-- What a scalar means. -/
inductive Scalar where
  | null
  | bool (b : Bool)
  /-- An integer that fits in 64 signed bits. -/
  | int (n : Int)
  /-- An integer that fits only in 64 unsigned bits. -/
  | uint (n : Nat)
  | float (x : Float)
  | str (s : String)
  | timestamp (t : Clock.Stamp)
  deriving Inhabited

/-- The prefix of the core tags. -/
def corePrefix : String := "tag:yaml.org,2002:"

/-- A tag, with the core prefix written as `!!`. -/
def shortTag (tag : String) : String :=
  if tag.startsWith corePrefix then "!!" ++ (tag.drop corePrefix.length).toString else tag

/-- Whether a tag is one that plain scalars resolve to. -/
def isResolvable (tag : String) : Bool :=
  ["", "!!str", "!!bool", "!!int", "!!float", "!!null", "!!timestamp"].contains tag

/-- The meaning of the texts with a fixed meaning. -/
def fixedMeaning (text : String) : Option (String × Scalar) :=
  if ["true", "True", "TRUE"].contains text then some ("!!bool", .bool true)
  else if ["false", "False", "FALSE"].contains text then some ("!!bool", .bool false)
  else if ["", "~", "null", "Null", "NULL"].contains text then some ("!!null", .null)
  else if [".nan", ".NaN", ".NAN"].contains text then some ("!!float", .float (0.0 / 0.0))
  else if [".inf", ".Inf", ".INF", "+.inf", "+.Inf", "+.INF"].contains text then
    some ("!!float", .float (1.0 / 0.0))
  else if ["-.inf", "-.Inf", "-.INF"].contains text then some ("!!float", .float (-1.0 / 0.0))
  else none

/-- The value of a digit in a base, if it is one. -/
def digitIn (base : Nat) (c : Char) : Option Nat :=
  let d :=
    if '0' ≤ c && c ≤ '9' then c.toNat - '0'.toNat
    else if 'a' ≤ c.toLower && c.toLower ≤ 'z' then c.toLower.toNat - 'a'.toNat + 10
    else 99
  if d < base then some d else none

/-- An unsigned integer with an optional base prefix (`0b`, `0o`, `0x`, or `0` for octal),
below `2^64`. -/
def parseUnsigned (s : List Char) : Option Nat := do
  if s.isEmpty then none
  let (base, digits) := match s with
    | '0' :: p :: rest@(_ :: _) =>
      if p.toLower == 'b' then (2, rest)
      else if p.toLower == 'o' then (8, rest)
      else if p.toLower == 'x' then (16, rest)
      else (8, p :: rest)
    | '0' :: rest => (8, rest)
    | _ => (10, s)
  let n ← digits.foldlM (fun acc c => (digitIn base c).map (acc * base + ·)) 0
  if n < Nat.pow 2 64 then some n else none

/-- A signed integer with an optional sign and base prefix, within 64 bits. -/
def parseSigned (s : List Char) : Option Int := do
  let (neg, rest) := match s with
    | '-' :: r => (true, r)
    | '+' :: r => (false, r)
    | r => (false, r)
  let n ← parseUnsigned rest
  if neg then (if n ≤ Nat.pow 2 63 then some (-(n : Int)) else none)
  else if n < Nat.pow 2 63 then some n else none

/-- Whether a text is a decimal number: an optional sign, digits with an optional point and
fraction (or a point and a fraction), and an optional exponent. -/
def isDecimalText (s : List Char) : Bool :=
  let digit (c : Char) := '0' ≤ c && c ≤ '9'
  let s := match s with
    | '-' :: r | '+' :: r => r
    | r => r
  let intPart := s.takeWhile digit
  let rest := s.drop intPart.length
  let (mantissaOk, rest) := match rest with
    | '.' :: r =>
      let frac := r.takeWhile digit
      (!intPart.isEmpty || !frac.isEmpty, r.drop frac.length)
    | r => (!intPart.isEmpty, r)
  let expOk := match rest with
    | [] => true
    | e :: r =>
      if e == 'e' || e == 'E' then
        let r := match r with
          | '-' :: t | '+' :: t => t
          | t => t
        !r.isEmpty && r.all digit
      else false
  mantissaOk && expOk

/-- Whether every underscore of a text stands between two digits. -/
def underscoresBetweenDigits (s : List Char) : Bool :=
  let digit (c : Char) := '0' ≤ c && c ≤ '9'
  let rec go (prevDigit : Bool) : List Char → Bool
    | [] => true
    | '_' :: rest =>
      prevDigit && (match rest with
        | c :: _ => digit c
        | [] => false) && go false rest
    | c :: rest => go (digit c) rest
  go false s

/-- A run of digits in a base, with an optional sign, below `2^64` in magnitude. -/
def digitsIn (base : Nat) (s : List Char) : Option Nat :=
  if s.isEmpty then none
  else
    match s.foldlM (fun acc c => (digitIn base c).map (acc * base + ·)) 0 with
    | some n => if n < Nat.pow 2 64 then some n else none
    | none => none

/-- A signed run of digits in a base that fits in 64 signed bits as an integer, else an
unsigned one that fits in 64 bits as an unsigned integer. -/
def integerIn (base : Nat) (s : List Char) : Option Scalar :=
  let signed : Option Int := match s with
    | '-' :: r => (digitsIn base r).bind fun n => if n ≤ Nat.pow 2 63 then some (-(n : Int)) else none
    | '+' :: r => (digitsIn base r).bind fun n => if n < Nat.pow 2 63 then some (n : Int) else none
    | r => (digitsIn base r).bind fun n => if n < Nat.pow 2 63 then some (n : Int) else none
  match signed with
  | some n => some (.int n)
  | none => (digitsIn base s).map Scalar.uint

/-- The binary64 nearest a decimal text, if it is one and finite. -/
def decimalFloat? (s : String) : Option Float :=
  if isDecimalText s.toList then (Decimal.ofLiteral s).toFloat? else none

/-- The kind of text a first character hints at: `M` for the fixed words, `D` for a digit,
`S` for a sign, `.` for a point, and a blank for anything else. -/
def hintOf (c : Char) : Char :=
  if "yYnNtTfFoO~".contains c then 'M'
  else if '0' ≤ c && c ≤ '9' then 'D'
  else if c == '+' || c == '-' then 'S'
  else if c == '.' then '.'
  else ' '

/-- The tag and meaning of a plain text, looking at `tag` only to allow timestamps. -/
def resolvePlain (tag : String) (text : String) : String × Scalar :=
  let hint := match text.toList with
    | [] => 'N'
    | c :: _ => hintOf c
  if hint == ' ' || tag == "!!str" then ("!!str", .str text)
  else match fixedMeaning text with
    | some r => r
    | none =>
      if hint == '.' then
        let digits := text.toList
        match (if underscoresBetweenDigits digits then
            decimalFloat? (String.ofList (digits.filter (· != '_'))) else none) with
        | some x => ("!!float", .float x)
        | none => ("!!str", .str text)
      else if hint == 'D' || hint == 'S' then
        match (if tag == "" || tag == "!!timestamp" then Clock.Stamp.ofYaml? text else none) with
        | some t => ("!!timestamp", .timestamp t)
        | none =>
          let plain := text.toList.filter (· != '_')
          match parseSigned plain with
          | some n => ("!!int", .int n)
          | none =>
            match (if plain.head? == some '+' then none else parseUnsigned plain) with
            | some n => ("!!int", .uint n)
            | none =>
              match decimalFloat? (String.ofList plain) with
              | some x => ("!!float", .float x)
              | none =>
                let prefixed := match plain with
                  | '0' :: 'b' :: r => integerIn 2 r
                  | '0' :: 'o' :: r => integerIn 8 r
                  | _ => none
                match prefixed with
                | some n => ("!!int", n)
                | none => ("!!str", .str text)
      else ("!!str", .str text)

/-- The tag and meaning of a scalar's text under a tag. A text that does not resolve to its
core tag is refused, except a signed integer standing for a float. -/
def resolve (tag : String) (text : String) : Except String (String × Scalar) :=
  let tag := shortTag tag
  if !isResolvable tag then .ok (tag, .str text)
  else
    let (rtag, v) := resolvePlain tag text
    if tag == "" || tag == rtag || tag == "!!str" then .ok (rtag, v)
    else match tag, v with
      | "!!float", .int n => .ok ("!!float", .float (Float.ofInt n))
      | _, _ => .error ("cannot decode " ++ rtag ++ " `" ++ text ++ "` as a " ++ tag)

end JobEngine.Yaml
