import JobEngine.Value.Read

/-!
# Reading numbers and truth values from text

Settings arrive as text. Integers are read in base 10 with an optional sign and must fit in
64 bits; floating-point numbers in decimal or hexadecimal notation, with `inf`, `infinity`
and `nan` in any case; truth values from a fixed list of spellings.

## Main Definitions

* `parseInt64?` — a signed 64-bit decimal integer.
* `roundBinary?` — the binary64 nearest to `m · 2^e`.
* `parseFloat?` — a binary64 in decimal or hexadecimal notation.
* `parseBool?` — `1 t T TRUE true True` and `0 f F FALSE false False`.

## Design Notes

A decimal is rounded correctly however many digits it has. Hexadecimal notation needs a
`p` exponent (`0x1p-2`). Underscores may separate digits, and a base prefix from a digit,
but nothing else. A number too large for binary64 is refused, one too small reads as zero.
-/

namespace JobEngine.Text

/-- Whether a character is an ASCII digit. -/
def isDigit (c : Char) : Bool := '0' ≤ c && c ≤ '9'

/-- The value of a string of ASCII digits. -/
def digitsValue (ds : List Char) : Nat := ds.foldl (fun a c => a * 10 + (c.toNat - '0'.toNat)) 0

/-- A signed 64-bit integer in base 10: an optional sign and at least one digit. -/
def parseInt64? (s : String) : Option Int :=
  let (neg, ds) := match s.toList with
    | '-' :: r => (true, r)
    | '+' :: r => (false, r)
    | r => (false, r)
  if ds.isEmpty || !ds.all isDigit then none
  else
    let n : Int := digitsValue ds
    let v := if neg then -n else n
    if v < -Int.pow 2 63 || v ≥ Int.pow 2 63 then none else some v

/-- `n` shifted right by `k` bits, rounded to nearest with ties to even. -/
def shiftRound (n k : Nat) : Nat :=
  let q := n / Nat.pow 2 k
  let r := n % Nat.pow 2 k
  let half := if k = 0 then 0 else Nat.pow 2 (k - 1)
  if k = 0 then n
  else if r > half || (r == half && q % 2 == 1) then q + 1 else q

/-- The binary64 nearest to `m · 2^e`, ties to even; `none` when it is too large to be
finite. -/
def roundBinary? (m : Nat) (e : Int) : Option Float :=
  if m = 0 then some 0
  else
    let top : Int := (Nat.log2 m : Int) + e
    if top > 1024 then none else if top < -1100 then some 0 else
    -- the exponent of the last significand bit: 52 below the top, but not below -1074
    let quantum : Int := max (top - 52) (-1074)
    let q := if quantum ≤ e then m * Nat.pow 2 (e - quantum).toNat else shiftRound m (quantum - e).toNat
    -- rounding up may carry into a new bit; the value is `q · 2^quantum`
    if (Nat.log2 q : Int) + quantum > 1023 then none
    else some ((Float.ofNat q).scaleB quantum)

/-- The length of the common prefix of a text and a lowercase word, ignoring ASCII case. -/
def commonPrefixIgnoreCase (s : List Char) (word : String) : Nat :=
  ((s.zip word.toList).takeWhile fun (a, b) => a.toLower == b).length

/-- Whether the underscores of a number literal each stand between two digits, or between a
base prefix and a digit. -/
def underscoresOk (s : List Char) : Bool :=
  let s := match s with
    | '-' :: r | '+' :: r => r
    | r => r
  let (hex, body, start) := match s with
    | '0' :: b :: r =>
      if b.toLower == 'x' then (true, r, '0')
      else if b.toLower == 'b' || b.toLower == 'o' then (false, r, '0')
      else (false, s, '^')
    | _ => (false, s, '^')
  let step (saw : Char) (c : Char) : Option Char :=
    if isDigit c || (hex && 'a' ≤ c.toLower && c.toLower ≤ 'f') then some '0'
    else if c == '_' then (if saw == '0' then some '_' else none)
    else if saw == '_' then none
    else some '!'
  match body.foldlM step start with
  | some saw => saw != '_'
  | none => false

/-- Splits a mantissa from the rest: the characters up to the first one that is neither a
digit, an underscore nor the first point. -/
def spanMantissa (base : Nat) (cs : List Char) : List Char × List Char :=
  let rec go (dot : Bool) : List Char → List Char × List Char
    | [] => ([], [])
    | c :: rest =>
      let digit := isDigit c || (base == 16 && 'a' ≤ c.toLower && c.toLower ≤ 'f')
      if digit || c == '_' then let (a, b) := go dot rest; (c :: a, b)
      else if c == '.' && !dot then let (a, b) := go true rest; (c :: a, b)
      else ([], c :: rest)
  go false cs

/-- The value of a digit character in a base of at most 16. -/
def digitOf (c : Char) : Nat :=
  if isDigit c then c.toNat - '0'.toNat else c.toLower.toNat - 'a'.toNat + 10

/-- Reads `[sign] digits [. digits] [exponent]` in decimal (`e`) or hexadecimal (`0x…p…`)
notation, the whole text, to a sign, an integer significand and the power of the base
(10, or 2 for hexadecimal) that scales it. -/
def readFloatLiteral (s : List Char) : Option (Bool × Bool × Nat × Int) := do
  let (neg, rest) := match s with
    | '-' :: r => (true, r)
    | '+' :: r => (false, r)
    | r => (false, r)
  let (hex, rest) := match rest with
    | '0' :: x :: c :: r => if x.toLower == 'x' then (true, c :: r) else (false, rest)
    | _ => (false, rest)
  let base := if hex then 16 else 10
  let (mant, rest) := spanMantissa base rest
  let digits := mant.filter (fun c => c != '_' && c != '.')
  if digits.isEmpty then none
  let fracLen := ((mant.dropWhile (· != '.')).drop 1).filter (· != '_') |>.length
  let m := digits.foldl (fun a c => a * base + digitOf c) 0
  let scale : Int := if hex then -(4 * fracLen : Int) else -(fracLen : Int)
  let expChar := if hex then 'p' else 'e'
  let (e, rest) ← match rest with
    | c :: r =>
      if c.toLower == expChar then
        let (eneg, r) := match r with
          | '-' :: t => (true, t)
          | '+' :: t => (false, t)
          | t => (false, t)
        match r with
        | d :: _ =>
          if !isDigit d then none
          else
            let eds := r.takeWhile fun c => isDigit c || c == '_'
            let v : Int := digitsValue (eds.filter isDigit)
            some (if eneg then -v else v, r.drop eds.length)
        | [] => none
      else if hex then none else some (0, c :: r)
    | [] => if hex then none else some (0, [])
  if !rest.isEmpty then none
  if s.contains '_' && !underscoresOk s then none
  return (neg, hex, m, e + scale)

/-- A binary64 written in decimal or hexadecimal notation, or as an infinity or not-a-number.
`none` when the text is malformed or the number too large. -/
def parseFloat? (str : String) : Option Float :=
  let s := str.toList
  let (sign, afterSign) := match s with
    | '-' :: r => (-1.0, r)
    | '+' :: r => (1.0, r)
    | r => (1.0, r)
  let infLen := commonPrefixIgnoreCase afterSign "infinity"
  if (infLen == 3 || infLen == 8) && afterSign.length == infLen then
    some (sign / 0.0)
  else if s.length == 3 && commonPrefixIgnoreCase s "nan" == 3 then some (0.0 / 0.0)
  else
    match readFloatLiteral s with
    | none => none
    | some (neg, hex, m, e) =>
      let signed (x : Float) : Float := if neg then -x else x
      if hex then (roundBinary? m e).map signed
      else (Decimal.toFloat? { negative := neg, mantissa := m, exp10 := e })

/-- A truth value spelled `1 t T TRUE true True` or `0 f F FALSE false False`. -/
def parseBool? (s : String) : Option Bool :=
  if ["1", "t", "T", "TRUE", "true", "True"].contains s then some true
  else if ["0", "f", "F", "FALSE", "false", "False"].contains s then some false
  else none

end JobEngine.Text
