import JobEngine.Value
import JobEngine.Text.Quoted

/-!
# Reading JSON documents

Reading is in two stages. `Doc.parse` checks the syntax and builds a `Doc`, which keeps
number literals as written and every object member in order; `Doc.toValue` then turns a
document into a `Value`, reading each number as the nearest binary64 and keeping the last of
several members with one key.

## Main Definitions

* `Doc` — a syntactically valid document.
* `SyntaxFault` — why a text is no document, with the message that reports it.
* `Doc.parseAll` — the whole text is one document, blanks around it allowed.
* `Doc.parseFirst` — the first document of a stream; what follows it is not read.
* `Doc.toValue` — the value a document denotes.

## Design Notes

The parser reads characters, and each nested value consumes at least one of them, so the
length of the text bounds the recursion depth: that length is the fuel.

A fault names the character where the text stopped being a prefix of a document and what was
expected there. A character outside ASCII is reported by its first UTF-8 byte read as a
Latin-1 character, since the check runs over bytes.
-/

namespace JobEngine

/-- A syntactically valid JSON document, as written. -/
inductive Doc where
  | null
  | bool (b : Bool)
  /-- A number literal, such as `-12.5e3`. -/
  | num (literal : String)
  | str (s : String)
  | arr (items : List Doc)
  /-- Members in document order, repeated keys included. -/
  | obj (members : List (String × Doc))
  deriving Inhabited

/-- Why a text is not a JSON document. -/
inductive SyntaxFault where
  /-- The text ended inside a document. -/
  | unexpectedEnd
  /-- A character that cannot stand where it does; `context` says what was expected. -/
  | invalid (c : Char) (context : String)
  /-- A stream held only blanks. -/
  | empty
  deriving Repr, BEq

namespace SyntaxFault

/-- The message of a syntax fault when the whole text must be one document. -/
def message : SyntaxFault → String
  | .unexpectedEnd => "unexpected end of JSON input"
  | .invalid c ctx => "invalid character " ++ Text.quoteSingle c ++ " " ++ ctx
  | .empty => "unexpected end of JSON input"

/-- The message of a syntax fault when reading the first document of a stream: running out
of text is reported as an end of file, after a partial document as an unexpected one. -/
def streamMessage : SyntaxFault → String
  | .unexpectedEnd => "unexpected EOF"
  | .empty => "EOF"
  | f => f.message

end SyntaxFault

namespace Doc

/-- The character by which a fault reports `c`: its first UTF-8 byte, read as Latin-1. -/
def reportedChar (c : Char) : Char :=
  let n := c.toNat
  if n < 0x80 then c
  else if n < 0x800 then Char.ofNat (0xC0 + n / 64)
  else if n < 0x10000 then Char.ofNat (0xE0 + n / 4096)
  else Char.ofNat (0xF0 + n / 262144)

/-- A fault at the character `c`. -/
def bad (c : Char) (ctx : String) : SyntaxFault := .invalid (reportedChar c) ctx

/-- JSON blanks: space, tab, line feed and carriage return. -/
def isBlank (c : Char) : Bool := c == ' ' || c == '\t' || c == '\n' || c == '\r'

/-- Drops leading blanks. -/
def skipBlank (cs : List Char) : List Char := cs.dropWhile isBlank

/-- The value of a hexadecimal digit. -/
def hexVal? (c : Char) : Option Nat :=
  if '0' ≤ c && c ≤ '9' then some (c.toNat - '0'.toNat)
  else if 'a' ≤ c && c ≤ 'f' then some (c.toNat - 'a'.toNat + 10)
  else if 'A' ≤ c && c ≤ 'F' then some (c.toNat - 'A'.toNat + 10)
  else none

/-- Reads the four hexadecimal digits of a `\u` escape. -/
def readHex4 (cs : List Char) : Except SyntaxFault (Nat × List Char) :=
  match cs with
  | a :: b :: c :: d :: rest =>
    match hexVal? a, hexVal? b, hexVal? c, hexVal? d with
    | some x, some y, some z, some w => .ok (((x * 16 + y) * 16 + z) * 16 + w, rest)
    | none, _, _, _ => .error (bad a "in \\u hexadecimal character escape")
    | _, none, _, _ => .error (bad b "in \\u hexadecimal character escape")
    | _, _, none, _ => .error (bad c "in \\u hexadecimal character escape")
    | _, _, _, none => .error (bad d "in \\u hexadecimal character escape")
  | _ =>
    -- fewer than four characters left: report the first non-digit, else the end
    match cs.find? (fun c => (hexVal? c).isNone) with
    | some c => .error (bad c "in \\u hexadecimal character escape")
    | none => .error .unexpectedEnd

/-- The character of a UTF-16 code unit pair or single unit; a lone surrogate becomes
U+FFFD. -/
def unitChar (n : Nat) : Char :=
  if 0xD800 ≤ n && n < 0xE000 then Char.ofNat 0xFFFD else Char.ofNat n

/-- Reads the body of a string after its opening quote, up to and including the closing
quote. `acc` holds the characters read so far, reversed. -/
def readString (fuel : Nat) (acc : List Char) (cs : List Char) :
    Except SyntaxFault (String × List Char) :=
  match fuel with
  | 0 => .error .unexpectedEnd
  | fuel + 1 =>
    match cs with
    | [] => .error .unexpectedEnd
    | '"' :: rest => .ok (String.ofList acc.reverse, rest)
    | '\\' :: rest =>
      match rest with
      | [] => .error .unexpectedEnd
      | e :: rest' =>
        match e with
        | '"' => readString fuel ('"' :: acc) rest'
        | '\\' => readString fuel ('\\' :: acc) rest'
        | '/' => readString fuel ('/' :: acc) rest'
        | 'b' => readString fuel (Char.ofNat 8 :: acc) rest'
        | 'f' => readString fuel (Char.ofNat 12 :: acc) rest'
        | 'n' => readString fuel ('\n' :: acc) rest'
        | 'r' => readString fuel ('\r' :: acc) rest'
        | 't' => readString fuel ('\t' :: acc) rest'
        | 'u' =>
          match readHex4 rest' with
          | .error f => .error f
          | .ok (hi, rest'') =>
            if 0xD800 ≤ hi && hi < 0xDC00 then
              -- a high surrogate joins a following low surrogate escape; otherwise it
              -- alone becomes U+FFFD and the next escape is read on its own
              match rest'' with
              | '\\' :: 'u' :: more =>
                match readHex4 more with
                | .ok (lo, after) =>
                  if 0xDC00 ≤ lo && lo < 0xE000 then
                    readString fuel
                      (Char.ofNat (0x10000 + (hi - 0xD800) * 0x400 + (lo - 0xDC00)) :: acc) after
                  else readString fuel (Char.ofNat 0xFFFD :: acc) rest''
                | .error _ => readString fuel (Char.ofNat 0xFFFD :: acc) rest''
              | _ => readString fuel (Char.ofNat 0xFFFD :: acc) rest''
            else readString fuel (unitChar hi :: acc) rest''
        | other => .error (bad other "in string escape code")
    | c :: rest =>
      if c.toNat < 0x20 then .error (bad c "in string literal")
      else readString fuel (c :: acc) rest

/-- Reads decimal digits. -/
def digitsPrefix (cs : List Char) : List Char × List Char :=
  (cs.takeWhile Char.isDigit, cs.dropWhile Char.isDigit)

/-- Reads a number literal whose first character is `-` or a digit. -/
def readNumber (cs : List Char) : Except SyntaxFault (String × List Char) := do
  let (sign, cs) := match cs with
    | '-' :: rest => (['-'], rest)
    | _ => ([], cs)
  let (intPart, cs) ← match cs with
    | '0' :: rest => pure (['0'], rest)
    | c :: _ =>
      if c.isDigit then pure (digitsPrefix cs) else throw (bad c "in numeric literal")
    | [] => throw .unexpectedEnd
  let (fracPart, cs) ← match cs with
    | '.' :: rest =>
      match rest with
      | c :: _ =>
        if c.isDigit then
          let (ds, more) := digitsPrefix rest
          pure ('.' :: ds, more)
        else throw (bad c "after decimal point in numeric literal")
      | [] => throw .unexpectedEnd
    | _ => pure ([], cs)
  let (expPart, cs) ← match cs with
    | e :: rest =>
      if e == 'e' || e == 'E' then
        let (sgn, rest) := match rest with
          | '+' :: r => (['+'], r)
          | '-' :: r => (['-'], r)
          | r => ([], r)
        match rest with
        | c :: _ =>
          if c.isDigit then
            let (ds, more) := digitsPrefix rest
            pure (e :: sgn ++ ds, more)
          else throw (bad c "in exponent of numeric literal")
        | [] => throw .unexpectedEnd
      else pure ([], cs)
    | [] => pure ([], cs)
  pure (String.ofList (sign ++ intPart ++ fracPart ++ expPart), cs)

/-- Reads the rest of a literal word (`true`, `false`, `null`) after its first letter. -/
def readWord (word : String) (rest : List Char) (cs : List Char) :
    Except SyntaxFault (List Char) :=
  match rest, cs with
  | [], cs => .ok cs
  | w :: ws, c :: more =>
    if c == w then readWord word ws more
    else .error (bad c ("in literal " ++ word ++ " (expecting " ++ Text.quoteSingle w ++ ")"))
  | _ :: _, [] => .error .unexpectedEnd

mutual
/-- Reads one value after optional blanks. -/
def readValue (fuel : Nat) (cs : List Char) : Except SyntaxFault (Doc × List Char) :=
  match fuel with
  | 0 => .error .unexpectedEnd
  | fuel + 1 =>
    match skipBlank cs with
    | [] => .error .unexpectedEnd
    | c :: rest =>
      match c with
      | '{' => readObject fuel [] true rest
      | '[' => readArray fuel [] true rest
      | '"' => do
        let (s, more) ← readString (rest.length + 1) [] rest
        pure (.str s, more)
      | 't' => do let more ← readWord "true" ['r', 'u', 'e'] rest; pure (.bool true, more)
      | 'f' => do let more ← readWord "false" ['a', 'l', 's', 'e'] rest; pure (.bool false, more)
      | 'n' => do let more ← readWord "null" ['u', 'l', 'l'] rest; pure (.null, more)
      | _ =>
        if c == '-' || c.isDigit then do
          let (lit, more) ← readNumber (c :: rest)
          pure (.num lit, more)
        else .error (bad c "looking for beginning of value")

/-- Reads array items after `[` or after a comma; `first` marks the place right after `[`,
where `]` may close an empty array. -/
def readArray (fuel : Nat) (acc : List Doc) (first : Bool) (cs : List Char) :
    Except SyntaxFault (Doc × List Char) :=
  match fuel with
  | 0 => .error .unexpectedEnd
  | fuel + 1 =>
    match skipBlank cs with
    | ']' :: rest => if first then .ok (.arr [], rest) else .error (bad ']' "looking for beginning of value")
    | cs' => do
      let (item, more) ← readValue fuel cs'
      match skipBlank more with
      | ',' :: rest => readArray fuel (item :: acc) false rest
      | ']' :: rest => pure (.arr (item :: acc).reverse, rest)
      | c :: _ => throw (bad c "after array element")
      | [] => throw .unexpectedEnd

/-- Reads object members after `{` or after a comma. -/
def readObject (fuel : Nat) (acc : List (String × Doc)) (first : Bool) (cs : List Char) :
    Except SyntaxFault (Doc × List Char) :=
  match fuel with
  | 0 => .error .unexpectedEnd
  | fuel + 1 =>
    match skipBlank cs with
    | '}' :: rest =>
      if first then .ok (.obj [], rest) else .error (bad '}' "looking for beginning of object key string")
    | '"' :: rest => do
      let (key, more) ← readString (rest.length + 1) [] rest
      match skipBlank more with
      | ':' :: afterColon =>
        let (v, more') ← readValue fuel afterColon
        match skipBlank more' with
        | ',' :: rest' => readObject fuel ((key, v) :: acc) false rest'
        | '}' :: rest' => pure (.obj ((key, v) :: acc).reverse, rest')
        | c :: _ => throw (bad c "after object key:value pair")
        | [] => throw .unexpectedEnd
      | c :: _ => throw (bad c "after object key")
      | [] => throw .unexpectedEnd
    | c :: _ => .error (bad c "looking for beginning of object key string")
    | [] => .error .unexpectedEnd
end

/-- The whole text as one document, with blanks allowed around it. -/
def parseAll (text : String) : Except SyntaxFault Doc := do
  let cs := text.toList
  let (d, rest) ← readValue (cs.length + 1) cs
  match skipBlank rest with
  | [] => pure d
  | c :: _ => throw (bad c "after top-level value")

/-- The first document of a stream of documents. A stream of blanks only is `empty`. -/
def parseFirst (text : String) : Except SyntaxFault Doc := do
  let cs := text.toList
  if (skipBlank cs).isEmpty then throw .empty
  let (d, _) ← readValue (cs.length + 1) cs
  pure d

end Doc

/-- A number literal as mantissa digits and a power of ten: `-12.5e3` is `(true, 125, 2)`. -/
structure Decimal where
  negative : Bool
  mantissa : Nat
  exp10 : Int

/-- The decimal of a number literal; characters other than digits, sign, point and exponent
are not expected. -/
def Decimal.ofLiteral (lit : String) : Decimal :=
  let cs := lit.toList
  let (neg, cs) := match cs with
    | '-' :: r => (true, r)
    | '+' :: r => (false, r)
    | r => (false, r)
  let mant := cs.takeWhile (fun c => c != 'e' && c != 'E')
  let expo := (cs.dropWhile (fun c => c != 'e' && c != 'E')).drop 1
  let intDigits := mant.takeWhile (· != '.')
  let fracDigits := (mant.dropWhile (· != '.')).drop 1
  let m := (intDigits ++ fracDigits).foldl (fun a c => a * 10 + (c.toNat - '0'.toNat)) 0
  let e : Int := match expo with
    | '-' :: ds => -((String.ofList ds).toNat?.getD 0 : Int)
    | '+' :: ds => ((String.ofList ds).toNat?.getD 0 : Int)
    | ds => ((String.ofList ds).toNat?.getD 0 : Int)
  { negative := neg, mantissa := m, exp10 := e - fracDigits.length }

/-- The number of decimal digits of `n`, at least one. -/
def digitCount (n : Nat) : Nat := (toString n).length

/-- The nearest binary64 to a decimal, ties to even; `none` when it is too large in
magnitude to be finite. A decimal too small for the smallest subnormal reads as zero. -/
def Decimal.toFloat? (d : Decimal) : Option Float :=
  let signed (x : Float) : Float := if d.negative then -x else x
  if d.mantissa = 0 then some (signed 0)
  else
    let magnitude : Int := (digitCount d.mantissa : Int) + d.exp10
    if magnitude > 310 then none
    else if magnitude < -330 then some (signed 0)
    else
      let x := if 0 ≤ d.exp10 then Float.ofScientific d.mantissa false d.exp10.toNat
        else Float.ofScientific d.mantissa true (-d.exp10).toNat
      if x.isInf then none else some (signed x)

/-- Why a document could not become a value: a number beyond binary64 range. -/
structure RangeFault where
  literal : String
  deriving Repr

/-- The message of a range fault. -/
def RangeFault.message (f : RangeFault) : String :=
  "json: cannot unmarshal number " ++ f.literal ++ " into Go value of type float64"

mutual
/-- The value a document denotes: numbers become binary64 and objects become maps. -/
def Doc.toValue : Doc → Except RangeFault Value
  | .null => .ok .null
  | .bool b => .ok (.bool b)
  | .num lit =>
    match (Decimal.ofLiteral lit).toFloat? with
    | some x => .ok (.num x)
    | none => .error ⟨lit⟩
  | .str s => .ok (.str s)
  | .arr items => do pure (.arr (← Doc.itemsToValues items))
  | .obj members => do pure (Value.map (← Doc.membersToValues members))

/-- The values of list items. -/
def Doc.itemsToValues : List Doc → Except RangeFault (List Value)
  | [] => .ok []
  | d :: rest => do pure ((← d.toValue) :: (← Doc.itemsToValues rest))

/-- The values of object members, in document order. -/
def Doc.membersToValues : List (String × Doc) → Except RangeFault (List (String × Value))
  | [] => .ok []
  | (k, d) :: rest => do pure ((k, ← d.toValue) :: (← Doc.membersToValues rest))
end

end JobEngine
