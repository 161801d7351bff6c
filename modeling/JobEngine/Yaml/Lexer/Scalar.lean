import JobEngine.Yaml.Lexer.Basic

/-!
# Reading YAML scalars

Three kinds of scalars, each read from where the lexer stands:

* **plain** scalars end at `: ` (a colon before a blank), at ` #`, at a document marker at
  the start of a line, in flow context at `,`, `?`, `[`, `]`, `{` or `}`, and in block context at
  a line indented no deeper than the enclosing block;
* **quoted** scalars, single (`''` stands for a quote) or double (with backslash escapes,
  among them `\x`, `\u` and `\U` with two, four and eight hexadecimal digits);
* **block** scalars, literal (`|`) or folded (`>`), with an optional chomping indicator
  (`-` strips the final line breaks, `+` keeps them all) and an optional indentation digit.

Line breaks inside plain and quoted scalars **fold**: a single break becomes a space, and
each further empty line a line feed. Folded block scalars fold the same way, except around
more-indented lines.

## Main Definitions

* `LexM.scanPlain` — a plain scalar.
* `LexM.scanQuoted` — a single- or double-quoted scalar.
* `LexM.scanBlock` — a literal or folded block scalar.
-/

namespace JobEngine.Yaml

/-- Text being gathered for a scalar whose line breaks fold: the text so far, the first
line break after it, the further breaks, the blanks after it, and whether the last thing
read was a line break. -/
structure Folding where
  out : Array Char := #[]
  leadingBreak : List Char := []
  trailingBreaks : List Char := []
  whitespaces : List Char := []
  leadingBlanks : Bool := false

namespace Folding

/-- Puts the pending blanks or line breaks into the text: a single line feed folds into a
space, further line breaks stay; other breaks are kept as they are. -/
def flush (f : Folding) : Folding :=
  if f.leadingBlanks then
    let out :=
      if f.leadingBreak.head? == some '\n' then
        if f.trailingBreaks.isEmpty then f.out.push ' ' else f.out ++ f.trailingBreaks.toArray
      else f.out ++ f.leadingBreak.toArray ++ f.trailingBreaks.toArray
    { f with out, leadingBreak := [], trailingBreaks := [], leadingBlanks := false }
  else { f with out := f.out ++ f.whitespaces.toArray, whitespaces := [] }

/-- The text gathered. -/
def text (f : Folding) : String := String.ofList f.out.toList

end Folding

namespace LexM

open Lexer

/-- Whether a document marker (`---` or `...` followed by a blank) starts here, at the start
of a line. -/
def atDocumentMarker : LexM Bool := do
  let m ← mark
  let c0 ← peekAt 0
  let c1 ← peekAt 1
  let c2 ← peekAt 2
  let c3 ← peekAt 3
  return m.column == 0 && ((c0 == '-' && c1 == '-' && c2 == '-') ||
    (c0 == '.' && c1 == '.' && c2 == '.')) && isBlankOrEnd c3

/-- The fuel of a loop that moves over at least one character each round. -/
def budget : LexM Nat := return (← get).text.size + 2

/-- Reads the non-blank characters of a plain scalar, up to an indicator that ends it. -/
def plainWord (f : Folding) (stop : Mark) : Nat → LexM (Folding × Mark)
  | 0 => pure (f, stop)
  | fuel + 1 => do
    let c ← cur
    if isBlankOrEnd c then return (f, stop)
    let next ← peekAt 1
    let flow := (← get).flowLevel > 0
    if (c == ':' && isBlankOrEnd next) ||
        (flow && (c == ',' || c == '?' || c == '[' || c == ']' || c == '{' || c == '}')) then
      return (f, stop)
    let f := if f.leadingBlanks || !f.whitespaces.isEmpty then f.flush else f
    let c ← read
    plainWord { f with out := f.out.push c } (← mark) fuel

/-- Reads the blanks and line breaks after a word of a plain scalar. A tab in the
indentation of a continuation line is an error. -/
def plainBlanks (start : Mark) (indent : Int) (f : Folding) : Nat → LexM Folding
  | 0 => pure f
  | fuel + 1 => do
    let c ← cur
    if isBlank c then
      if f.leadingBlanks && ((← mark).column : Int) < indent && c == '\t' then
        fail "while scanning a plain scalar" start
          "found a tab character that violates indentation"
      if !f.leadingBlanks then
        let c ← read
        plainBlanks start indent { f with whitespaces := f.whitespaces ++ [c] } fuel
      else
        skip
        plainBlanks start indent f fuel
    else if isBreak c then
      let br ← readLine
      if !f.leadingBlanks then
        plainBlanks start indent
          { f with whitespaces := [], leadingBreak := br, leadingBlanks := true } fuel
      else plainBlanks start indent { f with trailingBreaks := f.trailingBreaks ++ br } fuel
    else return f

/-- Reads the words and blanks of a plain scalar until it ends. -/
def plainRun (start : Mark) (indent : Int) (f : Folding) (stop : Mark) :
    Nat → LexM (Folding × Mark)
  | 0 => pure (f, stop)
  | fuel + 1 => do
    if ← atDocumentMarker then return (f, stop)
    if (← cur) == '#' then return (f, stop)
    let (f, stop) ← plainWord f stop (← budget)
    let c ← cur
    if !(isBlank c || isBreak c) then return (f, stop)
    let f ← plainBlanks start indent f (← budget)
    let s ← get
    if s.flowLevel == 0 && (s.mark.column : Int) < indent then return (f, stop)
    plainRun start indent f stop fuel

/-- Reads a plain scalar. After one that ran over a line break, a simple key may follow. -/
def scanPlain : LexM Token := do
  let indent := (← get).indent + 1
  let start ← mark
  let (f, stop) ← plainRun start indent {} start (← budget)
  if f.leadingBlanks then modify fun s => { s with simpleKeyAllowed := true }
  return { kind := .scalar f.text .plain, start, stop }

/-- The character a one-letter escape stands for, if it is one. -/
def escapeChar? : Char → Option Char
  | '0' => some '\x00'
  | 'a' => some '\x07'
  | 'b' => some '\x08'
  | 't' => some '\t'
  | '\t' => some '\t'
  | 'n' => some '\n'
  | 'v' => some '\x0b'
  | 'f' => some '\x0c'
  | 'r' => some '\r'
  | 'e' => some '\x1b'
  | ' ' => some ' '
  | '"' => some '"'
  | '/' => some '/'
  | '\\' => some '\\'
  | 'N' => some '\u0085'
  | '_' => some '\u00a0'
  | 'L' => some '\u2028'
  | 'P' => some '\u2029'
  | c => if c.toNat == 39 then some c else none

/-- The number of hexadecimal digits a code escape takes. -/
def escapeWidth : Char → Nat
  | 'x' => 2
  | 'u' => 4
  | 'U' => 8
  | _ => 0

/-- Reads `width` hexadecimal digits as a code point. -/
def hexDigits (start : Mark) (width : Nat) : LexM Nat := do
  let mut value := 0
  for k in List.range width do
    let c ← peekAt k
    if !isHex c then
      fail "while parsing a quoted scalar" start "did not find expected hexdecimal number"
    value := value * 16 + hexValue c
  return value

/-- Reads the non-blank characters of a quoted scalar up to its closing quote, a blank or
an escaped line break; true when an escaped line break was read. -/
def quotedWord (start : Mark) (single : Bool) (f : Folding) : Nat → LexM (Folding × Bool)
  | 0 => pure (f, false)
  | fuel + 1 => do
    let c ← cur
    if isBlankOrEnd c then return (f, false)
    let next ← peekAt 1
    let isQuote := c.toNat == 39
    if single && isQuote && next.toNat == 39 then
      skip
      skip
      quotedWord start single { f with out := f.out.push c } fuel
    else if single && isQuote then return (f, false)
    else if !single && c == '"' then return (f, false)
    else if !single && c == '\\' && isBreak next then
      skip
      skipLine
      return (f, true)
    else if !single && c == '\\' then
      let width := escapeWidth next
      if width == 0 then
        match escapeChar? next with
        | some e =>
          skip
          skip
          quotedWord start single { f with out := f.out.push e } fuel
        | none => fail "while parsing a quoted scalar" start "found unknown escape character"
      else
        skip
        skip
        let value ← hexDigits start width
        if (0xD800 ≤ value && value ≤ 0xDFFF) || value > 0x10FFFF then
          fail "while parsing a quoted scalar" start "found invalid Unicode character escape code"
        for _ in List.range width do skip
        quotedWord start single { f with out := f.out.push (Char.ofNat value) } fuel
    else
      let c ← read
      quotedWord start single { f with out := f.out.push c } fuel

/-- Reads the blanks and line breaks inside a quoted scalar. -/
def quotedBlanks (f : Folding) : Nat → LexM Folding
  | 0 => pure f
  | fuel + 1 => do
    let c ← cur
    if isBlank c then
      if !f.leadingBlanks then
        let c ← read
        quotedBlanks { f with whitespaces := f.whitespaces ++ [c] } fuel
      else
        skip
        quotedBlanks f fuel
    else if isBreak c then
      let br ← readLine
      if !f.leadingBlanks then
        quotedBlanks { f with whitespaces := [], leadingBreak := br, leadingBlanks := true } fuel
      else quotedBlanks { f with trailingBreaks := f.trailingBreaks ++ br } fuel
    else return f

/-- Reads the content of a quoted scalar up to its closing quote. -/
def quotedRun (start : Mark) (single : Bool) (f : Folding) : Nat → LexM Folding
  | 0 => pure f
  | fuel + 1 => do
    if ← atDocumentMarker then
      fail "while scanning a quoted scalar" start "found unexpected document indicator"
    if isEnd (← cur) then
      fail "while scanning a quoted scalar" start "found unexpected end of stream"
    let (f, escapedBreak) ← quotedWord start single { f with leadingBlanks := false } (← budget)
    let f := { f with leadingBlanks := escapedBreak }
    let c ← cur
    if (single && c.toNat == 39) || (!single && c == '"') then return f
    let f ← quotedBlanks f (← budget)
    let f := if f.leadingBlanks then
        let out :=
          if f.leadingBreak.head? == some '\n' then
            if f.trailingBreaks.isEmpty then f.out.push ' ' else f.out ++ f.trailingBreaks.toArray
          else f.out ++ f.leadingBreak.toArray ++ f.trailingBreaks.toArray
        { f with out, leadingBreak := [], trailingBreaks := [] }
      else { f with out := f.out ++ f.whitespaces.toArray, whitespaces := [] }
    quotedRun start single f fuel

/-- Reads a single- or double-quoted scalar. -/
def scanQuoted (single : Bool) : LexM Token := do
  let start ← mark
  skip
  let f ← quotedRun start single {} (← budget)
  skip
  let style := if single then ScalarStyle.singleQuoted else .doubleQuoted
  return { kind := .scalar f.text style, start, stop := ← mark }

/-- Moves over blanks. -/
def skipBlanks : Nat → LexM Unit
  | 0 => pure ()
  | fuel + 1 => do
    if isBlank (← cur) then
      skip
      skipBlanks fuel

/-- Moves to the end of the line. -/
def skipToBreak : Nat → LexM Unit
  | 0 => pure ()
  | fuel + 1 => do
    if !isBreakOrEnd (← cur) then
      skip
      skipToBreak fuel

/-- Moves over the indentation and empty lines before a line of a block scalar, gathering
the line breaks. When the indentation is not known yet (zero), it becomes the deepest
indentation of those empty lines, at least one more than the enclosing block and at least
one. Returns the indentation, the breaks and where the scalar so far ends. -/
def blockBreaks (start : Mark) (indent : Nat) (breaks : List Char) (stop : Mark)
    (deepest : Nat) : Nat → LexM (Nat × List Char × Mark)
  | 0 => pure (indent, breaks, stop)
  | fuel + 1 => do
    let rec spaces : Nat → LexM Unit
      | 0 => pure ()
      | k + 1 => do
        if (indent == 0 || (← mark).column < indent) && (← cur) == ' ' then
          skip
          spaces k
    spaces (← budget)
    let column := (← mark).column
    let deepest := max deepest column
    if (indent == 0 || column < indent) && (← cur) == '\t' then
      fail "while scanning a block scalar" start
        "found a tab character where an indentation space is expected"
    if !isBreak (← cur) then
      if indent == 0 then
        let enclosing := (← get).indent + 1
        let chosen : Int := max (max (deepest : Int) enclosing) 1
        return (chosen.toNat, breaks, stop)
      return (indent, breaks, stop)
    let br ← readLine
    blockBreaks start indent (breaks ++ br) (← mark) deepest fuel

/-- Reads the lines of a block scalar at its indentation. -/
def blockLines (start : Mark) (literal : Bool) (indent : Nat) (out : Array Char)
    (leadingBreak trailingBreaks : List Char) (leadingBlank : Bool) (stop : Mark) :
    Nat → LexM (Array Char × List Char × List Char × Mark)
  | 0 => pure (out, leadingBreak, trailingBreaks, stop)
  | fuel + 1 => do
    if (← mark).column != indent || isEnd (← cur) then
      return (out, leadingBreak, trailingBreaks, stop)
    let trailingBlank := isBlank (← cur)
    let out :=
      if !literal && !leadingBlank && !trailingBlank && leadingBreak.head? == some '\n' then
        if trailingBreaks.isEmpty then out.push ' ' else out
      else out ++ leadingBreak.toArray
    let out := out ++ trailingBreaks.toArray
    let leadingBlank := isBlank (← cur)
    let rec line (acc : Array Char) : Nat → LexM (Array Char)
      | 0 => pure acc
      | k + 1 => do
        if isBreakOrEnd (← cur) then return acc
        let c ← read
        line (acc.push c) k
    let out ← line out (← budget)
    let br ← readLine
    let (indent', trailing, stop) ← blockBreaks start indent [] stop 0 (← budget)
    blockLines start literal indent' out br trailing leadingBlank stop fuel

/-- Reads a literal (`|`) or folded (`>`) block scalar with its header. -/
def scanBlock (literal : Bool) : LexM Token := do
  let start ← mark
  skip
  let mut chomping : Int := 0
  let mut increment : Nat := 0
  let c ← cur
  if c == '+' || c == '-' then
    chomping := if c == '+' then 1 else -1
    skip
    let d ← cur
    if isDigit d then
      if d == '0' then
        fail "while scanning a block scalar" start "found an indentation indicator equal to 0"
      increment := d.toNat - '0'.toNat
      skip
  else if isDigit c then
    if c == '0' then
      fail "while scanning a block scalar" start "found an indentation indicator equal to 0"
    increment := c.toNat - '0'.toNat
    skip
    let d ← cur
    if d == '+' || d == '-' then
      chomping := if d == '+' then 1 else -1
      skip
  skipBlanks (← budget)
  if (← cur) == '#' then skipToBreak (← budget)
  if !isBreakOrEnd (← cur) then
    fail "while scanning a block scalar" start "did not find expected comment or line break"
  if isBreak (← cur) then skipLine
  let stop ← mark
  let enclosing := (← get).indent
  let indent : Nat :=
    if increment > 0 then (if enclosing ≥ 0 then (enclosing + increment).toNat else increment)
    else 0
  let (indent, trailing, stop) ← blockBreaks start indent [] stop 0 (← budget)
  let (out, leadingBreak, trailing, stop) ←
    blockLines start literal indent #[] [] trailing false stop (← budget)
  let out := if chomping != -1 then out ++ leadingBreak.toArray else out
  let out := if chomping == 1 then out ++ trailing.toArray else out
  let style := if literal then ScalarStyle.literal else .folded
  return { kind := .scalar (String.ofList out.toList) style, start, stop }

end LexM

end JobEngine.Yaml
