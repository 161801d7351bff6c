import JobEngine.Yaml.Token

/-!
# The state of the YAML lexer

The lexer walks a text character by character, keeping its position, and hands out tokens
from a queue. Two pieces of state decide where tokens go that are implied rather than
written:

* **indentation** — in block context, a line more indented than the current block opens a
  new block (a `blockSequenceStart` or `blockMappingStart` token), and a line less indented
  closes blocks (`blockEnd` tokens);
* **simple keys** — a scalar, collection or property may turn out to be a mapping key once a
  `:` follows it on the same line, within 1024 characters. Each flow level remembers where
  its possible key began, by the number of the token that would start it, so that the `key`
  token (and the block mapping start) can be put in front of it afterwards. A key that is
  *required* (one at the indentation of its block) and never finds its `:` is an error.

Positions count characters; the end of the text reads as the character `\x00`, which a
text itself never holds (the reader refuses it). The text is read in portions as the lexer
needs characters, and only the characters read in are checked: a character YAML does not
allow is a problem once the portion that holds it is read.

## Main Definitions

* `Yaml.Lexer` — the lexer's state; `LexM` — computations on it that may find a problem.
* `Lexer.skip`, `Lexer.readLine` — moving over characters and line breaks.
* `saveSimpleKey`, `removeSimpleKey`, `validateKey` — the possible simple keys.
* `rollIndent`, `unrollIndent` — opening and closing blocks.
-/

namespace JobEngine.Yaml

/-- A place where a simple key may start: whether it still may, whether it must, the number
of the token it would start with, and its position. -/
structure SimpleKey where
  possible : Bool := false
  required : Bool := false
  tokenNumber : Nat := 0
  mark : Mark := {}
  deriving Inhabited

/-- The lexer's state. `queue` holds the tokens cut but not yet taken, oldest first;
`tokensTaken` counts those taken. -/
structure Lexer where
  text : Array Char
  mark : Mark := {}
  streamStarted : Bool := false
  streamEnded : Bool := false
  flowLevel : Nat := 0
  indent : Int := -1
  /-- The enclosing indentation levels, innermost first. -/
  indents : List Int := []
  simpleKeyAllowed : Bool := false
  /-- One possible simple key per flow level, the outermost first. -/
  simpleKeys : Array SimpleKey := #[]
  /-- The level whose possible key starts at a token number. -/
  keyLevels : List (Nat × Nat) := []
  queue : List Token := []
  tokensTaken : Nat := 0
  tokenReady : Bool := false
  /-- How many characters have been read in, and checked to be allowed. -/
  checked : Nat := 0
  /-- Where the portions of the text not yet read in end, in characters, in reading order. -/
  portions : List Nat := []

/-- Computations on the lexer that may stop at a problem. -/
abbrev LexM := StateT Lexer (Except Problem)

namespace Lexer

/-- The most indentation levels and flow levels a text may open. -/
def maxDepth : Nat := 10000

/-- Whether a character is a space or a tab. -/
def isBlank (c : Char) : Bool := c == ' ' || c == '\t'

/-- Whether a character breaks a line. -/
def isBreak (c : Char) : Bool :=
  c == '\r' || c == '\n' || c == '\u0085' || c == '\u2028' || c == '\u2029'

/-- Whether a character is the end of the text. -/
def isEnd (c : Char) : Bool := c == '\x00'

/-- Whether a character breaks a line or ends the text. -/
def isBreakOrEnd (c : Char) : Bool := isBreak c || isEnd c

/-- Whether a character is blank, breaks a line or ends the text. -/
def isBlankOrEnd (c : Char) : Bool := isBlank c || isBreak c || isEnd c

/-- Whether a character is an ASCII digit. -/
def isDigit (c : Char) : Bool := '0' ≤ c && c ≤ '9'

/-- Whether a character is a hexadecimal digit. -/
def isHex (c : Char) : Bool := isDigit c || ('a' ≤ c && c ≤ 'f') || ('A' ≤ c && c ≤ 'F')

/-- The value of a hexadecimal digit. -/
def hexValue (c : Char) : Nat :=
  if isDigit c then c.toNat - '0'.toNat
  else if 'a' ≤ c && c ≤ 'f' then c.toNat - 'a'.toNat + 10
  else c.toNat - 'A'.toNat + 10

/-- Whether a character may stand in an anchor or a tag handle: ASCII letters and digits,
`_` and `-`. -/
def isWordChar (c : Char) : Bool :=
  isDigit c || ('a' ≤ c && c ≤ 'z') || ('A' ≤ c && c ≤ 'Z') || c == '_' || c == '-'

/-- Whether YAML allows a character in a text: tab, line feed, carriage return, printable
ASCII, next line, and the printable planes without surrogates and the two non-characters
at the end of the basic plane. -/
def isAllowed (c : Char) : Bool :=
  let n := c.toNat
  n == 0x09 || n == 0x0A || n == 0x0D || (0x20 ≤ n && n ≤ 0x7E) || n == 0x85 ||
    (0xA0 ≤ n && n ≤ 0xD7FF) || (0xE000 ≤ n && n ≤ 0xFFFD) || (0x10000 ≤ n && n ≤ 0x10FFFF)

/-- Where the portions a text is read in end, in characters: the text is read 512 bytes at a
time, and a character that a portion's last byte cuts is read with the next portion, which
then starts at that character. `limit` is the byte offset where the current portion ends,
`pos` the byte offset reached and `n` the characters reached; `widths` are the UTF-8 widths
of the characters left. -/
def portionEnds (limit pos n : Nat) : List Nat → List Nat
  | [] => [n]
  | w :: rest =>
    if pos + w ≤ limit then portionEnds limit (pos + w) (n + 1) rest
    else n :: portionEnds (pos + 512) (pos + w) (n + 1) rest

/-- Checks the characters of the portions that end at or before what is needed, in order:
those of a portion are checked together, when it is read in. Returns the portions left and
how many characters are checked, or the problem of a character YAML does not allow. -/
def readPortions (text : Array Char) (need : Nat) : List Nat → Nat → Except Problem (List Nat × Nat)
  | [], checked => .ok ([], checked)
  | e :: rest, checked =>
    if need < checked then .ok (e :: rest, checked)
    else if (List.range (e - checked)).any (fun i => !isAllowed (text.getD (checked + i) ' ')) then
      .error { stage := .reader, problem := "control characters are not allowed" }
    else readPortions text need rest (max e checked)

end Lexer

namespace LexM

open Lexer

/-- The character `k` places ahead, `\x00` past the end. The text is read in, and checked,
up to that character first. -/
def peekAt (k : Nat) : LexM Char := do
  let s ← get
  let need := s.mark.index + k
  if need ≥ s.checked && !s.portions.isEmpty then
    match readPortions s.text need s.portions s.checked with
    | .ok (portions, checked) => set { s with portions, checked }
    | .error p => throw p
  return (← get).text.getD need '\x00'

/-- The current character. -/
def cur : LexM Char := peekAt 0

/-- The current position. -/
def mark : LexM Mark := return (← get).mark

/-- Moves over one character of the current line. -/
def skip : LexM Unit :=
  modify fun s => { s with mark := { s.mark with index := s.mark.index + 1,
                                                   column := s.mark.column + 1 } }

/-- Moves over one character, returning it. -/
def read : LexM Char := do
  let c ← cur
  skip
  return c

/-- Moves over a line break (a carriage return and line feed count as one). -/
def skipLine : LexM Unit := do
  let c ← cur
  let d ← peekAt 1
  let width := if c == '\r' && d == '\n' then 2 else if isBreak c then 1 else 0
  if width > 0 then
    modify fun s => { s with mark := { index := s.mark.index + width, line := s.mark.line + 1,
                                        column := 0 } }

/-- Moves over a line break, returning how it reads: a line feed for a carriage return, a
line feed, both, or a next-line character; line and paragraph separators as themselves.
Nothing when no line break is here. -/
def readLine : LexM (List Char) := do
  let c ← cur
  let d ← peekAt 1
  let (width, out) :=
    if c == '\r' && d == '\n' then (2, ['\n'])
    else if c == '\r' || c == '\n' || c == '\u0085' then (1, ['\n'])
    else if c == '\u2028' || c == '\u2029' then (1, [c])
    else (0, [])
  if width > 0 then
    modify fun s => { s with mark := { index := s.mark.index + width, line := s.mark.line + 1,
                                        column := 0 } }
  return out

/-- Stops at a problem found by the scanner, here, while reading `context` from
`contextMark`. -/
def fail (context : String) (contextMark : Mark) (problem : String) : LexM α := do
  throw { stage := .scanner, context, contextMark, problem, problemMark := (← get).mark }

/-- Puts a token into the queue, `place` places after the next token to be taken, or last. -/
def insertToken (place : Option Nat) (t : Token) : LexM Unit :=
  modify fun s => match place with
    | some k => { s with queue := s.queue.take k ++ t :: s.queue.drop k }
    | none => { s with queue := s.queue ++ [t] }

/-- Puts a token without content last in the queue. -/
def addToken (kind : TokenKind) (start stop : Mark) : LexM Unit :=
  insertToken none { kind, start, stop }

/-- The number the next token put last will have. -/
def nextTokenNumber : LexM Nat := do
  let s ← get
  return s.tokensTaken + s.queue.length

/-- The possible key of the innermost flow level. -/
def topKey : LexM SimpleKey := do
  let s ← get
  return s.simpleKeys.getD (s.simpleKeys.size - 1) {}

/-- Changes the possible key of a level. -/
def setKey (i : Nat) (k : SimpleKey) : LexM Unit :=
  modify fun s => { s with simpleKeys := s.simpleKeys.set! i k }

/-- Forgets the possible key of the innermost level; an error if it was required. -/
def removeSimpleKey : LexM Unit := do
  let s ← get
  let i := s.simpleKeys.size - 1
  let k := s.simpleKeys.getD i {}
  if k.possible then
    if k.required then fail "while scanning a simple key" k.mark "could not find expected ':'"
    setKey i { k with possible := false }
    modify fun s => { s with keyLevels := s.keyLevels.filter (·.1 != k.tokenNumber) }

/-- Remembers that a simple key may start here, if one may; it is required when it stands
at the indentation of its block. -/
def saveSimpleKey : LexM Unit := do
  let s ← get
  let required := s.flowLevel == 0 && s.indent == (s.mark.column : Int)
  if s.simpleKeyAllowed then
    let key : SimpleKey :=
      { possible := true, required, tokenNumber := ← nextTokenNumber, mark := s.mark }
    removeSimpleKey
    let i := (← get).simpleKeys.size - 1
    setKey i key
    modify fun s =>
      let others := s.keyLevels.filter (·.1 != key.tokenNumber)
      { s with keyLevels := (key.tokenNumber, i) :: others }

/-- Whether the possible key of level `i` may still be a key: it must be on the current line
and at most 1024 characters back. One that may not is forgotten; an error if required. -/
def validateKey (i : Nat) : LexM Bool := do
  let s ← get
  let k := s.simpleKeys.getD i {}
  if !k.possible then return false
  if k.mark.line < s.mark.line || k.mark.index + 1024 < s.mark.index then
    if k.required then fail "while scanning a simple key" k.mark "could not find expected ':'"
    setKey i { k with possible := false }
    return false
  return true

/-- Enters a flow collection: a new level with no possible key. -/
def increaseFlowLevel : LexM Unit := do
  let key : SimpleKey := { tokenNumber := ← nextTokenNumber, mark := ← mark }
  modify fun s => { s with simpleKeys := s.simpleKeys.push key, flowLevel := s.flowLevel + 1 }
  if (← get).flowLevel > maxDepth then
    fail "while increasing flow level" key.mark
      ("exceeded max depth of " ++ toString maxDepth)

/-- Leaves a flow collection. -/
def decreaseFlowLevel : LexM Unit := do
  let s ← get
  if s.flowLevel > 0 then
    let k := s.simpleKeys.getD (s.simpleKeys.size - 1) {}
    set { s with flowLevel := s.flowLevel - 1, simpleKeys := s.simpleKeys.pop,
                 keyLevels := s.keyLevels.filter (·.1 != k.tokenNumber) }

/-- In block context, opens a block at `column` if it is deeper than the current one: the
start token goes before token number `number`, or last. -/
def rollIndent (column : Int) (number : Option Nat) (kind : TokenKind) (spot : Mark) :
    LexM Unit := do
  let s ← get
  if s.flowLevel == 0 && s.indent < column then
    set { s with indents := s.indent :: s.indents, indent := column }
    if (← get).indents.length > maxDepth then
      fail "while increasing indentation level" (← topKey).mark
        ("exceeded max depth of " ++ toString maxDepth)
    let place := number.map (· - s.tokensTaken)
    insertToken place { kind, start := spot, stop := spot }

/-- In block context, closes every block deeper than `column`; the end tokens stand just
before `scanMark`. -/
def unrollIndent (column : Int) (scanMark : Mark) (fuel : Nat) : LexM Unit := do
  let s ← get
  if s.flowLevel > 0 then return
  let spot := { scanMark with index := scanMark.index - 1 }
  match fuel with
  | 0 => pure ()
  | fuel + 1 =>
    if s.indent > column then
      addToken .blockEnd spot spot
      modify fun s => match s.indents with
        | i :: rest => { s with indent := i, indents := rest }
        | [] => { s with indent := -1 }
      unrollIndent column scanMark fuel

/-- Closes every block deeper than `column`. -/
def unroll (column : Int) (scanMark : Mark) : LexM Unit := do
  unrollIndent column scanMark ((← get).indents.length + 1)

end LexM

end JobEngine.Yaml
