import JobEngine.Yaml.Lexer.Property

/-!
# Cutting a YAML text into tokens

Tokens are cut on demand: whoever reads them asks for the next one, and the lexer cuts
until it has at least three tokens waiting and the next one cannot still turn out to start
a simple key. A problem in the text is found when the lexer gets to it, so a text with a
mistake after its first document may still yield that document.

Before each token the lexer moves over blanks, comments and line breaks. A tab may only
be moved over in flow context or where no simple key may start; at the start of a block line
it is an error. Then it closes blocks deeper than the column it stands at, and looks at the
next characters to decide what the token is.

## Main Definitions

* `LexM.fetchNext` — cuts the next token (and the tokens it implies).
* `Lexer.peek`, `Lexer.take` — the next waiting token, and taking it.
* `Lexer.start` — a lexer for a text; a byte order mark at its start is dropped.
-/

namespace JobEngine.Yaml

namespace LexM

open Lexer

/-- Starts the stream: no block is open, and a simple key may start. -/
def fetchStreamStart : LexM Unit := do
  modify fun s => { s with indent := -1, simpleKeys := s.simpleKeys.push {},
                           simpleKeyAllowed := true, streamStarted := true }
  let m ← mark
  addToken .streamStart m m

/-- Ends the stream: the position moves to a new line, every block closes and no key is
possible any more. -/
def fetchStreamEnd : LexM Unit := do
  modify fun s => if s.mark.column != 0 then
      { s with mark := { s.mark with column := 0, line := s.mark.line + 1 } }
    else s
  unroll (-1) (← mark)
  removeSimpleKey
  modify fun s => { s with simpleKeyAllowed := false }
  let m ← mark
  addToken .streamEnd m m

/-- Moves over blanks, comments and line breaks up to the next token. -/
def toNextToken : Nat → LexM Unit
  | 0 => pure ()
  | fuel + 1 => do
    if (← mark).column == 0 && (← cur) == '\uFEFF' then skip
    let rec blanks : Nat → LexM Unit
      | 0 => pure ()
      | k + 1 => do
        let s ← get
        let c ← cur
        if c == ' ' || ((s.flowLevel > 0 || !s.simpleKeyAllowed) && c == '\t') then
          skip
          blanks k
    blanks (← budget)
    if (← cur) == '#' then skipToBreak (← budget)
    if isBreak (← cur) then
      skipLine
      modify fun s => if s.flowLevel == 0 then { s with simpleKeyAllowed := true } else s
      toNextToken fuel

/-- A directive, `---` or `...`: every block closes and no key is possible. -/
def resetForMarker : LexM Unit := do
  unroll (-1) (← mark)
  removeSimpleKey
  modify fun s => { s with simpleKeyAllowed := false }

/-- Cuts `---` or `...`. -/
def fetchDocumentMarker (kind : TokenKind) : LexM Unit := do
  resetForMarker
  let start ← mark
  skip
  skip
  skip
  addToken kind start (← mark)

/-- Cuts a one-character token. -/
def fetchIndicator (kind : TokenKind) : LexM Unit := do
  let start ← mark
  skip
  addToken kind start (← mark)

/-- Cuts `[` or `{`, which may start a simple key and open a flow level. -/
def fetchFlowStart (kind : TokenKind) : LexM Unit := do
  saveSimpleKey
  increaseFlowLevel
  modify fun s => { s with simpleKeyAllowed := true }
  fetchIndicator kind

/-- Cuts `]` or `}`, closing a flow level. -/
def fetchFlowEnd (kind : TokenKind) : LexM Unit := do
  removeSimpleKey
  decreaseFlowLevel
  modify fun s => { s with simpleKeyAllowed := false }
  fetchIndicator kind

/-- Cuts `,` between flow entries. -/
def fetchFlowEntry : LexM Unit := do
  removeSimpleKey
  modify fun s => { s with simpleKeyAllowed := true }
  fetchIndicator .flowEntry

/-- Cuts `-` before a block sequence entry, opening the sequence if it is new. -/
def fetchBlockEntry : LexM Unit := do
  let s ← get
  if s.flowLevel == 0 then
    if !s.simpleKeyAllowed then
      fail "" s.mark "block sequence entries are not allowed in this context"
    rollIndent s.mark.column none .blockSequenceStart s.mark
  removeSimpleKey
  modify fun s => { s with simpleKeyAllowed := true }
  fetchIndicator .blockEntry

/-- Cuts `?` before an explicit key, opening a block mapping if it is new. -/
def fetchKey : LexM Unit := do
  let s ← get
  if s.flowLevel == 0 then
    if !s.simpleKeyAllowed then
      fail "" s.mark "mapping keys are not allowed in this context"
    rollIndent s.mark.column none .blockMappingStart s.mark
  removeSimpleKey
  modify fun s => { s with simpleKeyAllowed := s.flowLevel == 0 }
  fetchIndicator .key

/-- Cuts `:`. If a simple key may stand before it, the `key` token (and the start of a block
mapping, if it is new) is put where that key began. -/
def fetchValue : LexM Unit := do
  let i := (← get).simpleKeys.size - 1
  if ← validateKey i then
    let k ← topKey
    let s ← get
    insertToken (some (k.tokenNumber - s.tokensTaken)) { kind := .key, start := k.mark, stop := k.mark }
    rollIndent k.mark.column (some k.tokenNumber) .blockMappingStart k.mark
    setKey i { k with possible := false }
    modify fun s => { s with keyLevels := s.keyLevels.filter (·.1 != k.tokenNumber),
                             simpleKeyAllowed := false }
  else
    let s ← get
    if s.flowLevel == 0 then
      if !s.simpleKeyAllowed then
        fail "" s.mark "mapping values are not allowed in this context"
      rollIndent s.mark.column none .blockMappingStart s.mark
    modify fun s => { s with simpleKeyAllowed := s.flowLevel == 0 }
  fetchIndicator .value

/-- Cuts a token that may start a simple key, after which none may start. -/
def fetchKeyable (scan : LexM Token) : LexM Unit := do
  saveSimpleKey
  modify fun s => { s with simpleKeyAllowed := false }
  let t ← scan
  insertToken none t

/-- Cuts a block scalar, after which a simple key may start. -/
def fetchBlockScalar (literal : Bool) : LexM Unit := do
  removeSimpleKey
  modify fun s => { s with simpleKeyAllowed := true }
  let t ← scanBlock literal
  insertToken none t

/-- Whether a character may start a plain scalar: anything but a blank and the indicators,
and also `-`, `?` and `:` before a non-blank (`?` and `:` only in block context). -/
def startsPlain (flow : Bool) (c next : Char) : Bool :=
  !(isBlankOrEnd c || "-?:,[]\x7b\x7d#&*!|>\"%@".contains c || c.toNat == 39 || c.toNat == 96) ||
    (c == '-' && !isBlank next) ||
    (!flow && (c == '?' || c == ':') && !isBlankOrEnd next)

/-- Cuts the next token, with the block ends before it and any key and block start it
implies. -/
def fetchNext : LexM Unit := do
  let _ ← peekAt 0
  if !(← get).streamStarted then return ← fetchStreamStart
  let scanMark ← mark
  toNextToken (← budget)
  unroll ((← mark).column : Int) scanMark
  let s ← get
  let column := s.mark.column
  let flow := s.flowLevel > 0
  let c ← peekAt 0
  let c1 ← peekAt 1
  let c2 ← peekAt 2
  let c3 ← peekAt 3
  if isEnd c then fetchStreamEnd
  else if column == 0 && c == '%' then
    resetForMarker
    let t ← scanDirective
    insertToken none t
  else if column == 0 && c == '-' && c1 == '-' && c2 == '-' && isBlankOrEnd c3 then
    fetchDocumentMarker .documentStart
  else if column == 0 && c == '.' && c1 == '.' && c2 == '.' && isBlankOrEnd c3 then
    fetchDocumentMarker .documentEnd
  else if c == '[' then fetchFlowStart .flowSequenceStart
  else if c == '{' then fetchFlowStart .flowMappingStart
  else if c == ']' then fetchFlowEnd .flowSequenceEnd
  else if c == '}' then fetchFlowEnd .flowMappingEnd
  else if c == ',' then fetchFlowEntry
  else if c == '-' && isBlankOrEnd c1 then fetchBlockEntry
  else if c == '?' && (flow || isBlankOrEnd c1) then fetchKey
  else if c == ':' && (flow || isBlankOrEnd c1) then fetchValue
  else if c == '*' then fetchKeyable (scanAnchor true)
  else if c == '&' then fetchKeyable (scanAnchor false)
  else if c == '!' then fetchKeyable scanTag
  else if c == '|' && !flow then fetchBlockScalar true
  else if c == '>' && !flow then fetchBlockScalar false
  else if c.toNat == 39 then fetchKeyable (scanQuoted true)
  else if c == '"' then fetchKeyable (scanQuoted false)
  else if startsPlain flow c c1 then fetchKeyable scanPlain
  else fail "while scanning for the next token" s.mark "found character that cannot start any token"

/-- Cuts tokens until at least three wait and the next one cannot still start a simple
key. -/
def fetchMore : Nat → LexM Unit
  | 0 => modify fun s => { s with tokenReady := true }
  | fuel + 1 => do
    let s ← get
    if s.queue.length ≥ 3 then
      match s.keyLevels.lookup s.tokensTaken with
      | none => modify fun s => { s with tokenReady := true }
      | some i =>
        if ← validateKey i then
          fetchNext
          fetchMore fuel
        else modify fun s => { s with tokenReady := true }
    else
      fetchNext
      fetchMore fuel

end LexM

namespace Lexer

/-- A lexer for a text; a byte order mark at its start is dropped. -/
def start (text : String) : Lexer :=
  let all := text.toList
  let ends := portionEnds 512 0 0 (all.map Char.utf8Size)
  match all with
  | '\uFEFF' :: rest => { text := rest.toArray, portions := ends.map (· - 1) }
  | _ => { text := all.toArray, portions := ends }

end Lexer

namespace LexM

/-- The next waiting token, cutting more when needed. -/
def peek : LexM Token := do
  if !(← get).tokenReady then fetchMore ((← budget) + 8)
  match (← get).queue with
  | t :: _ => return t
  | [] => return { kind := .streamEnd, start := ← mark, stop := ← mark }

/-- Takes the next waiting token. -/
def take : LexM Unit :=
  modify fun s => match s.queue with
    | t :: rest =>
      { s with queue := rest, tokensTaken := s.tokensTaken + 1, tokenReady := false,
               streamEnded := t.kind.isStreamEnd }
    | [] => { s with tokenReady := false }

end LexM

end JobEngine.Yaml
