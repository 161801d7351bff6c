import JobEngine.Yaml.Lexer
import JobEngine.Yaml.Resolve

/-!
# YAML documents as node trees

The tokens of a text are fitted together into the **node tree** of its first document:
scalars, sequences and mappings, each with its tag and the line it starts on, and aliases
that refer to anchored nodes. A text may hold several documents; only the first is read,
and the text after it is looked at no further than the lexer's lookahead.

Tags are resolved here: an explicit tag through the tag directives (`!` and
`!!` = `tag:yaml.org,2002:` unless the document redefines them), written short; a quoted or
block scalar without tag is a `!!str`, a plain `<<` a `!!merge`, and any other plain scalar
gets the tag its text resolves to. A missing node (an empty value, a lone `-`) is an empty
plain scalar, so `!!null`.

An anchor is known from where its node begins, so an alias inside the node it names
refers to that node. Aliases name their target by a number; the document keeps the nodes
by number.

## Main Definitions

* `Yaml.Node` — a node of a document.
* `Yaml.Document` — a document's root and its anchored nodes.
* `Yaml.Document.read` — the first document of a text, if it has one.
-/

namespace JobEngine.Yaml

/-- A node of a document, with its tag and the line it starts on (from one). An alias
names its anchor, the number of the node it refers to, and its own number. -/
inductive Node where
  | scalar (text : String) (tag : String) (line : Nat)
  | sequence (items : List Node) (tag : String) (line : Nat)
  | mapping (entries : List (Node × Node)) (tag : String) (line : Nat)
  | alias (name : String) (target : Nat) (self : Nat) (line : Nat)
  deriving Inhabited

namespace Node

/-- The line a node starts on. -/
def line : Node → Nat
  | .scalar _ _ l | .sequence _ _ l | .mapping _ _ l | .alias _ _ _ l => l

/-- The tag of a node; none for an alias. -/
def tag : Node → String
  | .scalar _ t _ | .sequence _ t _ | .mapping _ t _ => t
  | .alias .. => ""

/-- Whether a node is the merge key `<<`. -/
def isMerge : Node → Bool
  | .scalar "<<" "!!merge" _ => true
  | _ => false

end Node

/-- An anchor while reading: the number of its node, which is open while its node is being
read. -/
structure Anchor where
  name : String
  number : Nat

/-- A document: its root and its anchored nodes by number. -/
structure Document where
  root : Node
  nodes : List (Nat × Node) := []

/-- The state of reading a document: the lexer, the tag directives, the anchors in the order
they were defined, the anchored nodes completed, and the next free number. -/
structure Reading where
  lexer : Lexer
  directives : List (String × String) := []
  anchors : List Anchor := []
  nodes : List (Nat × Node) := []
  fresh : Nat := 0

/-- Reading a document, which may stop at a problem. -/
abbrev ReadM := StateT Reading (Except Problem)

namespace ReadM

/-- Runs a lexer step. -/
def lex (m : LexM α) : ReadM α := do
  let r ← get
  match m.run r.lexer with
  | .ok (a, lexer) =>
    set { r with lexer }
    return a
  | .error p => throw p

/-- The next token. -/
def peek : ReadM Token := lex LexM.peek

/-- Takes the next token. -/
def take : ReadM Unit := lex LexM.take

/-- A fresh number for a node or alias. -/
def freshNumber : ReadM Nat := modifyGet fun r => (r.fresh, { r with fresh := r.fresh + 1 })

/-- Stops at a problem found by the parser. -/
def fail (problem : String) (problemMark : Mark) : ReadM α :=
  throw { stage := .parser, problem, problemMark }

/-- Stops at a problem found by the parser while reading `context` from `contextMark`. -/
def failIn (context : String) (contextMark : Mark) (problem : String) (problemMark : Mark) :
    ReadM α :=
  throw { stage := .parser, context, contextMark, problem, problemMark }

/-- Defines an anchor for a node that begins now; returns its number. -/
def openAnchor (name : String) : ReadM Nat := do
  let n ← freshNumber
  modify fun r => { r with anchors := { name, number := n } :: r.anchors }
  return n

/-- Records an anchored node once complete. -/
def closeAnchor (number : Option Nat) (node : Node) : ReadM Node := do
  if let some n := number then modify fun r => { r with nodes := (n, node) :: r.nodes }
  return node

/-- The node an alias refers to: the latest anchor of that name. -/
def aliasOf (name : String) (line : Nat) : ReadM Node := do
  match (← get).anchors.find? (·.name == name) with
  | some a => return .alias name a.number (← freshNumber) line
  | none => throw { stage := .parser, problem := "unknown anchor '" ++ name ++ "' referenced" }

/-- An empty plain scalar at a position. -/
def emptyScalar (at_ : Mark) : Node := .scalar "" "!!null" (at_.line + 1)

/-- The full tag of a tag token, through the tag directives. -/
def fullTag (handle suffix : String) (start tagMark : Mark) : ReadM String := do
  if handle.isEmpty then return suffix
  match (← get).directives.lookup handle with
  | some pre => return pre ++ suffix
  | none => failIn "while parsing a node" start "found undefined tag handle" tagMark

/-- The tag of a scalar node: its explicit tag if it has one other than `!`; else `!!str`
for a quoted or block scalar, `!!merge` for a plain `<<`, and the resolved tag otherwise. -/
def scalarTag (explicit : Option String) (text : String) (style : ScalarStyle) : String :=
  match explicit with
  | some t => if t != "!" then shortTag t else implied
  | none => implied
where
  implied : String :=
    if style != .plain then "!!str"
    else if text == "<<" then "!!merge"
    else (resolvePlain "" text).1

/-- The tag of a collection node: its explicit tag if it has one other than `!`, else
`fallback`. -/
def collectionTag (explicit : Option String) (fallback : String) : String :=
  match explicit with
  | some t => if t != "!" then shortTag t else fallback
  | none => fallback

mutual

/-- Reads a node: an alias, or properties (anchor, tag) and content. In block context block
collections may start here; `indentless` lets a sequence without indentation start, as the
value of a block mapping may. -/
def node (block indentless : Bool) : Nat → ReadM Node
  | 0 => do return emptyScalar (← peek).start
  | fuel + 1 => do
    let t ← peek
    if let .alias name := t.kind then
      take
      return ← aliasOf name (t.start.line + 1)
    let mut start := t.start
    let mut anchor : Option String := none
    let mut tagged : Option (String × String × Mark) := none
    let mut t := t
    match t.kind with
    | .anchor name =>
      anchor := some name
      take
      t ← peek
      if let .tag h s := t.kind then
        tagged := some (h, s, t.start)
        take
        t ← peek
    | .tag h s =>
      tagged := some (h, s, t.start)
      take
      t ← peek
      if let .anchor name := t.kind then
        anchor := some name
        take
        t ← peek
    | _ => pure ()
    let explicit ← match tagged with
      | some (h, s, m) => some <$> fullTag h s start m
      | none => pure none
    let line := start.line + 1
    let number ← match anchor with
      | some a => some <$> openAnchor a
      | none => pure none
    if indentless && t.kind.isBlockEntry then
      let items ← indentlessItems [] fuel
      return ← closeAnchor number (.sequence items (collectionTag explicit "!!seq") line)
    match t.kind with
    | .scalar text style =>
      take
      closeAnchor number (.scalar text (scalarTag explicit text style) line)
    | .flowSequenceStart =>
      take
      let items ← flowItems t.start [] true fuel
      closeAnchor number (.sequence items (collectionTag explicit "!!seq") line)
    | .flowMappingStart =>
      take
      let entries ← flowEntries t.start [] true fuel
      closeAnchor number (.mapping entries (collectionTag explicit "!!map") line)
    | .blockSequenceStart =>
      if block then
        take
        let items ← blockItems t.start [] fuel
        closeAnchor number (.sequence items (collectionTag explicit "!!seq") line)
      else missing block start t anchor explicit number line
    | .blockMappingStart =>
      if block then
        take
        let entries ← blockEntries t.start [] fuel
        closeAnchor number (.mapping entries (collectionTag explicit "!!map") line)
      else missing block start t anchor explicit number line
    | _ => missing block start t anchor explicit number line

/-- A node with properties but no content is an empty scalar; without properties it is
an error. -/
def missing (block : Bool) (start : Mark) (t : Token) (anchor : Option String)
    (explicit : Option String) (number : Option Nat) (line : Nat) : ReadM Node := do
  if anchor.isSome || explicit.isSome then
    closeAnchor number (.scalar "" (scalarTag explicit "" .plain) line)
  else
    failIn (if block then "while parsing a block node" else "while parsing a flow node") start
      "did not find expected node content" t.start

/-- Reads the entries of a block sequence, after its start, up to its end. -/
def blockItems (opening : Mark) (acc : List Node) : Nat → ReadM (List Node)
  | 0 => pure acc
  | fuel + 1 => do
    let t ← peek
    match t.kind with
    | .blockEntry =>
      take
      let u ← peek
      let item ← if u.kind.isBlockEntry || u.kind.isBlockEnd then pure (emptyScalar t.stop)
        else node true false fuel
      blockItems opening (acc ++ [item]) fuel
    | .blockEnd =>
      take
      return acc
    | _ =>
      failIn "while parsing a block collection" opening "did not find expected '-' indicator"
        t.start

/-- Reads the entries of a sequence without indentation, up to the first token that is not
an entry. -/
def indentlessItems (acc : List Node) : Nat → ReadM (List Node)
  | 0 => pure acc
  | fuel + 1 => do
    let t ← peek
    if !t.kind.isBlockEntry then return acc
    take
    let u ← peek
    let item ← if u.kind.isBlockEntry || u.kind.isKey || u.kind.isValue || u.kind.isBlockEnd then
        pure (emptyScalar t.stop)
      else node true false fuel
    indentlessItems (acc ++ [item]) fuel

/-- Reads the entries of a block mapping, after its start, up to its end. -/
def blockEntries (opening : Mark) (acc : List (Node × Node)) : Nat → ReadM (List (Node × Node))
  | 0 => pure acc
  | fuel + 1 => do
    let t ← peek
    match t.kind with
    | .key =>
      take
      let u ← peek
      let k ← if u.kind.isKey || u.kind.isValue || u.kind.isBlockEnd then pure (emptyScalar t.stop)
        else node true true fuel
      let v ← blockValue fuel
      blockEntries opening (acc ++ [(k, v)]) fuel
    | .blockEnd =>
      take
      return acc
    | _ => failIn "while parsing a block mapping" opening "did not find expected key" t.start

/-- Reads the value of a block mapping entry; an absent value is empty. -/
def blockValue : Nat → ReadM Node
  | 0 => do return emptyScalar (← peek).start
  | fuel + 1 => do
    let t ← peek
    if !t.kind.isValue then return emptyScalar t.start
    take
    let u ← peek
    if u.kind.isKey || u.kind.isValue || u.kind.isBlockEnd then return emptyScalar t.stop
    node true true fuel

/-- Reads the entries of a flow sequence, after `[`, up to `]`. An entry `k: v` or `? k`
is a mapping of one entry. -/
def flowItems (opening : Mark) (acc : List Node) (first : Bool) : Nat → ReadM (List Node)
  | 0 => pure acc
  | fuel + 1 => do
    let mut t ← peek
    if !t.kind.isFlowSequenceEnd then
      if !first then
        if t.kind.isFlowEntry then
          take
          t ← peek
        else
          failIn "while parsing a flow sequence" opening "did not find expected ',' or ']'" t.start
      if t.kind.isKey then
        take
        let pair ← flowPair t.start fuel
        return ← flowItems opening (acc ++ [pair]) false fuel
      else if !t.kind.isFlowSequenceEnd then
        let item ← node false false fuel
        return ← flowItems opening (acc ++ [item]) false fuel
    take
    return acc

/-- Reads the mapping of one entry that stands in a flow sequence, after its `?` or implied
key. -/
def flowPair (start : Mark) : Nat → ReadM Node
  | 0 => pure (emptyScalar start)
  | fuel + 1 => do
    let t ← peek
    let k ← if t.kind.isValue || t.kind.isFlowEntry || t.kind.isFlowSequenceEnd then do
        take
        pure (emptyScalar t.stop)
      else node false false fuel
    let t ← peek
    let v ← if t.kind.isValue then do
        take
        let u ← peek
        if u.kind.isFlowEntry || u.kind.isFlowSequenceEnd then pure (emptyScalar t.start)
        else node false false fuel
      else pure (emptyScalar t.start)
    return .mapping [(k, v)] "!!map" (start.line + 1)

/-- Reads the entries of a flow mapping, after `{`, up to `}`. -/
def flowEntries (opening : Mark) (acc : List (Node × Node)) (first : Bool) :
    Nat → ReadM (List (Node × Node))
  | 0 => pure acc
  | fuel + 1 => do
    let mut t ← peek
    if !t.kind.isFlowMappingEnd then
      if !first then
        if t.kind.isFlowEntry then
          take
          t ← peek
        else
          failIn "while parsing a flow mapping" opening "did not find expected ',' or '\x7d'" t.start
      if t.kind.isKey then
        take
        let u ← peek
        let k ← if u.kind.isValue || u.kind.isFlowEntry || u.kind.isFlowMappingEnd then
            pure (emptyScalar u.start)
          else node false false fuel
        let v ← flowValue fuel
        return ← flowEntries opening (acc ++ [(k, v)]) false fuel
      else if !t.kind.isFlowMappingEnd then
        let k ← node false false fuel
        let v := emptyScalar (← peek).start
        return ← flowEntries opening (acc ++ [(k, v)]) false fuel
    take
    return acc

/-- Reads the value of a flow mapping entry with a key; an absent value is empty. -/
def flowValue : Nat → ReadM Node
  | 0 => do return emptyScalar (← peek).start
  | fuel + 1 => do
    let t ← peek
    if !t.kind.isValue then return emptyScalar t.start
    take
    let u ← peek
    if u.kind.isFlowEntry || u.kind.isFlowMappingEnd then return emptyScalar u.start
    node false false fuel

end

/-- Reads the directives before a document: at most one `%YAML 1.1`, and `%TAG` handles
defined once each; then the default handles `!` and `!!` unless redefined. -/
def directives (fuel : Nat) : ReadM Unit := do
  let mut version := false
  let mut own : List (String × String) := []
  for _ in List.range fuel do
    let t ← peek
    match t.kind with
    | .versionDirective major minor =>
      if version then fail "found duplicate %YAML directive" t.start
      if major != 1 || minor != 1 then fail "found incompatible YAML document" t.start
      version := true
      take
    | .tagDirective handle pre =>
      if own.any (·.1 == handle) then fail "found duplicate %TAG directive" t.start
      own := own ++ [(handle, pre)]
      take
    | _ => break
  let defaults := [("!", "!"), ("!!", corePrefix)].filter fun (h, _) => !own.any (·.1 == h)
  modify fun r => { r with directives := own ++ defaults }

/-- Reads the first document of the stream: none when the stream holds no document. The
token after the document is looked at, and taken if it is `...`. -/
def firstDocument (fuel : Nat) : ReadM (Option Node) := do
  let _ ← peek
  take
  let t ← peek
  if t.kind.isStreamEnd then return none
  let root ← if t.kind.isDirective || t.kind.isDocumentStart then do
      directives fuel
      let t ← peek
      if !t.kind.isDocumentStart then fail "did not find expected <document start>" t.start
      take
      let u ← peek
      if u.kind.isDirective || u.kind.isDocumentStart || u.kind.isDocumentEnd ||
          u.kind.isStreamEnd then
        pure (emptyScalar u.start)
      else node true false fuel
    else do
      directives fuel
      node true false fuel
  let t ← peek
  if t.kind.isDocumentEnd then take
  return some root

end ReadM

namespace Document

/-- Reads the first document of a text, if it has one. A character YAML does not allow stops
reading once the portion of the text that holds it is read in. -/
def read (text : String) : Except Problem (Option Document) :=
  let lexer := Lexer.start text
  let fuel := 4 * lexer.text.size + 16
  match (ReadM.firstDocument fuel).run { lexer } with
  | .ok (some root, r) => .ok (some { root, nodes := r.nodes })
  | .ok (none, _) => .ok none
  | .error p => .error p

end Document

end JobEngine.Yaml
