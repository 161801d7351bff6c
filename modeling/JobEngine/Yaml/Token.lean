/-!
# YAML tokens

A YAML text is first cut into **tokens**: indicators (`-`, `?`, `:`, `,`, brackets), the
starts and ends of block collections implied by indentation, scalars with their style,
anchors, aliases, tags and directives. Every token records where it starts and ends.

A text that cannot be read stops at its first **problem**, found by one of three stages:
the reader (a character that YAML does not allow), the scanner (cutting tokens) or the
parser (fitting tokens together). A problem's message names a line, counted from one, when
it has one: the line of the context the problem was found in, else the line of the problem
itself. A scanner's marks stand on the line before the one they report, so its lines are
moved down by one; and a problem on the very first line names no line at all.

## Main Definitions

* `Yaml.Mark` — a position: characters from the start, line, column.
* `Yaml.Token` — a token with its kind and its marks.
* `Yaml.Problem` — why a text could not be read, with `Problem.message`.
-/

namespace JobEngine.Yaml

/-- A position in a text: characters from the start, line and column, all from zero. -/
structure Mark where
  index : Nat := 0
  line : Nat := 0
  column : Nat := 0
  deriving Inhabited

/-- How a scalar is written. -/
inductive ScalarStyle where
  | plain
  | singleQuoted
  | doubleQuoted
  | literal
  | folded
  deriving DecidableEq, Inhabited

/-- The kinds of tokens, with what they carry. -/
inductive TokenKind where
  | streamStart
  | streamEnd
  | versionDirective (major minor : Nat)
  | tagDirective (handle pre : String)
  | documentStart
  | documentEnd
  | blockSequenceStart
  | blockMappingStart
  | blockEnd
  | flowSequenceStart
  | flowSequenceEnd
  | flowMappingStart
  | flowMappingEnd
  | blockEntry
  | flowEntry
  | key
  | value
  | alias (name : String)
  | anchor (name : String)
  | tag (handle suffix : String)
  | scalar (text : String) (style : ScalarStyle)
  deriving Inhabited

/-- A token and where it stands. -/
structure Token where
  kind : TokenKind
  start : Mark
  stop : Mark
  deriving Inhabited

namespace TokenKind

/-- Whether a token is `?`. -/
def isKey : TokenKind → Bool
  | .key => true
  | _ => false

/-- Whether a token is `:`. -/
def isValue : TokenKind → Bool
  | .value => true
  | _ => false

/-- Whether a token is the end of a block collection. -/
def isBlockEnd : TokenKind → Bool
  | .blockEnd => true
  | _ => false

/-- Whether a token is a block sequence entry `-`. -/
def isBlockEntry : TokenKind → Bool
  | .blockEntry => true
  | _ => false

/-- Whether a token is a flow entry separator `,`. -/
def isFlowEntry : TokenKind → Bool
  | .flowEntry => true
  | _ => false

/-- Whether a token is `]`. -/
def isFlowSequenceEnd : TokenKind → Bool
  | .flowSequenceEnd => true
  | _ => false

/-- Whether a token is `}`. -/
def isFlowMappingEnd : TokenKind → Bool
  | .flowMappingEnd => true
  | _ => false

/-- Whether a token is the end of the stream. -/
def isStreamEnd : TokenKind → Bool
  | .streamEnd => true
  | _ => false

/-- Whether a token is `---`. -/
def isDocumentStart : TokenKind → Bool
  | .documentStart => true
  | _ => false

/-- Whether a token is `...`. -/
def isDocumentEnd : TokenKind → Bool
  | .documentEnd => true
  | _ => false

/-- Whether a token is a `%YAML` or `%TAG` directive. -/
def isDirective : TokenKind → Bool
  | .versionDirective .. | .tagDirective .. => true
  | _ => false

end TokenKind

/-- The stage that found a problem. -/
inductive Stage where
  | reader
  | scanner
  | parser
  deriving DecidableEq

/-- Why a text could not be read: the stage, the construct being read and where it began,
and what was found wrong where. -/
structure Problem where
  stage : Stage
  context : String := ""
  contextMark : Mark := {}
  problem : String
  problemMark : Mark := {}

/-- The line a problem reports: that of its context, else its own; a scanner's lines move
down by one, and zero means none. -/
def Problem.line (p : Problem) : Nat :=
  let shift := if p.stage = .scanner then 1 else 0
  if p.contextMark.line != 0 then p.contextMark.line + shift
  else if p.problemMark.line != 0 then p.problemMark.line + shift
  else 0

/-- The message of a problem: `yaml: line N: what`, without the line when there is none. -/
def Problem.message (p : Problem) : String :=
  let where_ := if p.line == 0 then "" else "line " ++ toString p.line ++ ": "
  "yaml: " ++ where_ ++ p.problem

end JobEngine.Yaml
