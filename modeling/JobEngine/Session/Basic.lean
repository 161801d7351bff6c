import JobEngine.World.Schedule
import JobEngine.Text.Numbers

/-!
# Scripted sessions

A **session** drives a world from a script of requests, one answer per request. Requests
name jobs, catalog hashes and remote copies through *tokens* in their text: `$j3` is the id
of the fourth job the session created, `$h0` the first catalog hash it stored, `$m1` the id
of the second remote job it follows (counting over the remote venues in name order), and
`$l2` the id of the third job the venue lists right now.

## Main Definitions

* `Session` — a world with what the session remembers.
* `Session.expand` — replaces the tokens of a text.
* `Fault.report`, `Fault.reportWithField` — how answers show faults.
* `Value.text`, `Value.whole`, `Value.flag` — reading request fields.
-/

namespace JobEngine

namespace Value

/-- A string member, empty when absent or not a string. -/
def text (v : Value) (k : String) : String :=
  match v.field? k with
  | some (.str s) => s
  | _ => ""

/-- A number as a whole number, truncated. -/
def whole? : Value → Option Int
  | .num x => some (Duration.ofFloat x)
  | .int n => some n
  | _ => none

/-- A whole-number member, with a default when absent. -/
def whole (v : Value) (k : String) (d : Int) : Int :=
  ((v.field? k).bind whole?).getD d

/-- A number member, with a default when absent. -/
def number (v : Value) (k : String) (d : Float) : Float :=
  ((v.field? k).bind asFloat?).getD d

/-- A boolean member, with a default when absent. -/
def flag (v : Value) (k : String) (d : Bool) : Bool :=
  match v.field? k with
  | some (.bool b) => b
  | _ => d

/-- The strings of a list member. -/
def texts (v : Value) (k : String) : List String :=
  match v.field? k with
  | some (.arr xs) => xs.filterMap asString?
  | _ => []

/-- A list member. -/
def items (v : Value) (k : String) : List Value :=
  match v.field? k with
  | some (.arr xs) => xs
  | _ => []

end Value

/-- How an answer shows a fault: its kind and message. -/
def Fault.report (f : Fault) : Value := .obj [("error", .str f.kind), ("message", .str f.message)]

/-- How an answer shows a fault, with the field at fault for a validation error. -/
def Fault.reportWithField (f : Fault) : Value :=
  match f.firstApp? with
  | some e =>
    if e.sentinel == .validation then
      .obj [("error", .str f.kind), ("message", .str f.message), ("field", .str e.field)]
    else f.report
  | none => f.report

/-- A fault or `null`. -/
def Fault.reportOpt : Option Fault → Value
  | some f => f.report
  | none => .null

/-- A record as a session answer shows it. -/
def Record.report (r : Record) : Value := r.toValue

/-- A session: the world and what the session remembers of it. -/
structure Session where
  world : World
  /-- Ids of the jobs the session created, in order. -/
  jobs : List String := []
  /-- Catalog hashes the session stored, in order. -/
  hashes : List String := []
  /-- Remote jobs the session follows: the link and the local copy's cell. -/
  copies : List (Nat × Nat) := []

namespace Session

/-- Runs a world computation on the session's world. -/
def exec (s : Session) (m : WorldM α) : α × Session :=
  let (a, w) := m.run s.world
  (a, { s with world := w })

/-- The ids of the followed remote jobs, over the remote venues in name order. -/
def copyIds (s : Session) : List String :=
  let named := s.world.linkNames.zipIdx
  let ordered := named.mergeSort fun a b => decide (a.1 ≤ b.1)
  ordered.flatMap fun (_, l) =>
    (s.copies.filter (·.1 == l)).map fun (_, c) => (s.world.recordOf c).id

/-- What a token stands for: the kind letter and the number. -/
def token? (s : Session) (kind : Char) (n : Nat) : Option String :=
  match kind with
  | 'j' => s.jobs[n]?
  | 'h' => s.hashes[n]?
  | 'm' => s.copyIds[n]?
  | 'l' => (((s.world.venue? 0).map (·.records)).getD [])[n]? |>.map (·.id)
  | _ => none

/-- Replaces the tokens of a character list; a token that stands for nothing is kept. -/
def expandChars (s : Session) : Nat → List Char → List Char
  | 0, cs => cs
  | _ + 1, [] => []
  | fuel + 1, '$' :: k :: rest =>
    let digits := rest.takeWhile Text.isDigit
    if "jhml".contains k && !digits.isEmpty then
      match s.token? k (Text.digitsValue digits) with
      | some t => t.toList ++ expandChars s fuel (rest.drop digits.length)
      | none => '$' :: k :: digits ++ expandChars s fuel (rest.drop digits.length)
    else '$' :: expandChars s fuel (k :: rest)
  | fuel + 1, c :: rest => c :: expandChars s fuel rest

/-- Replaces the tokens of a text. -/
def expand (s : Session) (t : String) : String :=
  String.ofList (s.expandChars (t.length + 1) t.toList)

end Session

end JobEngine
