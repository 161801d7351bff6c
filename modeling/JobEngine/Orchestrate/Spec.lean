import JobEngine.Value.Print
import JobEngine.Fault

/-!
# Input and result expressions of orchestrations

A composite operation describes each step's input, and its own result, by an expression over
the orchestration's input and the outputs of earlier steps. Expressions are written as JSON:
a list whose head is `"INPUT"`, `"CONST"` or a step number is a reference, every other value
is literal data in which references may be nested.

## Main Definitions

* `Spec` — a parsed expression.
* `Spec.parse` — reads an expression, refusing malformed references.
* `Spec.deps` — the steps an expression reads, ascending.
* `Env`, `Spec.eval` — evaluation against the input and the outputs so far.
* `lookup` — walking a path through maps and lists.

## Design Notes

A path walks maps by key and lists by position. A key that is not a string is written as
plain text (`Value.display`) before the map is searched, so `1`, `true` and `null` find the
entries `"1"`, `"true"` and `"<nil>"`. A position must be a whole number from 0 to 2³¹ − 1.
Any step of the walk that finds nothing makes the whole path `null`.
-/

namespace JobEngine

/-- A parsed input or result expression. -/
inductive Spec where
  /-- Data without references, returned as is. -/
  | literal (v : Value)
  /-- A path into the orchestration input. -/
  | input (path : List Value)
  /-- A value returned unevaluated, references included. -/
  | const (v : Value)
  /-- A path into the output of a step. -/
  | step (index : Nat) (path : List Value)
  /-- A map whose values are expressions. -/
  | object (fields : List (String × Spec))
  /-- A list whose items are expressions. -/
  | list (items : List Spec)
  deriving Inhabited

/-- The largest position a path may name in a list, 2³¹ − 1. -/
def maxIndex : Nat := 2147483647

/-- A number read as a position: a non-negative whole number, at most `maxIndex` when it is a
binary64. -/
def toIndex : Value → Option Nat
  | .num x =>
    if x < 0 || x != x.floor || x > 2147483647.0 then none
    else some x.toUInt64.toNat
  | .int n => if n < 0 then none else some n.toNat
  | _ => none

/-- Whether a value is a number. -/
def Value.isNumber : Value → Bool
  | .num _ | .int _ => true
  | _ => false

/-- The text a path key is looked up by in a map. -/
def keyText : Value → String
  | .str s => s
  | v => v.display

/-- The value at a path; `null` as soon as a key or position finds nothing. -/
def lookup (v : Value) : List Value → Value
  | [] => v
  | key :: rest =>
    match v with
    | .obj kvs => lookup ((kvs.lookup (keyText key)).getD .null) rest
    | .arr xs =>
      match toIndex key with
      | some i =>
        match xs[i]? with
        | some x => lookup x rest
        | none => .null
      | none => .null
    | _ => .null

/-- Inserts a number into an ascending list without duplicates. -/
def insertAscending (n : Nat) : List Nat → List Nat
  | [] => [n]
  | m :: rest => if n < m then n :: m :: rest else if n = m then m :: rest
    else m :: insertAscending n rest

namespace Spec

/-- The validation error of a malformed expression. -/
def refused (message : String) : Fault := .validation "input" message

mutual
/-- Reads an expression. A list headed by a string must be a reference (`INPUT` with a path,
`CONST` with exactly one value); a list headed by a number is a step reference, whose number
must be a position. -/
def parse : Value → Except Fault Spec
  | .obj kvs => return .object (← parseFields kvs)
  | .arr [] => return .literal (.arr [])
  | .arr (head :: rest) =>
    match head with
    | .str "INPUT" => return .input rest
    | .str "CONST" =>
      match rest with
      | [v] => return .const v
      | _ => .error (refused ("CONST takes exactly one value, got " ++ toString rest.length))
    | .str s => .error (refused ("unknown reference " ++ Text.quote s))
    | .num _ | .int _ =>
      match toIndex head with
      | some i => return .step i rest
      | none => .error (refused ("step reference " ++ head.display ++
          " is not a non-negative integer"))
    | _ => return .list (← parseItems (head :: rest))
  | v => return .literal v

/-- Reads the items of a literal list. -/
def parseItems : List Value → Except Fault (List Spec)
  | [] => return []
  | v :: rest => return (← parse v) :: (← parseItems rest)

/-- Reads the values of a map. -/
def parseFields : List (String × Value) → Except Fault (List (String × Spec))
  | [] => return []
  | (k, v) :: rest => return (k, ← parse v) :: (← parseFields rest)
end

mutual
/-- Adds the steps an expression reads to an ascending list. -/
def collect (acc : List Nat) : Spec → List Nat
  | .step i _ => insertAscending i acc
  | .object fields => collectFields acc fields
  | .list items => collectItems acc items
  | _ => acc

/-- Adds the steps read by list items. -/
def collectItems (acc : List Nat) : List Spec → List Nat
  | [] => acc
  | s :: rest => collectItems (collect acc s) rest

/-- Adds the steps read by map values. -/
def collectFields (acc : List Nat) : List (String × Spec) → List Nat
  | [] => acc
  | (_, s) :: rest => collectFields (collect acc s) rest
end

/-- The steps an expression reads, ascending and without repetition. -/
def deps (s : Spec) : List Nat := collect [] s

mutual
/-- The description of an expression as a value: `{"literal": v}`, `{"input": path}`,
`{"const": v}`, `{"step": i, "path": path}`, `{"object": …}` or `{"list": …}`. -/
def toValue : Spec → Value
  | .literal v => .obj [("literal", v)]
  | .input p => .obj [("input", .arr p)]
  | .const v => .obj [("const", v)]
  | .step i p => .obj [("path", .arr p), ("step", .int i)]
  | .object fields => .obj [("object", .obj (fieldsToValue fields))]
  | .list items => .obj [("list", .arr (itemsToValue items))]

/-- The descriptions of list items. -/
def itemsToValue : List Spec → List Value
  | [] => []
  | s :: rest => toValue s :: itemsToValue rest

/-- The descriptions of map values. -/
def fieldsToValue : List (String × Spec) → List (String × Value)
  | [] => []
  | (k, s) :: rest => (k, toValue s) :: fieldsToValue rest
end

end Spec

/-- What expressions are evaluated against: the orchestration input and, for each of its
steps, the output once the step has finished. -/
structure Env where
  input : Value
  outputs : List (Option Value)

namespace Env

/-- The environment of an orchestration of `n` steps before any has finished. -/
def start (input : Value) (n : Nat) : Env := ⟨input, List.replicate n none⟩

/-- Records the output of step `i`. -/
def setOutput (e : Env) (i : Nat) (v : Value) : Env :=
  { e with outputs := e.outputs.set i (some v) }

/-- The output of step `i`, once it has finished. -/
def output? (e : Env) (i : Nat) : Option Value := (e.outputs[i]?).getD none

end Env

namespace Spec

mutual
/-- The value of an expression. Reading a step that has no output yet is an error. -/
def eval (e : Env) : Spec → Except Fault Value
  | .literal v => return v
  | .input p => return lookup e.input p
  | .const v => return v
  | .step i p =>
    match e.output? i with
    | some v => return lookup v p
    | none => .error (.plain ("step " ++ toString i ++ " has no output yet"))
  | .object fields => return .obj (← evalFields e fields)
  | .list items => return .arr (← evalItems e items)

/-- The values of list items. -/
def evalItems (e : Env) : List Spec → Except Fault (List Value)
  | [] => return []
  | s :: rest => return (← eval e s) :: (← evalItems e rest)

/-- The values of map entries. -/
def evalFields (e : Env) : List (String × Spec) → Except Fault (List (String × Value))
  | [] => return []
  | (k, s) :: rest => return (k, ← eval e s) :: (← evalFields e rest)
end

end Spec

end JobEngine
