import JobEngine.Fault

/-!
# Cancellation scopes

A **scope** bounds the life of some work: it ends when it is cancelled, when its deadline
passes, or when its parent ends, and the work watching it then stops. Scopes form a tree;
ending a scope ends every scope below it, each with the same reason.

## Main Definitions

* `Ending` — why a scope ended: cancelled, or its deadline passed.
* `Scope` — one scope: its parent, deadline, ending and children.
* `Scopes` — the tree of all scopes, with `create`, `cancel` and `ending?`.

## Design Notes

A scope is created under a parent and keeps the parent's deadline when that comes first;
only a scope whose own deadline is the earlier one needs an alarm of its own, and
`create` reports which case holds. Ending a scope lists the scopes that ended, parent before
children and children in creation order, so that whoever watches them can be told in that
order.
-/

namespace JobEngine

/-- Why a scope ended. -/
inductive Ending where
  /-- The scope, or one above it, was cancelled. -/
  | canceled
  /-- A deadline passed. -/
  | deadlineExceeded
  deriving DecidableEq, Repr

/-- The fault that reports an ending. -/
def Ending.fault : Ending → Fault
  | .canceled => .canceled
  | .deadlineExceeded => .deadlineExceeded

/-- One scope of the tree. -/
structure Scope where
  parent : Option Nat := none
  /-- The deadline in force: the scope's own, or the earlier one of an ancestor. -/
  deadline : Option Int := none
  ended : Option Ending := none
  /-- The scopes created below this one while it was running, oldest first. -/
  children : List Nat := []
  deriving Inhabited

/-- The tree of scopes, indexed by creation. Scope `0` is the root, which never ends. -/
structure Scopes where
  items : Array Scope := #[{}]

namespace Scopes

/-- The scope at an index. -/
def get (s : Scopes) (i : Nat) : Scope := s.items[i]?.getD {}

/-- Why a scope ended, if it did. -/
def ending? (s : Scopes) (i : Nat) : Option Ending := (s.get i).ended

/-- Whether a scope ended. -/
def isEnded (s : Scopes) (i : Nat) : Bool := (s.ending? i).isSome

/-- Replaces the scope at an index. -/
def set (s : Scopes) (i : Nat) (x : Scope) : Scopes := { items := s.items.set! i x }

/-- Creates a scope under `parent`, with an optional deadline, at clock reading `now`.
Returns its index and whether it needs an alarm for its own deadline. A scope under an
ended parent is ended at once with the parent's ending; one whose deadline is not after
`now` is ended at once as expired. -/
def create (parent : Nat) (deadline : Option Int) (now : Int) (s : Scopes) :
    Nat × Bool × Scopes :=
  let p := s.get parent
  let i := s.items.size
  let inherited := p.deadline
  let (effective, own) := match deadline, inherited with
    | none, _ => (inherited, false)
    | some d, none => (some d, true)
    | some d, some e => if e < d then (some e, false) else (some d, true)
  match p.ended with
  | some e =>
    let scope : Scope := { parent := some parent, deadline := effective, ended := some e }
    (i, false, { items := s.items.push scope })
  | none =>
    let expired := own && effective.any (· ≤ now)
    let ended := if expired then some Ending.deadlineExceeded else none
    let scope : Scope := { parent := some parent, deadline := effective, ended }
    let s := s.set parent { p with children := p.children ++ [i] }
    (i, own && !expired, { items := s.items.push scope })

/-- Ends the scopes of a work list and everything below them, with one ending. Scopes that
already ended are skipped. Returns the scopes newly ended, each before its children. -/
def endAll (e : Ending) : Nat → List Nat → List Nat → Scopes → List Nat × Scopes
  | 0, _, acc, s => (acc.reverse, s)
  | _ + 1, [], acc, s => (acc.reverse, s)
  | fuel + 1, i :: rest, acc, s =>
    let x := s.get i
    if x.ended.isSome || i ≥ s.items.size then endAll e fuel rest acc s
    else endAll e fuel (x.children ++ rest) (i :: acc) (s.set i { x with ended := some e })

/-- Cancels a scope with an ending: it and every running scope below it end. The root never
ends. Returns the scopes newly ended, parent before children. -/
def cancel (i : Nat) (e : Ending) (s : Scopes) : List Nat × Scopes :=
  if i = 0 then ([], s) else endAll e (2 * s.items.size + 1) [i] [] s

end Scopes

end JobEngine
