import JobEngine.Clock.Duration
import JobEngine.Fault

/-!
# Circuit breakers

A breaker guards calls to one dependency. While *closed* it lets calls through and counts
consecutive failures; at the threshold it *opens* and refuses calls for a cooldown; then it
is *half-open* and lets one probe through, whose outcome closes or re-opens it.

## Main Definitions

* `BreakerSettings` — threshold and cooldown.
* `Breaker` — the state of one breaker, with `allow`, `recordSuccess`, `recordFailure`.
* `BreakerRegistry` — one breaker per key, created on first use.

## Design Notes

Transitions take the clock reading `now` in nanoseconds. The cooldown is measured from the
failure that opened the breaker, the time since clamped to the signed 64-bit range.
-/

namespace JobEngine

/-- The three states of a breaker. -/
inductive BreakerState where
  | closed
  | opened
  | halfOpen
  deriving DecidableEq, Repr

/-- The name of a breaker state. -/
def BreakerState.name : BreakerState → String
  | .closed => "closed"
  | .opened => "open"
  | .halfOpen => "half-open"

/-- Breaker settings; a non-positive value selects the default (5 failures, 30 s). -/
structure BreakerSettings where
  threshold : Int := 0
  cooldown : Int := 0

/-- The effective threshold. -/
def BreakerSettings.failureLimit (s : BreakerSettings) : Int :=
  if s.threshold ≤ 0 then 5 else s.threshold

/-- The effective cooldown in nanoseconds. -/
def BreakerSettings.pause (s : BreakerSettings) : Int :=
  if s.cooldown ≤ 0 then 30 * Duration.nanosPerSecond else s.cooldown

/-- The state of one breaker. -/
structure Breaker where
  settings : BreakerSettings := {}
  state : BreakerState := .closed
  failures : Nat := 0
  openedAt : Int := 0
  probing : Bool := false

namespace Breaker

/-- Whether a call may go ahead now. An open breaker whose cooldown has passed turns
half-open and lets this one call through as its probe; a half-open breaker refuses while
its probe is out. -/
def allow (now : Int) (b : Breaker) : Bool × Breaker :=
  match b.state with
  | .opened =>
    if Duration.between now b.openedAt < b.settings.pause then (false, b)
    else (true, { b with state := .halfOpen, probing := true })
  | .halfOpen => if b.probing then (false, b) else (true, { b with probing := true })
  | .closed => (true, b)

/-- A success closes the breaker and clears the count. -/
def recordSuccess (b : Breaker) : Breaker :=
  { b with state := .closed, failures := 0, probing := false }

/-- A failure is counted; it opens the breaker at the threshold, or at once when it was the
half-open probe. -/
def recordFailure (now : Int) (b : Breaker) : Breaker :=
  let failures := b.failures + 1
  let b := { b with failures, probing := false }
  if b.state = .halfOpen || (failures : Int) ≥ b.settings.failureLimit then
    { b with state := .opened, openedAt := now }
  else b

/-- A call guarded by the breaker, given its outcome: refused with `breakerOpen` when the
breaker does not allow it, otherwise its outcome is recorded and returned. A failure that
`ignorable` accepts counts as a success. -/
def guard (now : Int) (outcome : Except Fault Unit) (ignorable : Fault → Bool) (b : Breaker) :
    Except Fault Unit × Bool × Breaker :=
  let (ok, b) := b.allow now
  if !ok then (.error .breakerOpen, false, b)
  else
    let b := match outcome with
      | .ok () => b.recordSuccess
      | .error f => if ignorable f then b.recordSuccess else b.recordFailure now
    (outcome, true, b)

end Breaker

/-- One breaker per key, all with the same settings, in the order of first use. -/
structure BreakerRegistry where
  settings : BreakerSettings := {}
  breakers : List (String × Breaker) := []

namespace BreakerRegistry

/-- The breaker of a key, created closed if the key is new. -/
def get (key : String) (r : BreakerRegistry) : Breaker × BreakerRegistry :=
  match r.breakers.find? (·.1 == key) with
  | some (_, b) => (b, r)
  | none =>
    let b : Breaker := { settings := r.settings }
    (b, { r with breakers := r.breakers ++ [(key, b)] })

/-- Stores the breaker of a key. -/
def put (key : String) (b : Breaker) (r : BreakerRegistry) : BreakerRegistry :=
  if r.breakers.any (·.1 == key) then
    { r with breakers := r.breakers.map fun (k, x) => if k == key then (k, b) else (k, x) }
  else { r with breakers := r.breakers ++ [(key, b)] }

/-- Counts of breakers: in all, open, half-open and closed. -/
structure Census where
  total : Nat
  opened : Nat
  halfOpen : Nat
  closed : Nat

/-- The number of breakers in each state. -/
def census (r : BreakerRegistry) : Census :=
  let count (s : BreakerState) := (r.breakers.filter (·.2.state = s)).length
  { total := r.breakers.length, opened := count .opened, halfOpen := count .halfOpen,
    closed := count .closed }

end BreakerRegistry

end JobEngine
