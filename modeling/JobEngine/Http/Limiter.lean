import JobEngine.Clock.Duration

/-!
# Token buckets

A token bucket lets through `rate` requests per second on average, and bursts of up to
`burst` requests. It holds a fractional number of tokens, `burst` at most and initially
full. Time refills it at `rate` tokens per second; a request takes one token, and is refused
when the bucket would have to go into debt, by at least one nanosecond's worth of refill,
to pay for it. A refused request changes nothing.

Tokens are counted in binary64, as are the refill and the debt, so a debt smaller than one
nanosecond of refill still lets a request through.

## Main Definitions

* `Limiter` — a bucket and the time it was last drawn from.
* `Limiter.allow` — whether a request at a given time gets through, and the bucket after it.
-/

namespace JobEngine.Http

/-- A token bucket. -/
structure Limiter where
  /-- Tokens added per second; positive. -/
  rate : Float
  /-- The most tokens the bucket holds; at least one. -/
  burst : Nat
  tokens : Float := 0
  /-- When the bucket was last drawn from, in nanoseconds; none before the first time. -/
  last : Option Int := none

namespace Limiter

/-- The longest duration there is, in nanoseconds: the time since "never". -/
def maxDuration : Int := Int.pow 2 63 - 1

/-- A full bucket for `rate` requests per second and bursts of `burst`, which is raised to
one when smaller. -/
def create (rate : Float) (burst : Int) : Limiter :=
  { rate, burst := (max burst 1).toNat, tokens := Float.ofNat (max burst 1).toNat }

/-- The tokens refilled over a duration. -/
def refill (l : Limiter) (d : Int) : Float := Duration.seconds d * l.rate

/-- The tokens in the bucket at time `t`, before drawing. -/
def available (l : Limiter) (t : Int) : Float :=
  let elapsed := match l.last with
    | some last => if t < last then 0 else t - last
    | none => maxDuration
  let tokens := l.tokens + l.refill elapsed
  let cap := Float.ofNat l.burst
  if tokens > cap then cap else tokens

/-- How long, in whole nanoseconds, the bucket takes to refill a debt of `debt` tokens;
none when that is beyond any duration. -/
def waitFor (l : Limiter) (debt : Float) : Option Int :=
  let ns := debt / l.rate * 1e9
  if ns > 9223372036854775807.0 then none else some (Duration.ofFloat ns)

/-- Whether a request at time `t` gets through, and the bucket after it. -/
def allow (l : Limiter) (t : Int) : Bool × Limiter :=
  let tokens := l.available t - 1
  let wait := if tokens < 0 then l.waitFor (-tokens) else some 0
  let ok := 1 ≤ l.burst && wait.any (· ≤ 0)
  if ok then (true, { l with tokens, last := some t }) else (false, l)

end Limiter

end JobEngine.Http
