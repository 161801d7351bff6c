import JobEngine.Clock.Duration

/-!
# Backoff delays

Two ways to grow delays between retries or polls: `exponential`, the delay before a given
attempt, and `DelaySequence`, an endless sequence multiplied by a factor at each step.

## Main Definitions

* `powNat` — a binary64 raised to a natural power by repeated squaring.
* `powWhole` — a binary64 raised to a whole binary64 power.
* `BackoffConfig`, `exponential` — capped exponential delays with defaults.
* `DelaySequence`, `DelaySequence.next` — successive delays.

## Design Notes

`powNat` splits the base into a fraction in `[1/2, 1)` and a power of two, squares the
fraction and doubles the exponent bit by bit, renormalising the fraction when it drops
below one half, and scales by the accumulated power of two at the end. The rounding of
each product is that of binary64 multiplication, so the result is fixed to the last bit.
-/

namespace JobEngine

/-- `x ^ n` by repeated squaring of the fraction of `x`, with the power of two kept apart. -/
def powNat (x : Float) (n : Nat) : Float :=
  if n = 0 || x == 1 then 1
  else if n = 1 then x
  else
    let (x1, xe) := x.frExp
    let rec go (fuel : Nat) (i : Nat) (a1 : Float) (ae : Int) (x1 : Float) (xe : Int) :
        Float × Int :=
      match fuel with
      | 0 => (a1, ae)
      | fuel + 1 =>
        if i = 0 then (a1, ae)
        else if xe < -4096 || 4096 < xe then (a1, ae + xe)
        else
          let (a1, ae) := if i % 2 = 1 then (a1 * x1, ae + xe) else (a1, ae)
          let x1' := x1 * x1
          let xe' := xe * 2
          let (x1', xe') := if x1' < 0.5 then (x1' + x1', xe' - 1) else (x1', xe')
          go fuel (i / 2) a1 ae x1' xe'
    let (a1, ae) := go 64 n 1 0 x1 xe
    a1.scaleB ae

/-- Settings of exponential backoff; a non-positive value selects the default. -/
structure BackoffConfig where
  initial : Int := 0
  max : Int := 0
  factor : Float := 0

/-- The effective settings: initial 100 ms, maximum 5 s and factor 2 unless set (a factor
counts as set when above 1). -/
def BackoffConfig.resolve (c : Option BackoffConfig) : Int × Int × Float :=
  let d := (100 * Duration.nanosPerMilli, 5 * Duration.nanosPerSecond, (2 : Float))
  match c with
  | none => d
  | some c =>
    (if c.initial > 0 then c.initial else d.1, if c.max > 0 then c.max else d.2.1,
     if c.factor > 1 then c.factor else d.2.2)

/-- `x ^ y` for a whole binary64 `y ≥ 0`: by `powNat` below 2⁶³, and beyond it 0 when
`|x| < 1` and infinity when `|x| > 1`. -/
def powWhole (x y : Float) : Float :=
  if y == 0 || x == 1 then 1
  else if y ≥ 9223372036854775808.0 then
    if x == -1 then 1 else if x.abs < 1 then 0 else 1 / 0
  else powNat x y.toUInt64.toNat

/-- The delay before an attempt: the initial delay for attempts up to 1, multiplied by the
factor for each later attempt, capped at the maximum. The count of factors is taken as a
binary64, so counts beyond 2⁵³ are rounded. -/
def exponential (attempt : Int) (c : Option BackoffConfig) : Int :=
  let (initial, maxDelay, factor) := BackoffConfig.resolve c
  if attempt < 1 then initial
  else
    let delay := Float.ofInt initial * powWhole factor (Float.ofInt (attempt - 1))
    let delay := if delay > Float.ofInt maxDelay then Float.ofInt maxDelay else delay
    Duration.ofFloat delay

/-- A sequence of delays starting at an initial one, multiplied by `factor` after each;
with `max > 0` every delay is capped at `max`. -/
structure DelaySequence where
  factor : Float
  max : Int
  upcoming : Float

/-- A sequence starting at `initial`; a factor below 1 counts as 1. -/
def DelaySequence.start (initial : Int) (factor : Float) (max : Int) : DelaySequence :=
  { factor := if factor < 1 then 1 else factor, max, upcoming := Float.ofInt initial }

/-- The current delay and the sequence after it. -/
def DelaySequence.next (s : DelaySequence) : Int × DelaySequence :=
  let cap (x : Float) : Float := if s.max > 0 && x > Float.ofInt s.max then Float.ofInt s.max else x
  let d := cap s.upcoming
  (Duration.ofFloat d, { s with upcoming := cap (s.upcoming * s.factor) })

end JobEngine
