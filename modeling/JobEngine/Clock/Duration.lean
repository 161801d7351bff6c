/-!
# Durations

Durations are signed 64-bit counts of nanoseconds, held as `Int`. Delays are often computed
in binary64 and then truncated to whole nanoseconds; this module fixes how.

## Main Definitions

* `Duration.ofFloat` — truncation of a binary64 toward zero.
* `Duration.seconds` — a duration in seconds, as a binary64.
* `nanosPerMilli`, `nanosPerSecond` — unit sizes.
* `Duration.ofMillis` — a count of milliseconds as a duration, wrapping like 64-bit arithmetic.
* `Duration.between` — the clamped duration between two instants.
* `Duration.parse?` — durations written like `1h30m`, `1.5s` or `-250ms`.

## Design Notes

A binary64 outside the signed 64-bit range, or not a number, truncates to the most negative
64-bit value, as the processor's conversion instruction answers for such input.
-/

namespace JobEngine.Duration

/-- Nanoseconds in a millisecond. -/
def nanosPerMilli : Int := 1000000

/-- Nanoseconds in a second. -/
def nanosPerSecond : Int := 1000000000

/-- The most negative signed 64-bit value. -/
def minInt64 : Int := -Int.pow 2 63

/-- The largest signed 64-bit value. -/
def maxInt64 : Int := Int.pow 2 63 - 1

/-- An integer reduced into the signed 64-bit range the way 64-bit arithmetic wraps it. -/
def wrap (n : Int) : Int := (n - minInt64) % Int.pow 2 64 + minInt64

/-- A count of milliseconds as a duration; the product wraps like 64-bit arithmetic. -/
def ofMillis (ms : Int) : Int := wrap (ms * nanosPerMilli)

/-- The duration from instant `u` to instant `t`, clamped to the signed 64-bit range. -/
def between (t u : Int) : Int := max minInt64 (min maxInt64 (t - u))

/-- A binary64 count of nanoseconds truncated toward zero; out of range or not a number gives
the most negative 64-bit value. -/
def ofFloat (x : Float) : Int :=
  if x.isNaN || x ≥ 9223372036854775808.0 || x < -9223372036854775808.0 then minInt64
  else
    let n : Int := x.abs.floor.toUInt64.toNat
    if x < 0 then -n else n

/-- A duration in seconds: whole seconds plus the remaining nanoseconds over 10⁹. -/
def seconds (d : Int) : Float :=
  let whole := d.tdiv nanosPerSecond
  let rest := d.tmod nanosPerSecond
  Float.ofInt whole + Float.ofInt rest / 1e9

/-- The size of a duration unit in nanoseconds. -/
def unitSize? : String → Option Nat
  | "ns" => some 1
  | "us" | "µs" | "μs" => some 1000
  | "ms" => some 1000000
  | "s" => some 1000000000
  | "m" => some 60000000000
  | "h" => some 3600000000000
  | _ => none

/-- The leading digits of a text, their value, and the rest; `none` once the value passes
2⁶³. -/
def leadingInt (cs : List Char) : Option (Nat × List Char) :=
  let ds := cs.takeWhile fun c => '0' ≤ c && c ≤ '9'
  let v := ds.foldl (fun a c => a * 10 + (c.toNat - '0'.toNat)) 0
  if v > Nat.pow 2 63 then none else some (v, cs.drop ds.length)

/-- The leading digits of a fraction: their value and `10^k` for the `k` digits used, and the
rest. Digits past the precision of 63 bits are read but ignored. -/
def leadingFraction (cs : List Char) : Nat × Float × List Char :=
  let ds := cs.takeWhile fun c => '0' ≤ c && c ≤ '9'
  let step (acc : Nat × Float × Bool) (c : Char) : Nat × Float × Bool :=
    let (x, scale, full) := acc
    if full then acc
    else if x > (Nat.pow 2 63 - 1) / 10 then (x, scale, true)
    else
      let y := x * 10 + (c.toNat - '0'.toNat)
      if y > Nat.pow 2 63 then (x, scale, true) else (y, scale * 10, false)
  let (x, scale, _) := ds.foldl step (0, 1, false)
  (x, scale, cs.drop ds.length)

/-- Reads the terms `digits[.digits]unit` of a duration, adding their sizes to `total`; the
fuel bounds the number of terms. -/
def parseTerms (fuel : Nat) (total : Nat) (cs : List Char) : Option Nat :=
  match fuel with
  | 0 => none
  | fuel + 1 =>
    if cs.isEmpty then some total
    else do
      let c ← cs.head?
      if !(c == '.' || ('0' ≤ c && c ≤ '9')) then none
      let (v, rest) ← leadingInt cs
      let pre := rest.length != cs.length
      let (f, scale, rest, post) :=
        match rest with
        | '.' :: r =>
          let (f, scale, r') := leadingFraction r
          (f, scale, r', r'.length != r.length)
        | r => (0, 1, r, false)
      if !pre && !post then none
      let unitText := rest.takeWhile fun c => !(c == '.' || ('0' ≤ c && c ≤ '9'))
      if unitText.isEmpty then none
      let unit ← unitSize? (String.ofList unitText)
      if v > Nat.pow 2 63 / unit then none
      let v := v * unit
      let v := if f > 0 then v + (Float.ofNat f * (Float.ofNat unit / scale)).toUInt64.toNat else v
      if v > Nat.pow 2 63 then none
      let total := total + v
      if total > Nat.pow 2 63 then none
      parseTerms fuel total (rest.drop unitText.length)

/-- A duration in nanoseconds written as a sequence of decimal numbers with units, such as
`300ms`, `1.5h` or `2h45m`, with an optional sign; `0` needs no unit. Units are `ns`, `us`
(or `µs`, `μs`), `ms`, `s`, `m` and `h`. The duration must fit in 64 bits. -/
def parse? (s : String) : Option Int :=
  let (neg, cs) := match s.toList with
    | '-' :: r => (true, r)
    | '+' :: r => (false, r)
    | r => (false, r)
  if cs == ['0'] then some 0
  else if cs.isEmpty then none
  else do
    let d ← parseTerms (cs.length + 1) 0 cs
    if neg then some (-(d : Int))
    else if d > Nat.pow 2 63 - 1 then none
    else some d

end JobEngine.Duration
