/-!
# Calendar time

Instants are counted in nanoseconds since 1970-01-01T00:00:00Z. This module turns an instant
into its UTC calendar date and time of day, and writes it in the RFC 3339 form with the
fraction of a second cut after its last nonzero digit.

## Main Definitions

* `civilOfDays` — the proleptic Gregorian date of a day number.
* `rfc3339` — the RFC 3339 text of an instant in nanoseconds.
* `rfc3339OfMillis` — the same for Unix milliseconds.

## Design Notes

`civilOfDays` counts in eras of 400 years (146097 days), inside which the Gregorian calendar
repeats; years are shifted to start in March so that the leap day is the last day of a year.
-/

namespace JobEngine.Clock

/-- The year, month and day of the day that is `z` days after 1970-01-01. -/
def civilOfDays (z : Int) : Int × Nat × Nat :=
  let z := z + 719468
  let era := (if z ≥ 0 then z else z - 146096) / 146097
  let doe := (z - era * 146097).toNat
  let yoe := (doe - doe / 1460 + doe / 36524 - doe / 146096) / 365
  let y : Int := (yoe : Int) + era * 400
  let doy := doe - (365 * yoe + yoe / 4 - yoe / 100)
  let mp := (5 * doy + 2) / 153
  let d := doy - (153 * mp + 2) / 5 + 1
  let m := if mp < 10 then mp + 3 else mp - 9
  (if m ≤ 2 then y + 1 else y, m, d)

/-- The decimal text of `n` padded with zeros to `width` digits. -/
def pad (width n : Nat) : String :=
  let s := toString n
  String.ofList (List.replicate (width - s.length) '0') ++ s

/-- The fraction part `.ddd` of a nanosecond count below one second, without trailing zeros;
empty for zero. -/
def fraction (nanos : Nat) : String :=
  if nanos = 0 then ""
  else
    let digits := (pad 9 nanos).toList
    "." ++ String.ofList (digits.reverse.dropWhile (· == '0')).reverse

/-- The RFC 3339 text of an instant in UTC, with the fraction of a second trimmed:
`2000-01-01T00:00:00Z`, `2000-01-01T00:00:00.05Z`. Years have at least four digits. -/
def rfc3339 (nanos : Int) : String :=
  let secs := nanos.fdiv 1000000000
  let sub := (nanos - secs * 1000000000).toNat
  let days := secs.fdiv 86400
  let tod := (secs - days * 86400).toNat
  let (y, m, d) := civilOfDays days
  let yearText := if y < 0 then "-" ++ pad 4 y.natAbs else pad 4 y.toNat
  yearText ++ "-" ++ pad 2 m ++ "-" ++ pad 2 d ++ "T" ++ pad 2 (tod / 3600) ++ ":" ++
    pad 2 (tod / 60 % 60) ++ ":" ++ pad 2 (tod % 60) ++ fraction sub ++ "Z"

/-- The RFC 3339 text of a Unix millisecond timestamp. -/
def rfc3339OfMillis (ms : Int) : String := rfc3339 (ms * 1000000)

end JobEngine.Clock
