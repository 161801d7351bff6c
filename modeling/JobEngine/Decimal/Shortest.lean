/-!
# Shortest decimal digits of a binary64 number

A finite double `x = m · 2^q` is the value of every real number in its *rounding interval*:
the reals that read back as `x` under round-to-nearest-even. This module finds the decimal
with the fewest significant digits inside that interval, and of two such the nearer to `x`.

## Main Definitions

* `Binary` — a finite magnitude as an integer significand and a power of two.
* `Digits` — a decimal `0.d₁d₂…dₙ × 10^point` with no trailing zero digit.
* `Digits.shortest` — the fewest digits that read back as the given magnitude.

## Design Notes

All comparisons are exact `Nat` arithmetic on numerators and denominators, so the search
needs no floating-point operation. For each count `n = 1, 2, …, 17` of digits it looks at
the two points of the `n`-digit decimal grid that enclose `x`: if any point of that grid lies
in the rounding interval, so does one of these two, because the interval contains `x` and
is convex. Seventeen digits always suffice for binary64.
-/

namespace JobEngine.Decimal

/-- A finite non-negative binary64 magnitude `mant · 2^exp2`. -/
structure Binary where
  /-- The integer significand, with the hidden bit for normal numbers. -/
  mant : Nat
  /-- The power of two that scales the significand. -/
  exp2 : Int
  /-- The next smaller double is half as far away as the next larger one: this happens at
  the smallest significand of a binade above the lowest one. -/
  lowerCloser : Bool

/-- Splits the bits of a double into significand and exponent, ignoring the sign bit. -/
def Binary.ofBits (bits : UInt64) : Binary :=
  let frac := (bits &&& 0xFFFFFFFFFFFFF).toNat
  let biased := ((bits >>> 52) &&& 0x7FF).toNat
  if biased = 0 then
    { mant := frac, exp2 := -1074, lowerCloser := false }
  else
    { mant := frac + Nat.pow 2 52, exp2 := (biased : Int) - 1075,
      lowerCloser := frac = 0 && biased > 1 }

/-- A non-negative rational as a numerator over a positive denominator. -/
structure Ratio where
  num : Nat
  den : Nat

/-- Compares two ratios exactly by cross multiplication. -/
def Ratio.cmp (a b : Ratio) : Ordering :=
  compare (a.num * b.den) (b.num * a.den)

/-- The ratio `d · 10^e`. -/
def Ratio.ofDecimal (d : Nat) (e : Int) : Ratio :=
  if 0 ≤ e then ⟨d * Nat.pow 10 e.toNat, 1⟩ else ⟨d, Nat.pow 10 (-e).toNat⟩

namespace Binary

/-- The exact value `mant · 2^exp2`. -/
def value (b : Binary) : Ratio :=
  if 0 ≤ b.exp2 then ⟨b.mant * Nat.pow 2 b.exp2.toNat, 1⟩ else ⟨b.mant, Nat.pow 2 (-b.exp2).toNat⟩

/-- The lower end of the rounding interval: halfway to the next smaller double. -/
def lowerBound (b : Binary) : Ratio :=
  let gap := if b.lowerCloser then 1 else 2
  if 0 ≤ b.exp2 then ⟨(4 * b.mant - gap) * Nat.pow 2 b.exp2.toNat, 4⟩
  else ⟨4 * b.mant - gap, 4 * Nat.pow 2 (-b.exp2).toNat⟩

/-- The upper end of the rounding interval: halfway to the next larger double. -/
def upperBound (b : Binary) : Ratio :=
  if 0 ≤ b.exp2 then ⟨(4 * b.mant + 2) * Nat.pow 2 b.exp2.toNat, 4⟩
  else ⟨4 * b.mant + 2, 4 * Nat.pow 2 (-b.exp2).toNat⟩

/-- Whether a ratio reads back as this double. The ends of the interval belong to it when
the significand is even, since a tie rounds to the even significand. -/
def reads (b : Binary) (r : Ratio) : Bool :=
  let even := b.mant % 2 == 0
  let aboveLow := match r.cmp b.lowerBound with
    | .gt => true
    | .eq => even
    | .lt => false
  let belowHigh := match r.cmp b.upperBound with
    | .lt => true
    | .eq => even
    | .gt => false
  aboveLow && belowHigh

/-- A first guess at `⌊log₁₀ x⌋` from the binary exponent, within one of the true value. -/
def log10Guess (b : Binary) : Int :=
  let bits : Int := (Nat.log2 b.mant : Int) + b.exp2
  (bits * 30103) / 100000

/-- The decimal exponent `E` with `10^E ≤ x < 10^(E+1)`, for a nonzero magnitude. -/
def log10Floor (b : Binary) : Int :=
  let g := b.log10Guess
  let v := b.value
  let candidates : List Int := [g - 2, g - 1, g, g + 1, g + 2]
  let fits (e : Int) : Bool :=
    (Ratio.ofDecimal 1 e).cmp v != .gt && v.cmp (Ratio.ofDecimal 1 (e + 1)) == .lt
  (candidates.find? fits).getD g

/-- `⌊x / 10^e⌋`, the grid point at or below `x` on the grid of spacing `10^e`. -/
def floorOnGrid (b : Binary) (e : Int) : Nat :=
  let v := b.value
  if 0 ≤ e then v.num / (v.den * Nat.pow 10 e.toNat) else v.num * Nat.pow 10 (-e).toNat / v.den

end Binary

/-- A decimal `0.d₁d₂…dₙ × 10^point`: `digits` has no leading or trailing zero. The empty
digit list stands for zero. -/
structure Digits where
  digits : List Nat
  point : Int
  deriving Repr, BEq

/-- Drops trailing zeros from a digit list. -/
def dropTrailingZeros (ds : List Nat) : List Nat :=
  (ds.reverse.dropWhile (· == 0)).reverse

/-- The digits of `d · 10^e` as a `Digits` value, for `d > 0`. -/
def Digits.ofScaled (d : Nat) (e : Int) : Digits :=
  let ds := (Nat.toDigits 10 d).map (fun c => c.toNat - '0'.toNat)
  { digits := dropTrailingZeros ds, point := e + ds.length }

/-- The `n`-digit decimal nearest to the double among those that read back as it, if any.
Of two equally near ones the even one is taken. -/
def Binary.onGrid (b : Binary) (n : Nat) : Option Digits :=
  let e := b.log10Floor - n + 1
  let lo := b.floorOnGrid e
  let hi := lo + 1
  let loOk := b.reads (Ratio.ofDecimal lo e)
  let hiOk := b.reads (Ratio.ofDecimal hi e)
  if loOk && hiOk then
    -- nearer of the two: compare 2x with (lo + hi) · 10^e
    let v := b.value
    let twice : Ratio := ⟨2 * v.num, v.den⟩
    match twice.cmp (Ratio.ofDecimal (lo + hi) e) with
    | .lt => some (Digits.ofScaled lo e)
    | .gt => some (Digits.ofScaled hi e)
    | .eq => some (Digits.ofScaled (if lo % 2 == 0 then lo else hi) e)
  else if loOk then some (Digits.ofScaled lo e)
  else if hiOk then some (Digits.ofScaled hi e)
  else none

/-- The shortest digits of a double's magnitude; zero has no digits. -/
def Digits.shortest (x : Float) : Digits :=
  let b := Binary.ofBits x.toBits
  if b.mant = 0 then { digits := [], point := 0 }
  else
    match (List.range 17).findSome? (fun i => b.onGrid (i + 1)) with
    | some d => d
    | none => Digits.ofScaled (b.floorOnGrid (b.log10Floor - 16)) (b.log10Floor - 16)

end JobEngine.Decimal
