import JobEngine.Decimal.Shortest

/-!
# Laying out shortest digits as text

The digits of `Digits.shortest` are written either positionally (`0.05`, `12000`) or in
scientific form (`1e+21`, `2.5e-07`). Which one, and how wide the exponent is, is a choice of
the output format; this module names the two formats the library writes.

## Main Definitions

* `Layout` — where positional notation ends and how exponents are written.
* `Layout.json` — numbers inside JSON documents.
* `Layout.general` — numbers inside messages and metric lines.
* `Layout.render` — the text of a double under a layout.
-/

namespace JobEngine.Decimal

/-- A text layout for shortest digits. With `e` the decimal exponent of the leading digit,
the number is positional when `lowExp ≤ e < highExp` and scientific otherwise. -/
structure Layout where
  lowExp : Int
  highExp : Int
  /-- Least number of digits written for a non-negative exponent. -/
  posExpWidth : Nat
  /-- Least number of digits written for a negative exponent. -/
  negExpWidth : Nat

/-- JSON numbers are positional from `1e-6` up to below `1e21`; a positive exponent has at
least two digits and a negative one at least one (`1e+21`, `1e-7`). -/
def Layout.json : Layout := ⟨-6, 21, 2, 1⟩

/-- Numbers in messages are positional from `1e-4` up to below `1e6`, and exponents have at
least two digits (`1e+06`, `2.5e-05`). -/
def Layout.general : Layout := ⟨-4, 6, 2, 2⟩

/-- The decimal digit characters of a digit list. -/
def digitText (ds : List Nat) : String :=
  String.ofList (ds.map (fun d => Char.ofNat ('0'.toNat + d)))

/-- `n` zero characters. -/
def zeros (n : Nat) : String := String.ofList (List.replicate n '0')

/-- The decimal text of `n`, padded with leading zeros to at least `width` characters. -/
def padded (width n : Nat) : String :=
  let s := toString n
  zeros (width - s.length) ++ s

/-- Positional text of `0.ds × 10^point`. -/
def positional (ds : List Nat) (point : Int) : String :=
  if ds.isEmpty then "0"
  else if point ≤ 0 then "0." ++ zeros (-point).toNat ++ digitText ds
  else
    let p := point.toNat
    if ds.length ≤ p then digitText ds ++ zeros (p - ds.length)
    else digitText (ds.take p) ++ "." ++ digitText (ds.drop p)

/-- Scientific text `d.ddd e±x` of `0.ds × 10^point` for nonempty `ds`. -/
def Layout.scientific (L : Layout) (ds : List Nat) (point : Int) : String :=
  let e := point - 1
  let mantissa := match ds with
    | [] => "0"
    | [d] => digitText [d]
    | d :: rest => digitText [d] ++ "." ++ digitText rest
  let expo := if e < 0 then "-" ++ padded L.negExpWidth (-e).toNat
    else "+" ++ padded L.posExpWidth e.toNat
  mantissa ++ "e" ++ expo

/-- The text of a double under a layout. Not-a-number and the infinities are written `NaN`,
`+Inf` and `-Inf`; a negative zero keeps its sign. -/
def Layout.render (L : Layout) (x : Float) : String :=
  if x.isNaN then "NaN"
  else if x.isInf then (if x > 0 then "+Inf" else "-Inf")
  else
    let sign := if x.toBits >>> 63 == 1 then "-" else ""
    let d := Digits.shortest x
    let e := d.point - 1
    if d.digits.isEmpty || (L.lowExp ≤ e && e < L.highExp) then sign ++ positional d.digits d.point
    else sign ++ L.scientific d.digits d.point

end JobEngine.Decimal
