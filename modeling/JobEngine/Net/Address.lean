import JobEngine.Text.Utf8

/-!
# IP address literals

An IP address literal is IPv4 dotted decimal (`192.0.2.1`) or IPv6 colon hexadecimal
(`2001:db8::1`, `::ffff:192.0.2.1`), the latter with an optional zone after `%`
(`fe80::1%eth0`). A URL host in square brackets must be an IPv6 literal.

The first of `.`, `:` and `%` in the text chooses the family: `.` IPv4, `:` IPv6, and `%`
first is a zone without an address.

* IPv4: exactly four decimal fields, each at most 255, none with a leading zero.
* IPv6: groups of one to four hexadecimal digits separated by `:`; one `::` stands for one or
  more zero groups; the last two groups may be written as an IPv4 address; sixteen bytes in
  all. A zone, if `%` is present, is not empty.

## Main Definitions

* `IpFamily` — IPv4 or IPv6.
* `IpLiteral.parse` — the family of a literal, or why it is none.
-/

namespace JobEngine

/-- The family of an IP address. -/
inductive IpFamily where
  | v4
  | v6
  deriving DecidableEq, Repr

namespace IpLiteral

/-- A fault in literal `input`: what is wrong and, if known, the text where it is. -/
def faultAt (input : List UInt8) (msg : String) (place : List UInt8) : String :=
  "ParseAddr(" ++ Text.quoteBytes input ++ "): " ++ msg ++
    (if place.isEmpty then "" else " (at " ++ Text.quoteBytes place ++ ")")

/-- A fault in literal `input` as a whole. -/
def fault (input : List UInt8) (msg : String) : String := faultAt input msg []

/-- Whether a byte is a decimal digit. -/
def isDigit (c : UInt8) : Bool := '0'.toUInt8 ≤ c && c ≤ '9'.toUInt8

/-- The value of a hexadecimal digit, if it is one. -/
def hexValue (c : UInt8) : Option Nat :=
  if isDigit c then some (c - '0'.toUInt8).toNat
  else if 'a'.toUInt8 ≤ c && c ≤ 'f'.toUInt8 then some ((c - 'a'.toUInt8).toNat + 10)
  else if 'A'.toUInt8 ≤ c && c ≤ 'F'.toUInt8 then some ((c - 'A'.toUInt8).toNat + 10)
  else none

/-- Reads the four fields of dotted decimal text `s`, a fault naming `input`. The field read
so far has value `val` and `digits` digits; `pos` fields are complete; `first` says whether
`s` starts the text and `afterDot` whether a dot came just before. -/
def v4Fields (input : List UInt8) (val digits pos : Nat) (first afterDot : Bool) :
    List UInt8 → Except String Unit
  | [] => if pos < 3 then .error (fault input "IPv4 address too short") else .ok ()
  | c :: rest =>
    if isDigit c then
      if digits == 1 && val == 0 then .error (fault input "IPv4 field has octet with leading zero")
      else
        let val := val * 10 + (c - '0'.toUInt8).toNat
        if val > 255 then .error (fault input "IPv4 field has value >255")
        else v4Fields input val (digits + 1) pos false false rest
    else if c == '.'.toUInt8 then
      if first || rest.isEmpty || afterDot then
        .error (faultAt input "IPv4 field must have at least one digit" (c :: rest))
      else if pos == 3 then .error (fault input "IPv4 address too long")
      else v4Fields input 0 0 (pos + 1) false true rest
    else .error (faultAt input "unexpected character" (c :: rest))

/-- Reads dotted decimal text `s` as the four fields of an IPv4 address. -/
def readV4 (input s : List UInt8) : Except String Unit := v4Fields input 0 0 0 true false s

/-- The number of leading hexadecimal digits of a text. -/
def hexRun (s : List UInt8) : Nat := (s.takeWhile fun c => (hexValue c).isSome).length

/-- Reads the groups of an IPv6 address without its zone, from text `s`: `filled` bytes are
read and `gap` is where `::` stood, if it did. Each round reads one group and adds two bytes
(or four, for a trailing IPv4 address, which ends the reading), so eight rounds suffice.
Returns the bytes read, where `::` stood, and the text left over. -/
def v6Groups (input : List UInt8) :
    Nat → Nat → Option Nat → List UInt8 → Except String (Nat × Option Nat × List UInt8)
  | 0, filled, gap, s => .ok (filled, gap, s)
  | fuel + 1, filled, gap, s =>
    if filled ≥ 16 then .ok (filled, gap, s)
    else
      let n := hexRun s
      if n > 4 then .error (faultAt input "each group must have 4 or less digits" s)
      else if n == 0 then
        .error (faultAt input "each colon-separated field must have at least one digit" s)
      else
        let after := s.drop n
        if after.head? == some '.'.toUInt8 then
          if gap.isNone && filled != 12 then
            .error (faultAt input
              "embedded IPv4 address must replace the final 2 fields of the address" s)
          else if filled + 4 > 16 then
            .error (faultAt input
              "too many hex fields to fit an embedded IPv4 at the end of the address" s)
          else do
            readV4 input s
            .ok (filled + 4, gap, [])
        else
          let filled := filled + 2
          match after with
          | [] => .ok (filled, gap, [])
          | c :: rest =>
            if c != ':'.toUInt8 then .error (faultAt input "unexpected character, want colon" after)
            else if rest.isEmpty then
              .error (faultAt input "colon must be followed by more characters" after)
            else if rest.head? == some ':'.toUInt8 then
              if gap.isSome then .error (faultAt input "multiple :: in address" rest)
              else if rest.length == 1 then .ok (filled, some filled, [])
              else v6Groups input fuel filled (some filled) rest.tail
            else v6Groups input fuel filled gap rest

/-- Reads an IPv6 address with an optional zone. -/
def readV6 (input : List UInt8) : Except String Unit := do
  let s := input.takeWhile (· != '%'.toUInt8)
  if input.length == s.length + 1 then throw (fault input "zone must be a non-empty string")
  let colons := [':'.toUInt8, ':'.toUInt8]
  let (gap, s) := if s.take 2 == colons then (some 0, s.drop 2) else (none, s)
  if gap.isSome && s.isEmpty then return ()
  let (filled, gap, s) ← v6Groups input 8 0 gap s
  if !s.isEmpty then throw (faultAt input "trailing garbage after address" s)
  if filled < 16 then
    if gap.isNone then throw (fault input "address string too short")
  else if gap.isSome then
    throw (fault input "the :: must expand to at least one field of zeros")

/-- The family of an IP address literal, or why the text is none. -/
def parse (input : List UInt8) : Except String IpFamily :=
  match input.find? fun c => c == '.'.toUInt8 || c == ':'.toUInt8 || c == '%'.toUInt8 with
  | some c =>
    if c == '.'.toUInt8 then (fun _ => IpFamily.v4) <$> readV4 input input
    else if c == ':'.toUInt8 then (fun _ => IpFamily.v6) <$> readV6 input
    else .error (fault input "missing IPv6 address")
  | none => .error (fault input "unable to parse IP")

end IpLiteral

end JobEngine
