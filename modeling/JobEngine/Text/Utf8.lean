import JobEngine.Text.Quoted

/-!
# Reading UTF-8 byte strings

Some texts are byte strings that need not be valid UTF-8, such as the pieces of a URL after
percent-decoding. This module reads such bytes as characters where they form a valid
encoding, and keeps the other bytes apart, one at a time.

## Main Definitions

* `decodeChar` — the first character of a byte string, if its bytes encode one.
* `decodeAll` — a byte string as characters and stray bytes.
* `quoteBytes` — the double-quoted form of a byte string; stray bytes are written `\xHH`.

## Design Notes

A valid encoding is the shortest one of a code point that is not a surrogate and is at most
U+10FFFF. The second byte of a multi-byte encoding is limited accordingly: after `E0` it is
at least `A0`, after `ED` at most `9F`, after `F0` at least `90`, after `F4` at most `8F`.
-/

namespace JobEngine.Text

/-- Whether a byte continues a multi-byte encoding. -/
def isContinuation (b : UInt8) : Bool := 0x80 ≤ b && b ≤ 0xBF

/-- The first character of a byte string and the rest, when the leading bytes are a valid
encoding. -/
def decodeChar : List UInt8 → Option (Char × List UInt8)
  | [] => none
  | b0 :: rest =>
    if b0 < 0x80 then some (Char.ofNat b0.toNat, rest)
    else if 0xC2 ≤ b0 && b0 ≤ 0xDF then
      match rest with
      | b1 :: rest => if isContinuation b1 then
          some (Char.ofNat ((b0.toNat - 0xC0) * 64 + (b1.toNat - 0x80)), rest) else none
      | _ => none
    else if 0xE0 ≤ b0 && b0 ≤ 0xEF then
      let lo : UInt8 := if b0 == 0xE0 then 0xA0 else 0x80
      let hi : UInt8 := if b0 == 0xED then 0x9F else 0xBF
      match rest with
      | b1 :: b2 :: rest =>
        if lo ≤ b1 && b1 ≤ hi && isContinuation b2 then
          some (Char.ofNat ((b0.toNat - 0xE0) * 4096 + (b1.toNat - 0x80) * 64 +
            (b2.toNat - 0x80)), rest)
        else none
      | _ => none
    else if 0xF0 ≤ b0 && b0 ≤ 0xF4 then
      let lo : UInt8 := if b0 == 0xF0 then 0x90 else 0x80
      let hi : UInt8 := if b0 == 0xF4 then 0x8F else 0xBF
      match rest with
      | b1 :: b2 :: b3 :: rest =>
        if lo ≤ b1 && b1 ≤ hi && isContinuation b2 && isContinuation b3 then
          some (Char.ofNat ((b0.toNat - 0xF0) * 262144 + (b1.toNat - 0x80) * 4096 +
            (b2.toNat - 0x80) * 64 + (b3.toNat - 0x80)), rest)
        else none
      | _ => none
    else none

/-- A byte string as characters where its bytes encode them and stray bytes elsewhere; the
fuel bounds the number of pieces. -/
def decodeAllFuel : Nat → List UInt8 → List (Except UInt8 Char)
  | 0, _ => []
  | _, [] => []
  | fuel + 1, b :: rest =>
    match decodeChar (b :: rest) with
    | some (c, rest') => .ok c :: decodeAllFuel fuel rest'
    | none => .error b :: decodeAllFuel fuel rest

/-- A byte string as characters and stray bytes. -/
def decodeAll (bs : List UInt8) : List (Except UInt8 Char) := decodeAllFuel bs.length bs

/-- The text of a byte string, each stray byte read as the replacement character U+FFFD. -/
def lossyText (bs : List UInt8) : String :=
  String.ofList ((decodeAll bs).map fun
    | .ok c => c
    | .error _ => Char.ofNat 0xFFFD)

/-- The double-quoted form of a byte string: characters as `quote` writes them, stray bytes
as `\xHH`. -/
def quoteBytes (bs : List UInt8) : String :=
  "\"" ++ String.join ((decodeAll bs).map fun
    | .ok c => quoteChar c
    | .error b => "\\x" ++ hexDigits 2 b.toNat) ++ "\""

end JobEngine.Text
