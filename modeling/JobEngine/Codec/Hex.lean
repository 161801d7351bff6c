import JobEngine.Text.Quoted

/-!
# Hexadecimal text

Bytes are written as two lowercase hexadecimal digits each. Reading accepts either case and
stops at the first byte of the text that is no hexadecimal digit, taking the text two bytes
at a time; an odd length is reported only after every pair has been read.

## Main Definitions

* `encode` — the hexadecimal text of bytes.
* `HexFault` — why a text is not hexadecimal.
* `decode` — the bytes of a hexadecimal text.
-/

namespace JobEngine.Hex

/-- The lowercase hexadecimal text of a list of bytes. -/
def encode (bytes : List UInt8) : String :=
  String.join (bytes.map (fun b => Text.hexDigits 2 b.toNat))

/-- The value of a hexadecimal digit byte. -/
def digitValue? (b : UInt8) : Option Nat :=
  let n := b.toNat
  if 0x30 ≤ n && n ≤ 0x39 then some (n - 0x30)
  else if 0x61 ≤ n && n ≤ 0x66 then some (n - 0x61 + 10)
  else if 0x41 ≤ n && n ≤ 0x46 then some (n - 0x41 + 10)
  else none

/-- Why a text is not hexadecimal. -/
inductive HexFault where
  /-- A byte that is no hexadecimal digit. -/
  | invalidByte (b : UInt8)
  /-- An odd number of digits. -/
  | oddLength
  deriving Repr, BEq

/-- The code point notation `U+0067 'g'` of a byte read as a Latin-1 character; the
character is shown only when it prints. -/
def codePoint (b : UInt8) : String :=
  let hex := (Text.hexDigits 4 b.toNat).toUpper
  let c := Char.ofNat b.toNat
  "U+" ++ hex ++ (if Text.Char.printable c then " '" ++ c.toString ++ "'" else "")

/-- The message of a hex fault. -/
def HexFault.message : HexFault → String
  | .invalidByte b => "encoding/hex: invalid byte: " ++ codePoint b
  | .oddLength => "encoding/hex: odd length hex string"

/-- The bytes of a hexadecimal text given as bytes. -/
def decodeBytes : List UInt8 → Except HexFault (List UInt8)
  | [] => .ok []
  | [p] => match digitValue? p with
    | none => .error (.invalidByte p)
    | some _ => .error .oddLength
  | p :: q :: rest =>
    match digitValue? p, digitValue? q with
    | none, _ => .error (.invalidByte p)
    | _, none => .error (.invalidByte q)
    | some a, some b => do
      let tail ← decodeBytes rest
      pure ((a * 16 + b).toUInt8 :: tail)

/-- The bytes of a hexadecimal text, read through its UTF-8 encoding. -/
def decode (s : String) : Except HexFault (List UInt8) :=
  decodeBytes s.toUTF8.toList

end JobEngine.Hex
