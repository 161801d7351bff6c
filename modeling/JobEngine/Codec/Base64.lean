/-!
# Base-64 text

Bytes are written in the standard base-64 alphabet (`A`–`Z`, `a`–`z`, `0`–`9`, `+`, `/`), three
bytes to four characters; a last group of one or two bytes is padded with `=` to four
characters.

## Main Definitions

* `Base64.encode` — the base-64 text of bytes.
-/

namespace JobEngine.Base64

/-- The character of a base-64 digit below 64. -/
def digit (n : Nat) : Char :=
  if n < 26 then Char.ofNat ('A'.toNat + n)
  else if n < 52 then Char.ofNat ('a'.toNat + n - 26)
  else if n < 62 then Char.ofNat ('0'.toNat + n - 52)
  else if n == 62 then '+'
  else '/'

/-- The characters of bytes, three at a time. -/
def encodeGroups : List UInt8 → List Char
  | [] => []
  | [a] =>
    let a := a.toNat
    [digit (a / 4), digit (a % 4 * 16), '=', '=']
  | [a, b] =>
    let a := a.toNat
    let b := b.toNat
    [digit (a / 4), digit (a % 4 * 16 + b / 16), digit (b % 16 * 4), '=']
  | a :: b :: c :: rest =>
    let a := a.toNat
    let b := b.toNat
    let c := c.toNat
    digit (a / 4) :: digit (a % 4 * 16 + b / 16) :: digit (b % 16 * 4 + c / 64) ::
      digit (c % 64) :: encodeGroups rest

/-- The padded base-64 text of bytes. -/
def encode (bytes : List UInt8) : String := String.ofList (encodeGroups bytes)

end JobEngine.Base64
