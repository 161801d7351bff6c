import JobEngine.Codec.Hex
import JobEngine.Clock.Civil
import JobEngine.Fault

/-!
# Job identifiers

A job identifier is 16 bytes: the low 48 bits of the Unix millisecond timestamp, a 16-bit
counter that restarts whenever the timestamp moves forward, and 8 bytes of entropy. Written
as 32 lowercase hexadecimal digits, identifiers sort by creation time.

## Main Definitions

* `JobId` — the 16 bytes, with `millis`, `counter` and `text` views.
* `JobId.parse` — reading the hexadecimal form.
* `Entropy` — where the random bytes come from.
* `IdGenerator.next` — minting the next identifier at a given clock reading.

## Design Notes

Within one millisecond the counter counts up; when it is exhausted the generator borrows the
next millisecond, so identifiers stay distinct and increasing. A clock reading that went
backwards also just counts up. The generator's timestamp and counter advance even when the
entropy source fails.
-/

namespace JobEngine

/-- The 48-bit mask of identifier timestamps. -/
def timestampMask : Nat := Nat.pow 2 48 - 1

/-- A job identifier: 16 bytes. -/
structure JobId where
  bytes : List UInt8
  deriving BEq, Repr

namespace JobId

/-- The big-endian number in a list of bytes. -/
def bigEndian (bs : List UInt8) : Nat := bs.foldl (fun acc b => acc * 256 + b.toNat) 0

/-- The `n` big-endian bytes of `v`. -/
def toBigEndian (n v : Nat) : List UInt8 :=
  (List.range n).reverse.map (fun i => (v / Nat.pow 256 i % 256).toUInt8)

/-- The encoded millisecond timestamp. -/
def millis (id : JobId) : Nat := bigEndian (id.bytes.take 6)

/-- The per-millisecond sequence number. -/
def counter (id : JobId) : Nat := bigEndian ((id.bytes.drop 6).take 2)

/-- The 32-digit lowercase hexadecimal form. -/
def text (id : JobId) : String := Hex.encode id.bytes

/-- The encoded creation time in RFC 3339 form. -/
def time (id : JobId) : String := Clock.rfc3339OfMillis id.millis

/-- Why a text is not a job identifier. -/
inductive ParseFault where
  /-- The text is not 32 bytes long; the length in bytes. -/
  | length (n : Nat)
  /-- The text is not hexadecimal. -/
  | notHex (f : Hex.HexFault)

/-- The message of a parse fault. -/
def ParseFault.message : ParseFault → String
  | .length n => "job id must be 32 hex characters, got " ++ toString n
  | .notHex f => "job id is not hex: " ++ f.message

/-- Reads the hexadecimal form; either letter case is accepted. -/
def parse (s : String) : Except ParseFault JobId :=
  if s.utf8ByteSize ≠ 32 then .error (.length s.utf8ByteSize)
  else match Hex.decode s with
    | .ok bs => .ok ⟨bs⟩
    | .error f => .error (.notHex f)

end JobId

/-- A source of random bytes: an endless stream counting up from a byte value, or a finite
list of bytes. -/
inductive Entropy where
  | counting (next : Nat)
  | finite (rest : List UInt8)

/-- Reads exactly eight bytes. A finite source that is empty fails with `eof`, one with fewer
than eight bytes with `unexpectedEof`; either way what was there is used up. -/
def Entropy.take8 : Entropy → Except Fault (List UInt8) × Entropy
  | .counting n => (.ok ((List.range 8).map (fun i => ((n + i) % 256).toUInt8)), .counting ((n + 8) % 256))
  | .finite rest =>
    if 8 ≤ rest.length then (.ok (rest.take 8), .finite (rest.drop 8))
    else if rest.isEmpty then (.error .eof, .finite [])
    else (.error .unexpectedEof, .finite [])

/-- The state of an identifier generator. -/
structure IdGenerator where
  last : Nat := 0
  counter : Nat := 0
  entropy : Entropy

/-- The next identifier at clock reading `ms` (Unix milliseconds), and the new state. -/
def IdGenerator.next (ms : Int) (g : IdGenerator) : Except Fault JobId × IdGenerator :=
  let ms := (ms % Int.pow 2 48).toNat
  let (last, counter) :=
    if ms > g.last then (ms, 0)
    else if g.counter = Nat.pow 2 16 - 1 then ((g.last + 1) % Nat.pow 2 48, 0)
    else (g.last, g.counter + 1)
  let (drawn, entropy) := g.entropy.take8
  let g' := { g with last, counter, entropy }
  match drawn with
  | .ok tail => (.ok ⟨JobId.toBigEndian 6 last ++ JobId.toBigEndian 2 counter ++ tail⟩, g')
  | .error f => (.error (.wrap "read entropy" f), g')

end JobEngine
