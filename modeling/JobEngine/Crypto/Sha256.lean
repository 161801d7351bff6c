/-!
# SHA-256

The SHA-256 hash of FIPS 180-4: the message is padded with a one bit, zeros and its 64-bit
bit length to a multiple of 512 bits, and each 512-bit block is mixed into eight 32-bit
words by 64 rounds.

## Main Definitions

* `sha256` — the 32-byte digest of a byte list.
-/

namespace JobEngine.Crypto

/-- The round constants: the first 32 bits of the fractional parts of the cube roots of the
first 64 primes. -/
def roundConstants : Array UInt32 := #[
  0x428a2f98, 0x71374491, 0xb5c0fbcf, 0xe9b5dba5, 0x3956c25b, 0x59f111f1, 0x923f82a4, 0xab1c5ed5,
  0xd807aa98, 0x12835b01, 0x243185be, 0x550c7dc3, 0x72be5d74, 0x80deb1fe, 0x9bdc06a7, 0xc19bf174,
  0xe49b69c1, 0xefbe4786, 0x0fc19dc6, 0x240ca1cc, 0x2de92c6f, 0x4a7484aa, 0x5cb0a9dc, 0x76f988da,
  0x983e5152, 0xa831c66d, 0xb00327c8, 0xbf597fc7, 0xc6e00bf3, 0xd5a79147, 0x06ca6351, 0x14292967,
  0x27b70a85, 0x2e1b2138, 0x4d2c6dfc, 0x53380d13, 0x650a7354, 0x766a0abb, 0x81c2c92e, 0x92722c85,
  0xa2bfe8a1, 0xa81a664b, 0xc24b8b70, 0xc76c51a3, 0xd192e819, 0xd6990624, 0xf40e3585, 0x106aa070,
  0x19a4c116, 0x1e376c08, 0x2748774c, 0x34b0bcb5, 0x391c0cb3, 0x4ed8aa4a, 0x5b9cca4f, 0x682e6ff3,
  0x748f82ee, 0x78a5636f, 0x84c87814, 0x8cc70208, 0x90befffa, 0xa4506ceb, 0xbef9a3f7, 0xc67178f2]

/-- The initial hash words: the first 32 bits of the fractional parts of the square roots of
the first eight primes. -/
def initialHash : Array UInt32 :=
  #[0x6a09e667, 0xbb67ae85, 0x3c6ef372, 0xa54ff53a, 0x510e527f, 0x9b05688c, 0x1f83d9ab, 0x5be0cd19]

/-- Rotation right of a 32-bit word. -/
def rotr (x : UInt32) (n : UInt32) : UInt32 := (x >>> n) ||| (x <<< (32 - n))

/-- The padded message: a one bit, zeros, and the 64-bit big-endian bit length. -/
def pad (msg : List UInt8) : Array UInt8 :=
  let len := msg.length
  let zeros := (119 - len % 64) % 64
  let lenBytes := (List.range 8).reverse.map (fun i => ((len * 8) / Nat.pow 256 i % 256).toUInt8)
  (msg ++ [0x80] ++ List.replicate zeros 0 ++ lenBytes).toArray

/-- The big-endian word at byte offset `i`. -/
def wordAt (bytes : Array UInt8) (i : Nat) : UInt32 :=
  (bytes[i]!.toUInt32 <<< 24) ||| (bytes[i + 1]!.toUInt32 <<< 16) |||
    (bytes[i + 2]!.toUInt32 <<< 8) ||| bytes[i + 3]!.toUInt32

/-- The 64-word message schedule of the block at byte offset `off`. -/
def schedule (bytes : Array UInt8) (off : Nat) : Array UInt32 :=
  let w0 := (List.range 16).toArray.map (fun i => wordAt bytes (off + 4 * i))
  (List.range 48).foldl (fun (w : Array UInt32) k =>
    let i := k + 16
    let x := w[i - 15]!
    let y := w[i - 2]!
    let s0 := rotr x 7 ^^^ rotr x 18 ^^^ (x >>> 3)
    let s1 := rotr y 17 ^^^ rotr y 19 ^^^ (y >>> 10)
    w.push (w[i - 16]! + s0 + w[i - 7]! + s1)) w0

/-- Mixes one block into the hash words. -/
def compress (h : Array UInt32) (w : Array UInt32) : Array UInt32 :=
  let start := (h[0]!, h[1]!, h[2]!, h[3]!, h[4]!, h[5]!, h[6]!, h[7]!)
  let (a, b, c, d, e, f, g, hh) := (List.range 64).foldl (fun st i =>
    let (a, b, c, d, e, f, g, hh) := st
    let s1 := rotr e 6 ^^^ rotr e 11 ^^^ rotr e 25
    let ch := (e &&& f) ^^^ ((~~~ e) &&& g)
    let t1 := hh + s1 + ch + roundConstants[i]! + w[i]!
    let s0 := rotr a 2 ^^^ rotr a 13 ^^^ rotr a 22
    let maj := (a &&& b) ^^^ (a &&& c) ^^^ (b &&& c)
    let t2 := s0 + maj
    (t1 + t2, a, b, c, d + t1, e, f, g)) start
  #[h[0]! + a, h[1]! + b, h[2]! + c, h[3]! + d, h[4]! + e, h[5]! + f, h[6]! + g, h[7]! + hh]

/-- The 32-byte SHA-256 digest of a message. -/
def sha256 (msg : List UInt8) : List UInt8 :=
  let bytes := pad msg
  let blocks := bytes.size / 64
  let h := (List.range blocks).foldl (fun h k => compress h (schedule bytes (64 * k))) initialHash
  h.toList.flatMap (fun (x : UInt32) => [(x >>> 24).toUInt8, (x >>> 16).toUInt8, (x >>> 8).toUInt8, x.toUInt8])

/-- The HMAC-SHA256 of a message under a key (RFC 2104): keys longer than the 64-byte block
are hashed first, and the key padded with zeros is mixed into an inner and an outer hash. -/
def hmacSha256 (key msg : List UInt8) : List UInt8 :=
  let key := if key.length > 64 then sha256 key else key
  let key := key ++ List.replicate (64 - key.length) 0
  let inner := key.map (· ^^^ 0x36)
  let outer := key.map (· ^^^ 0x5c)
  sha256 (outer ++ sha256 (inner ++ msg))

end JobEngine.Crypto
