/-!
# ServiceDoubles.Digest.Sha256

The SHA-256 digest of a list of bytes: the message is padded to whole blocks of 64 bytes, and every
block is mixed into a state of eight 32-bit words. All additions are modulo 2^32.
-/

namespace ServiceDoubles.Sha256

/-- The eight words of the state. -/
structure State where
  a : UInt32
  b : UInt32
  c : UInt32
  d : UInt32
  e : UInt32
  f : UInt32
  g : UInt32
  h : UInt32

/-- The state before the first block. -/
def start : State :=
  ⟨0x6a09e667, 0xbb67ae85, 0x3c6ef372, 0xa54ff53a, 0x510e527f, 0x9b05688c, 0x1f83d9ab, 0x5be0cd19⟩

/-- One constant for each of the 64 rounds. -/
def roundConstants : List UInt32 :=
  [0x428a2f98, 0x71374491, 0xb5c0fbcf, 0xe9b5dba5, 0x3956c25b, 0x59f111f1, 0x923f82a4, 0xab1c5ed5,
   0xd807aa98, 0x12835b01, 0x243185be, 0x550c7dc3, 0x72be5d74, 0x80deb1fe, 0x9bdc06a7, 0xc19bf174,
   0xe49b69c1, 0xefbe4786, 0x0fc19dc6, 0x240ca1cc, 0x2de92c6f, 0x4a7484aa, 0x5cb0a9dc, 0x76f988da,
   0x983e5152, 0xa831c66d, 0xb00327c8, 0xbf597fc7, 0xc6e00bf3, 0xd5a79147, 0x06ca6351, 0x14292967,
   0x27b70a85, 0x2e1b2138, 0x4d2c6dfc, 0x53380d13, 0x650a7354, 0x766a0abb, 0x81c2c92e, 0x92722c85,
   0xa2bfe8a1, 0xa81a664b, 0xc24b8b70, 0xc76c51a3, 0xd192e819, 0xd6990624, 0xf40e3585, 0x106aa070,
   0x19a4c116, 0x1e376c08, 0x2748774c, 0x34b0bcb5, 0x391c0cb3, 0x4ed8aa4a, 0x5b9cca4f, 0x682e6ff3,
   0x748f82ee, 0x78a5636f, 0x84c87814, 0x8cc70208, 0x90befffa, 0xa4506ceb, 0xbef9a3f7, 0xc67178f2]

/-- `x` turned right by `n` bits. -/
def turn (x n : UInt32) : UInt32 := x >>> n ||| x <<< (32 - n)

/-- The four mixing functions of one word. -/
def bigSigma0 (x : UInt32) : UInt32 := turn x 2 ^^^ turn x 13 ^^^ turn x 22
@[inherit_doc bigSigma0] def bigSigma1 (x : UInt32) : UInt32 := turn x 6 ^^^ turn x 11 ^^^ turn x 25
@[inherit_doc bigSigma0] def smallSigma0 (x : UInt32) : UInt32 := turn x 7 ^^^ turn x 18 ^^^ x >>> 3
@[inherit_doc bigSigma0] def smallSigma1 (x : UInt32) : UInt32 :=
  turn x 17 ^^^ turn x 19 ^^^ x >>> 10

/-- Takes each bit of `y` where `x` has a one, and of `z` elsewhere. -/
def choose (x y z : UInt32) : UInt32 := (x &&& y) ^^^ (~~~x &&& z)

/-- Takes each bit that at least two of the three words have. -/
def majority (x y z : UInt32) : UInt32 := (x &&& y) ^^^ (x &&& z) ^^^ (y &&& z)

/-- The big-endian words of a list of bytes. -/
def words : List UInt8 → List UInt32
  | a :: b :: c :: d :: rest =>
    (a.toUInt32 <<< 24 ||| b.toUInt32 <<< 16 ||| c.toUInt32 <<< 8 ||| d.toUInt32) :: words rest
  | _ => []

/-- The word that follows the words of the schedule so far. -/
def nextWord (w : Array UInt32) : UInt32 :=
  let back (n : Nat) := w.getD (w.size - n) 0
  smallSigma1 (back 2) + back 7 + smallSigma0 (back 15) + back 16

/-- The 64 words of the rounds, from the 16 words of a block. -/
def schedule (block : List UInt8) : List UInt32 :=
  ((List.range 48).foldl (fun w _ => w.push (nextWord w)) (words block).toArray).toList

/-- One round. -/
def round (s : State) (constant word : UInt32) : State :=
  let t1 := s.h + bigSigma1 s.e + choose s.e s.f s.g + constant + word
  let t2 := bigSigma0 s.a + majority s.a s.b s.c
  ⟨t1 + t2, s.a, s.b, s.c, s.d + t1, s.e, s.f, s.g⟩

/-- Mixes one block into the state. -/
def mix (s : State) (block : List UInt8) : State :=
  let r := (roundConstants.zip (schedule block)).foldl (fun s p => round s p.1 p.2) s
  ⟨s.a + r.a, s.b + r.b, s.c + r.c, s.d + r.d, s.e + r.e, s.f + r.f, s.g + r.g, s.h + r.h⟩

/-- The `n` big-endian bytes of `value`. -/
def bigEndian (n value : Nat) : List UInt8 :=
  (List.range n).map fun i => (value >>> (8 * (n - 1 - i))).toUInt8

/-- The padding of a message of `size` bytes: a one bit, zeros, and the length in bits. -/
def padding (size : Nat) : List UInt8 :=
  0x80 :: (List.replicate ((119 - size % 64) % 64) 0 ++ bigEndian 8 (8 * size))

/-- Mixes the next `count` blocks of a padded message into the state. -/
def mixAll (s : State) : Nat → List UInt8 → State
  | 0, _ => s
  | count + 1, message => mixAll (mix s (message.take 64)) count (message.drop 64)

/-- The digest, 32 bytes. -/
def digest (message : List UInt8) : List UInt8 :=
  let size := message.length
  let s := mixAll start ((size + 72) / 64) (message ++ padding size)
  [s.a, s.b, s.c, s.d, s.e, s.f, s.g, s.h].flatMap fun w => bigEndian 4 w.toNat

/-- The digest in lower case hexadecimal digits, two for each byte. -/
def hexDigest (message : List UInt8) : List Char :=
  (digest message).flatMap fun b =>
    [Nat.digitChar (b.toNat / 16), Nat.digitChar (b.toNat % 16)]

end ServiceDoubles.Sha256
