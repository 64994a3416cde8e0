/-!
# SHA-256

The hash function of FIPS 180-4 on byte strings whose length is a whole number of bytes: padding to
blocks of 64 bytes, the message schedule of 64 words, and 64 rounds a block. A digest is a vector of
32 bytes, so its length needs no theorem.
-/

namespace StackMachine

abbrev Digest := Vector UInt8 32

namespace Sha256

/-- The first 32 bits of the fractional parts of the cube roots of the first 64 primes. -/
def roundConstants : Array UInt32 :=
  #[0x428a2f98, 0x71374491, 0xb5c0fbcf, 0xe9b5dba5, 0x3956c25b, 0x59f111f1, 0x923f82a4, 0xab1c5ed5,
   0xd807aa98, 0x12835b01, 0x243185be, 0x550c7dc3, 0x72be5d74, 0x80deb1fe, 0x9bdc06a7, 0xc19bf174,
   0xe49b69c1, 0xefbe4786, 0x0fc19dc6, 0x240ca1cc, 0x2de92c6f, 0x4a7484aa, 0x5cb0a9dc, 0x76f988da,
   0x983e5152, 0xa831c66d, 0xb00327c8, 0xbf597fc7, 0xc6e00bf3, 0xd5a79147, 0x06ca6351, 0x14292967,
   0x27b70a85, 0x2e1b2138, 0x4d2c6dfc, 0x53380d13, 0x650a7354, 0x766a0abb, 0x81c2c92e, 0x92722c85,
   0xa2bfe8a1, 0xa81a664b, 0xc24b8b70, 0xc76c51a3, 0xd192e819, 0xd6990624, 0xf40e3585, 0x106aa070,
   0x19a4c116, 0x1e376c08, 0x2748774c, 0x34b0bcb5, 0x391c0cb3, 0x4ed8aa4a, 0x5b9cca4f, 0x682e6ff3,
   0x748f82ee, 0x78a5636f, 0x84c87814, 0x8cc70208, 0x90befffa, 0xa4506ceb, 0xbef9a3f7, 0xc67178f2]

/-- The eight words that a block is mixed into. -/
structure State where
  a : UInt32
  b : UInt32
  c : UInt32
  d : UInt32
  e : UInt32
  f : UInt32
  g : UInt32
  h : UInt32
  deriving DecidableEq

/-- The first 32 bits of the fractional parts of the square roots of the first eight primes. -/
def State.initial : State :=
  ⟨0x6a09e667, 0xbb67ae85, 0x3c6ef372, 0xa54ff53a,
   0x510e527f, 0x9b05688c, 0x1f83d9ab, 0x5be0cd19⟩

def State.add (s t : State) : State :=
  ⟨s.a + t.a, s.b + t.b, s.c + t.c, s.d + t.d, s.e + t.e, s.f + t.f, s.g + t.g, s.h + t.h⟩

@[inline] def rotate (x n : UInt32) : UInt32 := (x >>> n) ||| (x <<< (32 - n))

/-- The function written σ₀ in the standard. -/
@[inline] def scheduleLow (x : UInt32) : UInt32 := rotate x 7 ^^^ rotate x 18 ^^^ (x >>> 3)

/-- The function written σ₁ in the standard. -/
@[inline] def scheduleHigh (x : UInt32) : UInt32 := rotate x 17 ^^^ rotate x 19 ^^^ (x >>> 10)

/-- The function written Σ₀ in the standard. -/
@[inline] def mixLow (x : UInt32) : UInt32 := rotate x 2 ^^^ rotate x 13 ^^^ rotate x 22

/-- The function written Σ₁ in the standard. -/
@[inline] def mixHigh (x : UInt32) : UInt32 := rotate x 6 ^^^ rotate x 11 ^^^ rotate x 25

/-- Each bit of `x` chooses a bit of `y` or of `z`. -/
@[inline] def choose (x y z : UInt32) : UInt32 := (x &&& y) ^^^ (~~~x &&& z)

/-- The value that at least two of the three bits have. -/
@[inline] def majority (x y z : UInt32) : UInt32 := (x &&& y) ^^^ (x &&& z) ^^^ (y &&& z)

/-- The big-endian word at a position; bytes past the end count as zero. -/
def word (m : ByteArray) (pos : Nat) : UInt32 :=
  let byte (i : Nat) : UInt32 := if h : i < m.size then m[i].toUInt32 else 0
  (byte pos <<< 24) ||| (byte (pos + 1) <<< 16) ||| (byte (pos + 2) <<< 8) ||| byte (pos + 3)

def blockWords (m : ByteArray) (pos : Nat) : Nat → Array UInt32 → Array UInt32
  | 0, w => w
  | n + 1, w => blockWords m pos n (w.push (word m (pos + 4 * w.size)))

def extend : Nat → Array UInt32 → Array UInt32
  | 0, w => w
  | n + 1, w =>
    let t := w.size
    let next := scheduleHigh (w.getD (t - 2) 0) + w.getD (t - 7) 0 +
      scheduleLow (w.getD (t - 15) 0) + w.getD (t - 16) 0
    extend n (w.push next)

/-- One round with the schedule word and the round constant added up in `kw`. -/
@[inline] def round (kw : UInt32) (s : State) : State :=
  let t1 := s.h + mixHigh s.e + choose s.e s.f s.g + kw
  let t2 := mixLow s.a + majority s.a s.b s.c
  ⟨t1 + t2, s.a, s.b, s.c, s.d + t1, s.e, s.f, s.g⟩

def rounds (w : Array UInt32) : Nat → State → State
  | 0, s => s
  | n + 1, s => rounds w n (round (roundConstants.getD (63 - n) 0 + w.getD (63 - n) 0) s)

def compress (m : ByteArray) (pos : Nat) (s : State) : State :=
  s.add (rounds (extend 48 (blockWords m pos 16 (Array.mkEmpty 64))) 64 s)

/-- Mixes `n` blocks, starting at a position. -/
def absorb (m : ByteArray) (pos : Nat) : Nat → State → State
  | 0, s => s
  | n + 1, s => absorb m (pos + 64) n (compress m pos s)

def appendZeros : Nat → ByteArray → ByteArray
  | 0, m => m
  | n + 1, m => appendZeros n (m.push 0)

def bigEndian64 (x : UInt64) : List UInt8 :=
  [(x >>> 56).toUInt8, (x >>> 48).toUInt8, (x >>> 40).toUInt8, (x >>> 32).toUInt8,
   (x >>> 24).toUInt8, (x >>> 16).toUInt8, (x >>> 8).toUInt8, x.toUInt8]

/-- A one bit, zeros up to eight bytes before the end of a block, and the length in bits. -/
def pad (m : ByteArray) : ByteArray :=
  let zeros := (119 - m.size % 64) % 64
  (bigEndian64 (8 * m.size).toUInt64).foldl ByteArray.push (appendZeros zeros (m.push 0x80))

def bigEndian32 (x : UInt32) : List UInt8 :=
  [(x >>> 24).toUInt8, (x >>> 16).toUInt8, (x >>> 8).toUInt8, x.toUInt8]

def State.digest (s : State) : Digest :=
  ⟨([s.a, s.b, s.c, s.d, s.e, s.f, s.g, s.h].flatMap bigEndian32).toArray, by
    simp [bigEndian32]⟩

def hashArray (m : ByteArray) : Digest :=
  let padded := pad m
  (absorb padded 0 (padded.size / 64) State.initial).digest

def hash (message : List UInt8) : Digest := hashArray message.toByteArray

end Sha256

end StackMachine
