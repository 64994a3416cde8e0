/-!
# Little-endian words

32- and 64-bit words as bytes, the least significant byte first, and reading them at a position of
a byte string. `decode32_encode32` and `decode64_encode64` say that nothing is lost, and
`encode32_decode32` and `encode64_decode64` that every four or eight bytes are those of one word.
-/

namespace StackMachine.LittleEndian

def encode32 (x : UInt32) : List UInt8 :=
  [x.toUInt8, (x >>> 8).toUInt8, (x >>> 16).toUInt8, (x >>> 24).toUInt8]

def encode64 (x : UInt64) : List UInt8 :=
  [x.toUInt8, (x >>> 8).toUInt8, (x >>> 16).toUInt8, (x >>> 24).toUInt8,
   (x >>> 32).toUInt8, (x >>> 40).toUInt8, (x >>> 48).toUInt8, (x >>> 56).toUInt8]

def decode32 (b0 b1 b2 b3 : UInt8) : UInt32 :=
  b0.toUInt32 + (b1.toUInt32 <<< 8) + (b2.toUInt32 <<< 16) + (b3.toUInt32 <<< 24)

def decode64 (b0 b1 b2 b3 b4 b5 b6 b7 : UInt8) : UInt64 :=
  b0.toUInt64 + (b1.toUInt64 <<< 8) + (b2.toUInt64 <<< 16) + (b3.toUInt64 <<< 24) +
  (b4.toUInt64 <<< 32) + (b5.toUInt64 <<< 40) + (b6.toUInt64 <<< 48) + (b7.toUInt64 <<< 56)

/-- The 32-bit word at a position, if four bytes are left there. -/
def read32? (b : ByteArray) (pos : Nat) : Option UInt32 :=
  if h : pos + 4 ≤ b.size then
    some (decode32 b[pos] b[pos + 1] b[pos + 2] b[pos + 3])
  else none

/-- The 64-bit word at a position, if eight bytes are left there. -/
def read64? (b : ByteArray) (pos : Nat) : Option UInt64 :=
  if h : pos + 8 ≤ b.size then
    some (decode64 b[pos] b[pos + 1] b[pos + 2] b[pos + 3]
      b[pos + 4] b[pos + 5] b[pos + 6] b[pos + 7])
  else none

theorem length_encode32 (x : UInt32) : (encode32 x).length = 4 := rfl

theorem length_encode64 (x : UInt64) : (encode64 x).length = 8 := rfl

/-! ### Nothing is lost

Both directions are arithmetic on the values: the bytes of a word are its digits to the base 256.
-/

/-- A word is read back from its bytes. -/
theorem decode32_encode32 (x : UInt32) :
    decode32 x.toUInt8 (x >>> 8).toUInt8 (x >>> 16).toUInt8 (x >>> 24).toUInt8 = x := by
  apply UInt32.toNat.inj
  have := x.toNat_lt
  simp [decode32, Nat.shiftRight_eq_div_pow, Nat.shiftLeft_eq]
  omega

/-- And bytes from their word. -/
theorem encode32_decode32 (b0 b1 b2 b3 : UInt8) :
    encode32 (decode32 b0 b1 b2 b3) = [b0, b1, b2, b3] := by
  have := b0.toNat_lt; have := b1.toNat_lt; have := b2.toNat_lt; have := b3.toNat_lt
  simp only [encode32, List.cons.injEq, and_true, ← UInt8.toNat_inj]
  simp [decode32, Nat.shiftRight_eq_div_pow, Nat.shiftLeft_eq]
  omega

theorem decode64_encode64 (x : UInt64) :
    decode64 x.toUInt8 (x >>> 8).toUInt8 (x >>> 16).toUInt8 (x >>> 24).toUInt8
      (x >>> 32).toUInt8 (x >>> 40).toUInt8 (x >>> 48).toUInt8 (x >>> 56).toUInt8 = x := by
  apply UInt64.toNat.inj
  have := x.toNat_lt
  simp [decode64, Nat.shiftRight_eq_div_pow, Nat.shiftLeft_eq]
  omega

theorem encode64_decode64 (b0 b1 b2 b3 b4 b5 b6 b7 : UInt8) :
    encode64 (decode64 b0 b1 b2 b3 b4 b5 b6 b7) = [b0, b1, b2, b3, b4, b5, b6, b7] := by
  have := b0.toNat_lt; have := b1.toNat_lt; have := b2.toNat_lt; have := b3.toNat_lt
  have := b4.toNat_lt; have := b5.toNat_lt; have := b6.toNat_lt; have := b7.toNat_lt
  simp only [encode64, List.cons.injEq, and_true, ← UInt8.toNat_inj]
  simp [decode64, Nat.shiftRight_eq_div_pow, Nat.shiftLeft_eq]
  omega

end StackMachine.LittleEndian
