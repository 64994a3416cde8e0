import StackMachine.Text.Display

/-!
# Hexadecimal text

Bytes as pairs of hexadecimal digits. Writing uses lower case; reading takes either case and says
what is wrong with any other text, in this order: an odd number of bytes, then the first byte that
is no digit. Reading looks at the UTF-8 bytes of the text, so positions count bytes.
-/

namespace StackMachine.Hex

/-- Why a text is not a sequence of digit pairs. -/
inductive DecodeError
  | oddLength
  | invalidDigit (byte : UInt8) (position : Nat)
  deriving DecidableEq

/-- The message; a byte that is no digit is shown as the character of that number. -/
def DecodeError.message : DecodeError → String
  | oddLength => "Odd number of digits"
  | invalidDigit byte position =>
    "Invalid character " ++ Quoted.char (Char.ofNat byte.toNat) ++ " at position " ++
      toString position

def digit (n : Nat) : Char := (Nat.digitChar n)

def encodeByte (b : UInt8) : List Char := [digit (b.toNat / 16), digit (b.toNat % 16)]

def encode (bytes : List UInt8) : String := String.ofList (bytes.flatMap encodeByte)

def value? (b : UInt8) : Option UInt8 :=
  if 0x30 ≤ b ∧ b ≤ 0x39 then some (b - 0x30)
  else if 0x61 ≤ b ∧ b ≤ 0x66 then some (b - 0x61 + 10)
  else if 0x41 ≤ b ∧ b ≤ 0x46 then some (b - 0x41 + 10)
  else none

def valueAt (position : Nat) (b : UInt8) : Except DecodeError UInt8 :=
  match value? b with
  | some v => .ok v
  | none => .error (.invalidDigit b position)

/-- Reads digit pairs, the first of them at a position. -/
def decodePairs (position : Nat) : List UInt8 → Except DecodeError (List UInt8)
  | hi :: lo :: rest => do
    let h ← valueAt position hi
    let l ← valueAt (position + 1) lo
    let bytes ← decodePairs (position + 2) rest
    return (h * 16 + l) :: bytes
  | _ => .ok []

def decodeBytes (text : List UInt8) : Except DecodeError (List UInt8) :=
  if text.length % 2 = 1 then .error .oddLength else decodePairs 0 text

def decode (text : String) : Except DecodeError (List UInt8) := decodeBytes text.toUTF8.data.toList

end StackMachine.Hex
