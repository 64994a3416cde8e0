import StackMachine.Bytes.Hex
import StackMachine.Digest.Sha256

/-!
# Hashes as text

A hash is written as 64 lower-case hexadecimal digits and read back in either case. A text that
fails is reported as the hexadecimal reader reports it, and a well-formed one of another length by
its number of bytes.
-/

namespace StackMachine.Digest

inductive TextError
  | hex (cause : Hex.DecodeError)
  | length (found : Nat)
  deriving DecidableEq

def TextError.message : TextError → String
  | hex cause => cause.message
  | length found => "expected 32 bytes, got " ++ toString found

def toHex (d : Digest) : String := Hex.encode d.toList

def ofHex (text : String) : Except TextError Digest :=
  match Hex.decode text with
  | .error cause => .error (.hex cause)
  | .ok bytes =>
    if h : bytes.length = 32 then .ok ⟨bytes.toArray, by simpa using h⟩
    else .error (.length bytes.length)

end StackMachine.Digest
