import StackMachine.Machine.Failure

/-!
# Reading program images

`Image.parse` reads an image of any magic and accepts nothing but the one byte string that
`Image.encode` writes for it; `Image.decode` then asks for the magic of a program. Elements are read
in order, and the bytes decide: a declared count that is larger than what follows ends in
`unexpectedEnd` after at most a quarter as many elements as there are bytes.
-/

namespace StackMachine.Image

open LittleEndian

/-- Reads the instruction at a position; also gives the position after it. -/
def readInstruction (b : ByteArray) (pos : Nat) : Except CodecError (Instruction × Nat) :=
  match read32? b pos with
  | none => .error .unexpectedEnd
  | some index =>
    match Opcode.ofIndex? index with
    | none => .error (.unknownOpcode index)
    | some op =>
      if op.takesOperand then
        match read64? b (pos + 4) with
        | none => .error .unexpectedEnd
        | some v => .ok (.assemble op v, pos + 12)
      else .ok (.assemble op 0, pos + 4)

/-- Reads a number of instructions from a position on, after those already read. -/
def readCode (b : ByteArray) :
    Nat → Nat → Array Instruction → Except CodecError (Array Instruction × Nat)
  | 0, pos, code => .ok (code, pos)
  | n + 1, pos, code =>
    match readInstruction b pos with
    | .error e => .error e
    | .ok (i, next) => readCode b n next (code.push i)

def parse (b : ByteArray) : Except CodecError Image :=
  if h : 4 ≤ b.size then
    match read64? b 4 with
    | none => .error .unexpectedEnd
    | some count =>
      match readCode b count.toNat 12 #[] with
      | .error e => .error e
      | .ok (code, last) =>
        if last < b.size then .error .trailingBytes
        else .ok ⟨#v[b[0], b[1], b[2], b[3]], code⟩
  else .error .unexpectedEnd

/-- Reads a program image. The magic is looked at last, so bytes that are no image at all are
reported as such whatever they start with. -/
def decode (b : ByteArray) : Except Failure Image :=
  match parse b with
  | .error e => .error (.codec e)
  | .ok image =>
    if image.magic = Magic.program then .ok image else .error (.badMagic image.magic)

end StackMachine.Image
