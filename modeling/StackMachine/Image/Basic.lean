import StackMachine.Instruction
import StackMachine.Bytes.LittleEndian

/-!
# Program images

A program on disk is an image: four magic bytes and the code. This module has the type, the bytes of
an image, and the ways in which bytes fail to be one.

The format is flat: the magic, the number of instructions as a 64-bit word, and for each instruction
the position of its operation as a 32-bit word followed by the operand, if there is one, as a 64-bit
word. All words are little-endian.
-/

namespace StackMachine

/-- The four bytes a file starts with. -/
abbrev Magic := Vector UInt8 4

/-- The magic of a program image, `AVM1`. -/
def Magic.program : Magic := #v[0x41, 0x56, 0x4d, 0x31]

/-- Magic bytes and code; the magic of a decoded image need not be that of a program. -/
structure Image where
  magic : Magic
  code : Array Instruction
  deriving DecidableEq

namespace Image

/-- No image file may be longer than this. -/
def maxBytes : Nat := 16 * 1024 * 1024

def ofCode (code : Array Instruction) : Image := ⟨Magic.program, code⟩

end Image

def Instruction.bytes (i : Instruction) : List UInt8 :=
  LittleEndian.encode32 i.opcode.index ++
    match i.operand? with
    | some v => LittleEndian.encode64 v
    | none => []

def Image.bytes (image : Image) : List UInt8 :=
  image.magic.toList ++ LittleEndian.encode64 image.code.size.toUInt64 ++
    image.code.toList.flatMap Instruction.bytes

/-- The bytes of an image, as a file holds them. -/
def Image.encode (image : Image) : ByteArray := image.bytes.toByteArray

/-- Why a byte string is not an image of any magic. Reading one never fails with `other`, which is
for machines that are made by a codec of their own. -/
inductive CodecError
  | unexpectedEnd
  | trailingBytes
  | unknownOpcode (index : UInt32)
  | other (text : String)
  deriving DecidableEq

def CodecError.message : CodecError → String
  | unexpectedEnd => "io error: unexpected end of file"
  | trailingBytes => "Slice had bytes remaining after deserialization"
  | unknownOpcode index =>
    "invalid value: integer `" ++ toString index.toNat ++ "`, expected variant index 0 <= i < " ++
      toString Opcode.all.length
  | other text => text

end StackMachine
