import StackMachine.Digest.Text
import StackMachine.Image.Basic
import StackMachine.Status

/-!
# Machine cores

The state of a stack machine: its code, which never changes, and a program counter, a stack and a
status, which do. The stack grows at the end of an array.

A core is identified by a hash. What the hash commits to is given separately from the hash
function, as byte strings: `Core.codeBytes` for the code and `Core.stateBytes` for the rest, so
that two states can be compared by the bytes that are hashed for them.
-/

namespace StackMachine

/-- The state of a stack machine. The digest of the code is kept, so that hashing a state does not
go through the code again. -/
structure Core where
  code : Array Instruction
  codeDigest : Digest
  pc : UInt64
  stack : Array UInt64
  status : Status
  deriving DecidableEq

namespace Core

def maxDepth : Nat := 65536

/-- What the digest of the code commits to for one instruction: the opcode byte and the operand. -/
def instructionBytes (i : Instruction) : List UInt8 :=
  i.opcode.byte ::
    match i.operand? with
    | some v => LittleEndian.encode64 v
    | none => []

def codeBytes (code : List Instruction) : List UInt8 := code.flatMap instructionBytes

/-- What the hash of a core commits to: the digest of its code, the program counter, the status, and
the stack with its depth, the bottom value first. -/
def stateBytes (codeDigest : Digest) (pc : UInt64) (status : Status) (stack : List UInt64) :
    List UInt8 :=
  codeDigest.toList ++ LittleEndian.encode64 pc ++ [status.tag] ++
    LittleEndian.encode64 stack.length.toUInt64 ++ stack.flatMap LittleEndian.encode64

/-- A core about to run the code of an image, which need not be valid. -/
def ofImage (image : Image) : Core where
  code := image.code
  codeDigest := Sha256.hash (codeBytes image.code.toList)
  pc := 0
  stack := #[]
  status := .extensive

def hash (c : Core) : Digest :=
  Sha256.hash (stateBytes c.codeDigest c.pc c.status c.stack.toList)

end Core

end StackMachine
