import StackMachine.Core.Assertion
import StackMachine.Image.Basic
import StackMachine.Json.Value
import StackMachine.Status

/-!
# Writing JSON

The JSON values of instructions, statuses, assertions and images. Fields are written in declaration
order, hashes as lower-case hexadecimal text, and words as decimal numbers with all their digits.
-/

namespace StackMachine

namespace Json.Value

def word (w : UInt64) : Value := natural w.toNat

end Json.Value

open Json (Value)

/-- The name of the operation, or an object that gives the name its operand. -/
def Instruction.toJson (i : Instruction) : Value :=
  match i.operand? with
  | some v => .object [(i.opcode.name, .word v)]
  | none => .string i.opcode.name

def Status.toJson (s : Status) : Value := .string s.name

def Assertion.toJson (a : Assertion) : Value :=
  .object [
    ("before_hash", .string a.beforeHash.toHex),
    ("after_hash", .string a.afterHash.toHex),
    ("num_steps", .word a.numSteps),
    ("num_gas", .word a.numGas),
    ("logs", .list (a.logs.toList.map .word))]

def Image.toJson (image : Image) : Value :=
  .object [
    ("magic", .list (image.magic.toList.map fun b => .natural b.toNat)),
    ("code", .list (image.code.toList.map Instruction.toJson))]

end StackMachine
