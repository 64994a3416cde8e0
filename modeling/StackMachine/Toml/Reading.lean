import StackMachine.Instruction
import StackMachine.Toml.Document

/-!
# Reading typed data from TOML

The values of nodes that have the right type, and the mismatch of those that have not.
-/

namespace StackMachine.Toml.Node

def invalidType {α : Type} (node : Node) (expected : String) : Except Mismatch α :=
  .error (.invalidType node.found expected)

def asString (node : Node) : Except Mismatch String :=
  match node with
  | string s => .ok s
  | _ => node.invalidType "a string"

def asBool (node : Node) : Except Mismatch Bool :=
  match node with
  | boolean b => .ok b
  | _ => node.invalidType "a boolean"

def asWord (node : Node) : Except Mismatch UInt64 :=
  match node with
  | integer n => if n < 0 then .error (.invalidValue (.integer n) "u64") else .ok n.toNat.toUInt64
  | _ => node.invalidType "u64"

/-- The elements of a list; the tables of headers in double brackets are one, too. -/
def asList (node : Node) : Except Mismatch (List Node) :=
  match node with
  | array items | tables items => .ok items
  | _ => node.invalidType "a sequence"

def opcode (name : String) : Except Mismatch Opcode :=
  match Opcode.ofName? name with
  | some op => .ok op
  | none => .error (.unknownVariant name Opcode.names)

/-- The value given to an operation without an operand: an empty table or list. A list in place is
asked for as if it were a table; only the tables of headers in double brackets count as a list. -/
def asNothing (node : Node) : Except Mismatch Unit :=
  match node with
  | table _ [] | array [] | tables [] => .ok ()
  | table _ _ | array _ => .error (.notEmpty "table")
  | tables _ => .error (.notEmpty "array")
  | _ => .error (.notATable node.kind)

/-- An instruction: the name of an operation without an operand, or a table that gives the name its
operand. -/
def asInstruction (node : Node) : Except Mismatch Instruction :=
  match node with
  | string name => do
    let op ← opcode name
    if op.takesOperand then .error (.invalidType .unitVariant "newtype variant")
    else .ok (.assemble op 0)
  | table _ [] => .error .noElement
  | table _ [(name, operand)] => do
    let op ← opcode name
    if op.takesOperand then return .assemble op (← operand.asWord)
    else do
      operand.asNothing
      return .assemble op 0
  | table _ _ => .error .severalElements
  | _ => .error .notStringOrTable

end StackMachine.Toml.Node
