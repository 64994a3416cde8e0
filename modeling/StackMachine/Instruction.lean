/-!
# Instructions

The instruction set of the stack machine: thirteen operations, three of which carry a 64-bit
operand. An operation has a position in the declaration order (`Opcode.index`, the number a
program image stores), an opcode byte (`Opcode.byte`, what a machine hash commits to) and a name
(`Opcode.name`, what the text formats use).

`Instruction.assemble_opcode_operand` says that an instruction is its operation together with its
operand, so a format that stores those two loses nothing.
-/

namespace StackMachine

/-- The operations, in declaration order. -/
inductive Opcode
  | nop | push | pop | dup | swap | add | sub | mul | jump | jumpIf | log | halt | error
  deriving DecidableEq

namespace Opcode

def all : List Opcode :=
  [nop, push, pop, dup, swap, add, sub, mul, jump, jumpIf, log, halt, error]

def index : Opcode → UInt32
  | nop => 0 | push => 1 | pop => 2 | dup => 3 | swap => 4 | add => 5 | sub => 6 | mul => 7
  | jump => 8 | jumpIf => 9 | log => 10 | halt => 11 | error => 12

def ofIndex? (i : UInt32) : Option Opcode := all[i.toNat]?

/-- The byte a machine hash commits to. -/
def byte : Opcode → UInt8
  | nop => 0x00 | push => 0x01 | pop => 0x02 | dup => 0x03 | swap => 0x04
  | add => 0x10 | sub => 0x11 | mul => 0x12
  | jump => 0x20 | jumpIf => 0x21
  | log => 0x30
  | halt => 0x40 | error => 0x41

def name : Opcode → String
  | nop => "nop" | push => "push" | pop => "pop" | dup => "dup" | swap => "swap"
  | add => "add" | sub => "sub" | mul => "mul"
  | jump => "jump" | jumpIf => "jump_if"
  | log => "log"
  | halt => "halt" | error => "error"

def names : List String := all.map name

def ofName? (s : String) : Option Opcode := all.find? (·.name == s)

/-- The name in diagnostics, in camel case. -/
def title : Opcode → String
  | nop => "Nop" | push => "Push" | pop => "Pop" | dup => "Dup" | swap => "Swap"
  | add => "Add" | sub => "Sub" | mul => "Mul"
  | jump => "Jump" | jumpIf => "JumpIf"
  | log => "Log"
  | halt => "Halt" | error => "Error"

def takesOperand : Opcode → Bool
  | push | jump | jumpIf => true
  | _ => false

theorem mem_all (op : Opcode) : op ∈ all := by cases op <;> decide

theorem ofIndex?_index (op : Opcode) : ofIndex? op.index = some op := by cases op <;> decide

theorem ofName?_name (op : Opcode) : ofName? op.name = some op := by cases op <;> decide

/-- Operations have different bytes in a hash. -/
theorem byte_inj {a b : Opcode} (h : a.byte = b.byte) : a = b := by
  cases a <;> cases b <;> simp_all [byte]

end Opcode

/-- One instruction. The operand of a push is a value, that of a jump an absolute position in the
code. -/
inductive Instruction
  | nop
  | push (value : UInt64)
  | pop
  | dup
  | swap
  | add
  | sub
  | mul
  | jump (target : UInt64)
  | jumpIf (target : UInt64)
  | log
  | halt
  | error
  deriving DecidableEq

namespace Instruction

def opcode : Instruction → Opcode
  | nop => .nop | push _ => .push | pop => .pop | dup => .dup | swap => .swap
  | add => .add | sub => .sub | mul => .mul
  | jump _ => .jump | jumpIf _ => .jumpIf
  | log => .log
  | halt => .halt | error => .error

def operand? : Instruction → Option UInt64
  | push v | jump v | jumpIf v => some v
  | _ => none

/-- Where a jump goes, taken or not. -/
def target? : Instruction → Option UInt64
  | jump t | jumpIf t => some t
  | _ => none

def gas : Instruction → UInt64
  | mul => 3
  | _ => 1

/-- The instruction of an operation and an operand; a needless operand is ignored. -/
def assemble (op : Opcode) (operand : UInt64) : Instruction :=
  match op with
  | .nop => nop | .push => push operand | .pop => pop | .dup => dup | .swap => swap
  | .add => add | .sub => sub | .mul => mul
  | .jump => jump operand | .jumpIf => jumpIf operand
  | .log => log
  | .halt => halt | .error => error

/-- The text in diagnostics: the title, and the operand in parentheses. -/
def display (i : Instruction) : String :=
  match i.operand? with
  | some v => i.opcode.title ++ "(" ++ toString v.toNat ++ ")"
  | none => i.opcode.title

theorem operand?_isSome (i : Instruction) : i.operand?.isSome = i.opcode.takesOperand := by
  cases i <;> rfl

/-- An instruction is its operation and its operand. -/
theorem assemble_opcode_operand (i : Instruction) :
    assemble i.opcode (i.operand?.getD 0) = i := by
  cases i <;> rfl

end Instruction

end StackMachine
