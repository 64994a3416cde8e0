import Std.Data.HashSet
import StackMachine.Image.Codec

/-!
# Validating programs

A program must have code, and every jump, taken or not, must stay inside it; the first jump that
does not is the one reported. Beyond that there are findings that do not stop a program from being
loaded: no halt anywhere, and instructions that neither follow from the one before nor are the
target of a jump.
-/

namespace StackMachine

/-- Something odd about a valid program. -/
inductive Finding
  | noHalt
  | unreachable (pc : Nat)
  deriving DecidableEq

def Finding.message : Finding → String
  | noHalt => "program has no halt instruction"
  | unreachable pc => "instruction " ++ toString pc ++ " is unreachable"

/-- Whether control can pass from an instruction to the one after it. -/
def Instruction.fallsThrough : Instruction → Bool
  | halt | error | jump _ => false
  | _ => true

namespace Image

/-- The first jump at or after `pc` that leaves a program of length `len`, given the code from `pc`
on. -/
def firstEscape (len : Nat) : Nat → List Instruction → Option (Nat × UInt64)
  | _, [] => none
  | pc, i :: rest =>
    match i.target? with
    | some target => if len ≤ target.toNat then some (pc, target) else firstEscape len (pc + 1) rest
    | none => firstEscape len (pc + 1) rest

def targets (code : Array Instruction) : Std.HashSet Nat :=
  Std.HashSet.ofList (code.toList.filterMap fun i => i.target?.map UInt64.toNat)

/-- Whether the instruction at `pc` can be reached neither from the one before nor by a jump. -/
def isCutOff (code : Array Instruction) (targets : Std.HashSet Nat) (pc : Nat) : Bool :=
  match code[pc - 1]? with
  | some before => !before.fallsThrough && !targets.contains pc
  | none => false

def unreachable (code : Array Instruction) : List Nat :=
  let targets := targets code
  (List.range' 1 (code.size - 1)).filter (isCutOff code targets)

/-- The findings on a valid program: a missing halt, then the unreachable positions in order. -/
def findings (code : Array Instruction) : List Finding :=
  (if code.contains .halt then [] else [.noHalt]) ++ (unreachable code).map .unreachable

/-- Checks a program, whatever its magic. -/
def validate (image : Image) : Except Failure (List Finding) :=
  if image.code.isEmpty then .error .emptyProgram
  else
    match firstEscape image.code.size 0 image.code.toList with
    | some (pc, target) => .error (.invalidJump pc target)
    | none => .ok (findings image.code)

end Image

end StackMachine
