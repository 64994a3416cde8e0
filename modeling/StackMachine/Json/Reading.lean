import StackMachine.Core.Assertion
import StackMachine.Image.Basic
import StackMachine.Json.Skip
import StackMachine.Status

/-!
# Reading JSON

The readers of instructions, statuses, assertions and images.

* An instruction or a status is the name of its variant, or an object with the name as its only
  key: the operand goes with a variant that has one, and `null` with one that has none.
* An assertion or an image is an object with its fields in any order, other keys being left out,
  or a list of its fields in order.

Fields are checked as they are read; a missing field is noticed at the end of the object.
-/

namespace StackMachine.Json

variable {α : Type}

/-! ### Scalars -/

/-- Fails on a value that has the wrong type, after taking so much of it as its description needs.
-/
def invalidType (expected : String) : Read α := do
  let misfit (found : Found) : Read α := Reader.fail (.misfit (.invalidType found expected))
  let c ← peek
  if c = '-' ∨ c.isDigit then misfit (← number).found
  else
    match c with
    | '[' => misfit .sequence
    | '{' => misfit .map
    | _ => do
      Reader.skip
      match c with
      | 'n' => do word "ull"; misfit .null
      | 't' => do word "rue"; misfit (.boolean true)
      | 'f' => do word "alse"; misfit (.boolean false)
      | '"' => do misfit (.string (← stringBody))
      | _ => Reader.fail .malformed

/-- A whole number below `bound`, which is described by `expected`. -/
def natural (bound : Nat) (expected : String) : Read UInt64 := do
  let c ← peek
  if c = '-' ∨ c.isDigit then
    match ← number with
    | .natural n =>
      if n.toNat < bound then return n
      else Reader.fail (.misfit (.invalidValue (.integer n.toNat) expected))
    | .negative n => Reader.fail (.misfit (.invalidValue (Number.negative n).found expected))
    | .float x => Reader.fail (.misfit (.invalidType (Number.float x).found expected))
  else invalidType expected

def word64 : Read UInt64 := natural UInt64.size "u64"

def byte : Read UInt8 := do return (← natural UInt8.size "u8").toUInt8

def null : Read Unit := do
  if (← peek) = 'n' then
    Reader.skip
    word "ull"
  else invalidType "unit"

def string : Read String := do
  if (← peek) = '"' then
    Reader.skip
    stringBody
  else invalidType "a string"

def list (item : Read α) : Read (Array α) := do
  if (← peek) = '[' then
    Reader.skip
    elements item
  else invalidType "a sequence"

def digest : Read Digest := do
  match Digest.ofHex (← string) with
  | .ok d => return d
  | .error cause => Reader.fail (.misfit (.notAHash cause))

/-! ### Variants -/

/-- The variant of a name; the error lists the names there are. -/
def variant (ofName? : String → Option α) (known : List String) (name : String) : Read α :=
  match ofName? name with
  | some a => return a
  | none => Reader.fail (.misfit (.unknownVariant name known))

def instruction : Read Instruction := do
  match ← peek with
  | '"' => do
    Reader.skip
    let op ← variant Opcode.ofName? Opcode.names (← stringBody)
    if op.takesOperand then
      Reader.fail (.misfit (.invalidType .unitVariant "newtype variant"))
    return .assemble op 0
  | '{' => do
    Reader.skip
    expect '"'
    let op ← variant Opcode.ofName? Opcode.names (← stringBody)
    expect ':'
    let operand ← if op.takesOperand then word64 else do null; pure 0
    expect '}'
    return .assemble op operand
  | _ => Reader.fail .malformed

def status : Read Status := do
  match ← peek with
  | '"' => do
    Reader.skip
    variant Status.ofName? Status.names (← stringBody)
  | '{' => do
    Reader.skip
    expect '"'
    let s ← variant Status.ofName? Status.names (← stringBody)
    expect ':'
    null
    expect '}'
    return s
  | _ => Reader.fail .malformed

/-! ### Records -/

/-- The colon and the value of a field that must not have been read before. -/
def field (name : String) (before : Option α) (item : Read α) : Read (Option α) := do
  if before.isSome then Reader.fail (.misfit (.duplicateField name))
  expect ':'
  return some (← item)

/-- The colon and the value of a key that is not known. -/
def unknownField : Read Unit := do
  expect ':'
  skipValue

def required (name : String) : Option α → Read α
  | some a => return a
  | none => Reader.fail (.misfit (.missingField name))

structure PartialAssertion where
  beforeHash : Option Digest
  afterHash : Option Digest
  numSteps : Option UInt64
  numGas : Option UInt64
  logs : Option (Array UInt64)

def PartialAssertion.member (p : PartialAssertion) (key : String) : Read PartialAssertion := do
  match key with
  | "before_hash" => return { p with beforeHash := ← field key p.beforeHash digest }
  | "after_hash" => return { p with afterHash := ← field key p.afterHash digest }
  | "num_steps" => return { p with numSteps := ← field key p.numSteps word64 }
  | "num_gas" => return { p with numGas := ← field key p.numGas word64 }
  | "logs" => return { p with logs := ← field key p.logs (list word64) }
  | _ => do
    unknownField
    return p

def PartialAssertion.complete (p : PartialAssertion) : Read Assertion := do
  return {
    beforeHash := ← required "before_hash" p.beforeHash
    afterHash := ← required "after_hash" p.afterHash
    numSteps := ← required "num_steps" p.numSteps
    numGas := ← required "num_gas" p.numGas
    logs := ← required "logs" p.logs }

def assertion : Read Assertion := do
  match ← peek with
  | '{' => do
    Reader.skip
    let p ← members stringBody PartialAssertion.member ⟨none, none, none, none, none⟩
    p.complete
  | '[' => do
    Reader.skip
    let expected := "struct Assertion with 5 elements"
    let beforeHash ← element 0 expected digest
    let afterHash ← element 1 expected digest
    let numSteps ← element 2 expected word64
    let numGas ← element 3 expected word64
    let logs ← element 4 expected (list word64)
    endList
    return { beforeHash, afterHash, numSteps, numGas, logs }
  | _ => invalidType "struct Assertion"

def magic : Read Magic := do
  let expected := "an array of length 4"
  if (← peek) = '[' then
    Reader.skip
    let b0 ← element 0 expected byte
    let b1 ← element 1 expected byte
    let b2 ← element 2 expected byte
    let b3 ← element 3 expected byte
    endList
    return #v[b0, b1, b2, b3]
  else invalidType expected

structure PartialImage where
  magic : Option Magic
  code : Option (Array Instruction)

def PartialImage.member (p : PartialImage) (key : String) : Read PartialImage := do
  match key with
  | "magic" => return { p with magic := ← field key p.magic Json.magic }
  | "code" => return { p with code := ← field key p.code (list instruction) }
  | _ => do
    unknownField
    return p

def PartialImage.complete (p : PartialImage) : Read Image := do
  return {
    magic := ← required "magic" p.magic
    code := ← required "code" p.code }

def image : Read Image := do
  match ← peek with
  | '{' => do
    Reader.skip
    let p ← members stringBody PartialImage.member ⟨none, none⟩
    p.complete
  | '[' => do
    Reader.skip
    let expected := "struct ProgramImage with 2 elements"
    let magic ← element 0 expected magic
    let code ← element 1 expected (list instruction)
    endList
    return { magic, code }
  | _ => invalidType "struct ProgramImage"

def parse (read : Read α) (text : String) : Except Fault α :=
  Reader.readAll (do let a ← read; Reader.skipWhile isBlank; return a) .malformed text.toList

end StackMachine.Json
