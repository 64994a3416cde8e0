import StackMachine.Action

/-!
# Attempts and operations

Actions that can fail. An `Attempt` ends in a result or in a failure; an `Operation` on a machine
also leaves a machine behind, in either case, because a machine can change although the operation
fails.

The first attempts are those that read an image from a file and write one to it. Only reading has a
limit on the size: one byte more than the limit is asked for, so that a file that is too large is
noticed without reading all of it.
-/

namespace StackMachine

abbrev Attempt := ExceptT Failure Action

/-- An action on a machine of type `σ`, which can fail. -/
abbrev Operation (σ : Type) := ExceptT Failure (StateT σ Action)

namespace Operation

def on {σ α : Type} (op : Operation σ α) (machine : σ) : Action (Except Failure α × σ) :=
  StateT.run (ExceptT.run op) machine

/-- An operation on a part of a machine; `whole` puts the part back, whether the operation succeeds
or not. -/
def within {σ τ α : Type} (op : Operation τ α) (part : τ) (whole : τ → σ) : Operation σ α := do
  let (result, part) ← op.on part
  set (whole part)
  result

end Operation

namespace Image

def fileBytes (path : String) : Attempt ByteArray := do
  match ← readFile path (some (maxBytes + 1)) with
  | .error cause => throw (.io path cause)
  | .ok bytes => if maxBytes < bytes.size then throw (.tooLarge maxBytes) else return bytes

/-- Reads the program image of a file. It need not be valid. -/
def load (path : String) : Attempt Image := do
  decode (← fileBytes path)

def store (image : Image) (path : String) : Attempt Unit := do
  match ← writeFile path image.encode with
  | .error cause => throw (.io path cause)
  | .ok () => return ()

end Image

end StackMachine
