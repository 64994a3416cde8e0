import StackMachine.Files.OsError
import StackMachine.Image.Basic
import StackMachine.Text.Display

/-!
# Failures

Why a machine could not be loaded or could not answer. A failure is a cause, not a text: `message`
gives its wording and `causes` the messages of the failures below it, outermost first. A machine
that loads on first use wraps the failure of that load in `loadFailed`, so `causes` of the wrapper
is the message of the wrapped failure followed by its own causes (`Failure.causes_loadFailed`).
-/

namespace StackMachine

/-- Why a machine could not be loaded, or could not answer. -/
inductive Failure
  | io (path : String) (cause : OsError)
  | codec (cause : CodecError)
  | badMagic (found : Magic)
  | tooLarge (limit : Nat)
  | emptyProgram
  | invalidJump (pc : Nat) (target : UInt64)
  | loadFailed (path : String) (source : Failure)
  | divergence (context expected actual : String)
  deriving DecidableEq

namespace Failure

def message : Failure → String
  | io path cause => "failed to access program file " ++ path ++ ": " ++ cause.message
  | codec cause => "program image codec error: " ++ cause.message
  | badMagic found => "bad program magic " ++ Bracketed.bytes found.toList
  | tooLarge limit => "program image exceeds " ++ toString limit ++ " bytes"
  | emptyProgram => "program has no instructions"
  | invalidJump pc target =>
    "instruction " ++ toString pc ++ " jumps to " ++ toString target.toNat ++
      ", outside of program"
  | loadFailed path source => "machine at " ++ path ++ " failed to load: " ++ source.message
  | divergence context expected actual =>
    "backends diverged on " ++ context ++ ": reference " ++ expected ++ ", native " ++ actual

/-- The messages of the causes below a failure, outermost first. -/
def causes : Failure → List String
  | io _ cause => [cause.message]
  | codec cause => [cause.message]
  | loadFailed _ source => source.message :: source.causes
  | _ => []

theorem causes_loadFailed (path : String) (source : Failure) :
    (loadFailed path source).causes = source.message :: source.causes := rfl

end Failure

end StackMachine
