import StackMachine.Command.Dispatch
import StackMachine.Log.Filter

/-!
# The program

A run of the whole program, from its arguments to its exit code. What it prints is its answer on the
standard output, after the lines of the log, and its complaint, if any, on the standard error.
-/

namespace StackMachine

structure Ending where
  code : Nat
  answer : Option String
  complaint : Option String
  deriving DecidableEq

namespace Program

def version : String := "avm-loader 0.1.0"

def usage : String :=
  "Usage: avm-loader [--config FILE] COMMAND\n\n" ++
    "Commands:\n" ++
    "  inspect PROGRAM [--vm TYPE] [--warn]\n" ++
    "  run PROGRAM [--vm TYPE] [--warn] [--max-steps N] [--json]\n" ++
    "  assemble INPUT OUTPUT"

/-- The text of a cause below a failure. Its first line stands after a number if there are several
causes, and further lines below the first one. -/
def causeText (number : Option Nat) (cause : String) : String :=
  let start := match number with
    | some n => let digits := toString n; "".pushn ' ' (5 - digits.length) ++ digits ++ ": "
    | none => "    "
  let indent := "".pushn ' ' start.length
  start ++ ("\n" ++ indent).intercalate (cause.splitOn "\n")

/-- What is said about a failure: its message, and the causes below it. -/
def complaint (failure : CommandFailure) : String :=
  "Error: " ++ failure.message ++
    match failure.causes with
    | [] => ""
    | [cause] => "\n\nCaused by:\n" ++ causeText none cause
    | causes =>
      "\n\nCaused by:" ++
        String.join (causes.zipIdx.map fun (cause, n) => "\n" ++ causeText (some n) cause)

def refuse (e : ArgumentError) : Ending :=
  match e with
  | .displayVersion => ⟨e.exitCode, some version, none⟩
  | .displayHelp => ⟨e.exitCode, some usage, none⟩
  | _ => ⟨e.exitCode, none, some usage⟩

def run (arguments : List String) : Action Ending := do
  match Arguments.parse arguments with
  | .error e => return refuse e
  | .ok invocation =>
    match ← invocation.dispatch.run with
    | .ok answer => return ⟨0, some answer, none⟩
    | .error failure => return ⟨1, none, some (complaint failure)⟩

/-- Lines on the standard output or error, each with its line break. -/
def printed (text : Option String) : String :=
  match text with
  | some text => text ++ "\n"
  | none => ""

/-- What a run has put on the standard output: the events that a filter admits, each on a line
after a time stamp, and the answer. -/
def transcript (filter : Filter) (stamp : String) (events : Array Event) (ending : Ending) :
    String :=
  String.join ((events.toList.filter filter.admits).map fun e => stamp ++ " " ++ e.line ++ "\n") ++
    printed ending.answer

end Program

end StackMachine
