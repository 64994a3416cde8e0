import StackMachine.Image.Validation
import StackMachine.Machine.Backend
import StackMachine.Text.Display

/-!
# Events

What the program reports about itself while it works: an event for each load, and for each thing
that is odd about a program or goes wrong with it. An event is a cause; its level, its message,
its fields and the part of the program that it belongs to are read off it.
-/

namespace StackMachine

/-- How grave an event is, the gravest first. -/
inductive Level
  | error
  | warn
  | info
  | debug
  | trace
  deriving DecidableEq

namespace Level

def all : List Level := [error, warn, info, debug, trace]

def name : Level → String
  | error => "ERROR"
  | warn => "WARN"
  | info => "INFO"
  | debug => "DEBUG"
  | trace => "TRACE"

/-- How many levels are at least as grave. -/
def rank : Level → Nat
  | error => 1
  | warn => 2
  | info => 3
  | debug => 4
  | trace => 5

end Level

/-- The value of a field of an event. Names that come from a caller are quoted in a log; texts that
the program has made are not. -/
inductive FieldValue
  | quoted (s : String)
  | plain (s : String)
  | flag (b : Bool)
  | number (n : Nat)
  deriving DecidableEq

def FieldValue.display : FieldValue → String
  | quoted s => Quoted.string s
  | plain s => s
  | flag b => if b then "true" else "false"
  | number n => toString n

inductive Event
  | rejectedKind (text : String)
  | loading (kind : Backend) (path : String) (warn : Bool)
  | oddity (path : String) (finding : Finding)
  | referenceLoaded (path : String) (instructions : Nat)
  | nativeLoaded (path : String) (instructions : Nat)
  | instrumentedLoaded (path : String)
  | nativeFailed (path : String) (cause : Failure)
  | stoppedWithError (path : String) (pc : UInt64)
  | diverged (context expected actual : String)
  deriving DecidableEq

namespace Event

def level : Event → Level
  | rejectedKind _ | oddity _ _ | nativeFailed _ _ | stoppedWithError _ _ => .warn
  | loading _ _ _ => .info
  | referenceLoaded _ _ | nativeLoaded _ _ | instrumentedLoaded _ => .debug
  | diverged _ _ _ => .error

def message : Event → String
  | rejectedKind _ => "rejected unknown machine type"
  | loading _ _ _ => "loading machine"
  | oddity _ finding => finding.message
  | referenceLoaded _ _ => "reference machine loaded"
  | nativeLoaded _ _ => "native machine loaded"
  | instrumentedLoaded _ => "instrumented machine loaded"
  | nativeFailed _ _ => "native machine failed to load"
  | stoppedWithError _ _ => "machine stopped with error"
  | diverged _ _ _ => "backend divergence"

def fields : Event → List (String × FieldValue)
  | rejectedKind text => [("vm_type", .quoted text)]
  | loading kind path warn =>
    [("backend", .plain kind.name), ("path", .plain path), ("warn_mode", .flag warn)]
  | oddity path _ => [("path", .plain path)]
  | referenceLoaded path instructions | nativeLoaded path instructions =>
    [("path", .plain path), ("instructions", .number instructions)]
  | instrumentedLoaded path => [("path", .plain path)]
  | nativeFailed path cause => [("path", .plain path), ("err", .plain cause.message)]
  | stoppedWithError path pc => [("path", .plain path), ("pc", .number pc.toNat)]
  | diverged context expected actual =>
    [("context", .quoted context), ("reference", .plain expected), ("native", .plain actual)]

/-- The part of the program that an event belongs to; a log can be narrowed down to one. -/
def target : Event → String
  | rejectedKind _ | loading _ _ _ => "avm_loader::loader"
  | oddity _ _ | referenceLoaded _ _ | stoppedWithError _ _ => "avm_loader::machine::reference"
  | nativeLoaded _ _ | nativeFailed _ _ => "avm_loader::machine::native"
  | instrumentedLoaded _ | diverged _ _ _ => "avm_loader::machine::instrumented"

/-- The line of an event in a log, after the time: the level, flush right, the message and the
fields. -/
def line (e : Event) : String :=
  let level := e.level.name
  "".pushn ' ' (5 - level.length) ++ level ++ " " ++ e.message ++
    String.join (e.fields.map fun (name, value) => " " ++ name ++ "=" ++ value.display)

end Event

end StackMachine
