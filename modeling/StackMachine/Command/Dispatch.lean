import StackMachine.Command.Arguments
import StackMachine.Command.Settings
import StackMachine.Json.Writing
import StackMachine.Machine.Loader

/-!
# Commands

What the three commands do: look at a machine, run one, and write a program image from a listing.
The settings file is read before anything else. A command answers with the text to be printed,
without the last line break. Nothing is written before everything that can fail has succeeded, the
write itself excepted.
-/

namespace StackMachine

/-- Why a command fails: a text file cannot be read or understood, the loader makes no machine, or a
machine or an image file fails. -/
inductive CommandFailure
  | file (cause : OsError)
  | text (fault : Toml.Fault)
  | loader (cause : LoaderFailure)
  | machine (cause : Failure)
  deriving DecidableEq

namespace CommandFailure

def message : CommandFailure → String
  | file cause => cause.message
  | text .malformed => "malformed TOML"
  | text (.misfit mismatch) => mismatch.message
  | loader cause => cause.message
  | machine cause => cause.message

def causes : CommandFailure → List String
  | file _ | text _ => []
  | loader cause => cause.causes
  | machine cause => cause.causes

end CommandFailure

abbrev Procedure := ExceptT CommandFailure Action

namespace Procedure

def ofAttempt {α : Type} (attempt : Attempt α) : Procedure α := ExceptT.adapt .machine attempt

/-- An operation as a part of a command; gives the machine that it leaves behind, too. -/
def ofOperation {σ α : Type} (op : Operation σ α) (machine : σ) : Procedure (α × σ) := do
  match ← op.on machine with
  | (.ok a, machine) => return (a, machine)
  | (.error cause, _) => throw (.machine cause)

def readText (path : String) : Procedure String := do
  match ← readFile path none with
  | .error cause => throw (.file cause)
  | .ok bytes =>
    match String.fromUTF8? bytes with
    | some text => return text
    | none => throw (.file .notText)

def readParsed {α : Type} (parse : String → Except Toml.Fault α) (path : String) : Procedure α := do
  match parse (← readText path) with
  | .ok a => return a
  | .error fault => throw (.text fault)

end Procedure

def Settings.load (path : String) : Procedure Settings := Procedure.readParsed parse path

def Listing.load (path : String) : Procedure (Array Instruction) := Procedure.readParsed parse path

namespace Procedure

/-- Makes the machine of a command. Options come before settings, and warn mode is on if either
asks for it. -/
def loadMachine (settings : Settings) (program : String) (options : MachineOptions) :
    Procedure Machine :=
  (Loader.builtin.load program (options.warn || settings.warnMode)
    (options.vmType.getD settings.vmType)).adapt .loader

/-- Looks at a machine that has just been made. The status is asked for before the hash. -/
def inspection (settings : Settings) (program : String) (options : MachineOptions) :
    Procedure String := do
  let machine ← loadMachine settings program options
  let (status, machine) ← ofOperation Machine.status machine
  let (hash, machine) ← ofOperation Machine.hash machine
  return "backend: " ++ machine.backend.name ++
    "\nstatus: " ++ status.display ++
    "\nhash: " ++ hash.toHex

def execution (settings : Settings) (program : String) (options : MachineOptions)
    (maxSteps : Option UInt64) (json : Bool) : Procedure String := do
  let machine ← loadMachine settings program options
  let (assertion, machine) ←
    ofOperation (Machine.execute (maxSteps.getD settings.maxSteps)) machine
  if json then return assertion.toJson.pretty
  else
    let (status, _) ← ofOperation Machine.status machine
    return "status: " ++ status.display ++
      "\nsteps: " ++ toString assertion.numSteps.toNat ++
      "\ngas: " ++ toString assertion.numGas.toNat ++
      "\nlogs: " ++ Bracketed.words assertion.logs.toList ++
      "\nhash: " ++ assertion.afterHash.toHex

/-- Writes the image of a listing that is a valid program. -/
def assembly (input output : String) : Procedure String := do
  let code ← Listing.load input
  let image := Image.ofCode code
  let findings ← ofAttempt image.validate
  ofAttempt (image.store output)
  return "wrote " ++ toString code.size ++ " instructions to " ++ output ++
    String.join (findings.map fun finding => "\nwarning: " ++ finding.message)

end Procedure

def Invocation.dispatch (invocation : Invocation) : Procedure String := do
  let settings ← match invocation.settings with
    | some path => Settings.load path
    | none => pure .default
  match invocation.command with
  | .inspect program options => Procedure.inspection settings program options
  | .run program options maxSteps json => Procedure.execution settings program options maxSteps json
  | .assemble input output => Procedure.assembly input output

end StackMachine
