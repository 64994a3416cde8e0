import StackMachine.Text.Character

/-!
# Command-line arguments

The arguments of the program: an option for a settings file, and one of three commands with
options and positional arguments of its own.

Long options take their value from the next argument or after an equals sign. A double hyphen ends
the options. An option or a positional argument is checked when the next one begins, or at the
end; of two errors the one that is noticed first is reported, and a command is checked to its end
before an option that stands before it.
-/

namespace StackMachine

structure MachineOptions where
  vmType : Option String
  warn : Bool
  deriving DecidableEq

inductive Command
  | inspect (program : String) (machine : MachineOptions)
  | run (program : String) (machine : MachineOptions) (maxSteps : Option UInt64) (json : Bool)
  | assemble (input output : String)
  deriving DecidableEq

/-- A command and the settings file it is given. -/
structure Invocation where
  settings : Option String
  command : Command
  deriving DecidableEq

/-- Why arguments are not an invocation. The requests for help and for the version count as errors,
because no command is run. -/
inductive ArgumentError
  | displayHelp
  | displayVersion
  | displayHelpOnMissingCommand
  | missingCommand
  | invalidCommand
  | missingArgument
  | unknownArgument
  | argumentConflict
  | invalidValue
  | tooManyValues
  | valueValidation
  deriving DecidableEq

/-- Requests succeed; every other error has exit code 2. -/
def ArgumentError.exitCode : ArgumentError → Nat
  | displayHelp | displayVersion => 0
  | _ => 2

namespace Arguments

/-- What a value must be: a path is not empty, and a count fits 64 bits. -/
inductive ValueKind
  | text
  | path
  | count

inductive OptionKind
  | flag
  | valued (kind : ValueKind)

/-- The arguments that the program or one of its commands takes. -/
structure Grammar where
  options : List (String × OptionKind)
  positionals : List (String × ValueKind)
  commands : List String
  hasVersion : Bool

def ValueKind.check (kind : ValueKind) (value : String) : Except ArgumentError Unit :=
  match kind with
  | text => .ok ()
  | path => if value.isEmpty then .error .invalidValue else .ok ()
  | count => if (Count.ofText? value).isSome then .ok () else .error .valueValidation

/-- The arguments understood so far. The last one may still be pending: it has been begun and not
been checked, and an option may still lack its value. -/
structure Progress where
  accepted : List (String × String)
  pending : Option (String × ValueKind × Option String)
  position : Nat
  onlyPositionals : Bool

namespace Progress

def start : Progress := ⟨[], none, 0, false⟩

/-- Adds an argument that may be given only once. -/
def accept (p : Progress) (name : String) (kind : ValueKind) (value : String) :
    Except ArgumentError Progress := do
  if (p.accepted.lookup name).isSome then .error .argumentConflict
  kind.check value
  return { p with accepted := p.accepted ++ [(name, value)] }

def settle (p : Progress) : Except ArgumentError Progress :=
  match p.pending with
  | none => .ok p
  | some (_, _, none) => .error .invalidValue
  | some (name, kind, some value) => { p with pending := none }.accept name kind value

def awaiting? (p : Progress) : Option (String × ValueKind) :=
  match p.pending with
  | some (name, kind, none) => some (name, kind)
  | _ => none

end Progress

/-- Splits a long option at its first equals sign. -/
def splitValue (text : List Char) : String × Option String :=
  (String.ofList (text.takeWhile (· ≠ '=')),
    match text.dropWhile (· ≠ '=') with
    | '=' :: value => some (String.ofList value)
    | _ => none)

/-- A long option, after its two hyphens. -/
def longOption (g : Grammar) (p : Progress) (text : List Char) :
    Except ArgumentError Progress := do
  let (name, attached) := splitValue text
  let request? :=
    if name = "help" then some .displayHelp
    else if name = "version" ∧ g.hasVersion then some .displayVersion
    else none
  match request?, g.options.lookup name, attached with
  | some _, _, some _ => .error .tooManyValues
  | some request, _, none => do
    discard p.settle
    .error request
  | none, none, _ => .error .unknownArgument
  | none, some .flag, some _ => .error .tooManyValues
  | none, some .flag, none => do (← p.settle).accept name .text "true"
  | none, some (.valued kind), some value => do (← p.settle).accept name kind value
  | none, some (.valued kind), none => do
    return { (← p.settle) with pending := some (name, kind, none) }

/-- A group of short options, after its hyphen. The only short options are requests, so the first
character decides. -/
def shortOptions (g : Grammar) (p : Progress) (text : List Char) :
    Except ArgumentError Progress := do
  match text with
  | 'h' :: _ => do
    discard p.settle
    .error .displayHelp
  | 'V' :: _ =>
    if g.hasVersion then do
      discard p.settle
      .error .displayVersion
    else .error .unknownArgument
  | _ => .error .unknownArgument

def positional (g : Grammar) (p : Progress) (text : String) : Except ArgumentError Progress :=
  match g.positionals[p.position]? with
  | some (name, kind) => do
    return { (← p.settle) with
      pending := some (name, kind, some text), position := p.position + 1 }
  | none =>
    if p.onlyPositionals ∧ text ∈ g.commands then .error .unknownArgument
    else if g.commands.isEmpty then .error .unknownArgument
    else .error .invalidCommand

def argument (g : Grammar) (p : Progress) (text : String) : Except ArgumentError Progress :=
  if p.onlyPositionals then positional g p text
  else
    match text.toList with
    | ['-', '-'] => .ok { p with onlyPositionals := true }
    | '-' :: '-' :: rest => longOption g p rest
    | '-' :: c :: rest => shortOptions g p (c :: rest)
    | _ =>
      match p.awaiting? with
      | some (name, kind) => .ok { p with pending := some (name, kind, some text) }
      | none => positional g p text

/-- Understands arguments up to the name of a command, which is given with the arguments after it.
-/
def untilCommand (g : Grammar) :
    Progress → List String → Except ArgumentError (Progress × Option (String × List String))
  | p, [] => .ok (p, none)
  | p, text :: rest =>
    if !p.onlyPositionals ∧ p.awaiting?.isNone ∧ text ∈ g.commands then
      .ok (p, some (text, rest))
    else
      match argument g p text with
      | .error e => .error e
      | .ok p => untilCommand g p rest

def all (g : Grammar) (texts : List String) : Except ArgumentError (List (String × String)) := do
  let (p, _) ← untilCommand g .start texts
  let p ← p.settle
  if p.position < g.positionals.length then .error .missingArgument
  else return p.accepted

def machineOptions : List (String × OptionKind) := [("vm", .valued .text), ("warn", .flag)]

def programGrammar : Grammar where
  options := [("config", .valued .path)]
  positionals := []
  commands := ["inspect", "run", "assemble", "help"]
  hasVersion := true

def inspectGrammar : Grammar := ⟨machineOptions, [("program", .path)], [], false⟩

def runGrammar : Grammar :=
  ⟨machineOptions ++ [("max-steps", .valued .count), ("json", .flag)], [("program", .path)], [],
    false⟩

def assembleGrammar : Grammar := ⟨[], [("input", .path), ("output", .path)], [], false⟩

/-- The value of an argument that has been checked to be there. -/
def value (accepted : List (String × String)) (name : String) : String :=
  (accepted.lookup name).getD ""

def machine (accepted : List (String × String)) : MachineOptions :=
  ⟨accepted.lookup "vm", (accepted.lookup "warn").isSome⟩

/-- What `help` answers: it takes the name of one command at most. -/
def help : List String → ArgumentError
  | [] => .displayHelp
  | [name] => if name ∈ programGrammar.commands then .displayHelp else .invalidCommand
  | _ => .invalidCommand

def command (name : String) (texts : List String) : Except ArgumentError Command := do
  match name with
  | "inspect" => do
    let accepted ← all inspectGrammar texts
    return .inspect (value accepted "program") (machine accepted)
  | "run" => do
    let accepted ← all runGrammar texts
    return .run (value accepted "program") (machine accepted)
      ((accepted.lookup "max-steps").bind Count.ofText?) (accepted.lookup "json").isSome
  | "assemble" => do
    let accepted ← all assembleGrammar texts
    return .assemble (value accepted "input") (value accepted "output")
  | _ => .error (help texts)

def parse (texts : List String) : Except ArgumentError Invocation := do
  match ← untilCommand programGrammar .start texts with
  | (p, some (name, rest)) => do
    let command ← command name rest
    let p ← p.settle
    return { settings := p.accepted.lookup "config", command }
  | (p, none) => do
    let p ← p.settle
    .error (if p.accepted.isEmpty then .displayHelpOnMissingCommand else .missingCommand)

end Arguments

end StackMachine
