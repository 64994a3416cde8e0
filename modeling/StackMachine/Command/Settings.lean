import StackMachine.Toml.Reading

/-!
# Settings and listings

The two kinds of text file the command line takes: settings that give defaults for the options,
and listings of instructions that are assembled into an image. Both are TOML; keys that are not
known are left out.
-/

namespace StackMachine

/-- Defaults for the options of a command. The machine type is not checked here. -/
structure Settings where
  vmType : String
  warnMode : Bool
  maxSteps : UInt64
  deriving DecidableEq

namespace Settings

def default : Settings := ⟨"go", false, 10000⟩

def withEntry (s : Settings) : String × Toml.Node → Except Mismatch Settings
  | ("vm_type", node) => return { s with vmType := ← node.asString }
  | ("warn_mode", node) => return { s with warnMode := ← node.asBool }
  | ("max_steps", node) => return { s with maxSteps := ← node.asWord }
  | _ => return s

/-- The settings of a machine section. A list gives the three settings in order, perhaps not all of
them; a date has no entry that is known. -/
def ofSection (node : Toml.Node) : Except Mismatch Settings :=
  match node with
  | .table _ entries => entries.foldlM withEntry default
  | .array items | .tables items =>
    (["vm_type", "warn_mode", "max_steps"].zip items).foldlM withEntry default
  | .datetime => .ok default
  | _ => node.invalidType "struct MachineSection"

def ofEntries (entries : Toml.Entries) : Except Mismatch Settings :=
  match entries.find? "machine" with
  | some node => ofSection node
  | none => .ok default

def parse (text : String) : Except Toml.Fault Settings := do
  let entries ← Toml.parse text
  (ofEntries entries).mapError .misfit

end Settings

namespace Listing

def ofEntries (entries : Toml.Entries) : Except Mismatch (Array Instruction) :=
  match entries.find? "code" with
  | some node => do
    let items ← node.asList
    let code ← items.mapM Toml.Node.asInstruction
    return code.toArray
  | none => .error (.missingField "code")

def parse (text : String) : Except Toml.Fault (Array Instruction) := do
  let entries ← Toml.parse text
  (ofEntries entries).mapError .misfit

end Listing

end StackMachine
