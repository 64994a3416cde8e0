import Std.Time.Format
import StackMachine.Command.Program

/-!
# The command line

Carries the program out on the files of the system: events are written to the log as they are
reported, and the answer and the complaint are printed at the end.
-/

namespace StackMachine

def OsError.ofException : IO.Error → OsError
  | .noFileOrDirectory _ _ _ => .notFound
  | .alreadyExists _ _ _ => .alreadyExists
  | .inappropriateType _ 21 _ => .isADirectory
  | .inappropriateType _ _ _ => .notADirectory
  | .invalidArgument _ 36 _ => .nameTooLong
  | .permissionDenied _ code details => .other (details ++ " (os error " ++ toString code ++ ")")
  | e => .other (toString e)

namespace Shell

def readAtMost (handle : IO.FS.Handle) (limit : Nat) (before : ByteArray) : IO ByteArray := do
  let rec go : Nat → ByteArray → IO ByteArray
    | 0, bytes => return bytes
    | fuel + 1, bytes => do
      if limit ≤ bytes.size then return bytes
      let more ← handle.read (limit - bytes.size).toUSize
      if more.isEmpty then return bytes else go fuel (bytes ++ more)
  go limit before

def read (path : String) (limit : Option Nat) : IO ByteArray := do
  match limit with
  | none => IO.FS.readBinFile path
  | some n => readAtMost (← IO.FS.Handle.mk path .read) n .empty

/-- The result of an action of the system, or the error with which it ends. -/
def attempt {α : Type} (act : IO α) : IO (Except OsError α) := do
  try
    return .ok (← act)
  catch e =>
    return .error (OsError.ofException e)

def stamp : IO String := do
  let now ← Std.Time.Timestamp.now
  return (Std.Time.DateTime.ofTimestamp now .UTC).format "uuuu-MM-dd'T'HH:mm:ss.SSSSSS'Z'"

/-- Carries an action out. The counters are for callers inside the program, so nothing is kept of
them. -/
def perform {α : Type} (filter : Filter) : Action α → IO α
  | .done a => return a
  | .read path limit next => do perform filter (next (← attempt (read path limit)))
  | .write path bytes next => do
    perform filter (next (← attempt (IO.FS.writeBinFile path bytes)))
  | .report e next => do
    if filter.admits e then IO.println ((← stamp) ++ " " ++ e.line)
    perform filter (next ())
  | .count _ next => perform filter (next ())

end Shell

end StackMachine

/-- Runs the program; what is logged is set in the environment. -/
def main (arguments : List String) : IO UInt32 := do
  let filter := StackMachine.Filter.ofSetting (← IO.getEnv "RUST_LOG")
  let ending ← StackMachine.Shell.perform filter (StackMachine.Program.run arguments)
  IO.print (StackMachine.Program.printed ending.answer)
  IO.eprint (StackMachine.Program.printed ending.complaint)
  return ending.code.toUInt32
