import StackMachine.Action

/-!
# Changes to files

What somebody other than the program can do to a tree of files, as a value. A change that fails
changes nothing.
-/

namespace StackMachine

inductive FileChange
  | write (path : String) (bytes : ByteArray)
  | remove (path : String)
  | makeDirectory (path : String)

namespace FileChange

def apply (files : Files) : FileChange → Except OsError Files
  | write path bytes => files.write path bytes
  | remove path => files.remove path
  | makeDirectory path => files.makeDirectory path

/-- The files after a change that may have failed. -/
def tryOn (files : Files) (change : FileChange) : Files :=
  match change.apply files with
  | .ok files => files
  | .error _ => files

end FileChange

/-- Changes that are made at the moment a reference machine has been loaded. An instrumented machine
reads its file once before that moment and once after it. -/
def Meanwhile.afterReference (changes : List FileChange) : Meanwhile := fun e files =>
  match e with
  | .referenceLoaded _ _ => changes.foldl FileChange.tryOn files
  | _ => files

end StackMachine
