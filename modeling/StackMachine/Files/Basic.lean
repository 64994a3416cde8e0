import StackMachine.Files.Path

/-!
# Files

A tree of files and directories, and what reading, writing and removing do to it. The tree is a
value: an operation that changes it gives the changed tree, and one that fails gives the error
alone.

An absolute path leads from the root, any other path from a directory that the tree keeps. Two dots
lead to the directory above, and at the root they lead nowhere else.

`Files.find?` is the view of a tree. `Files.find?_put_self` and `Files.find?_put_of_ne` say that a
change at one location is seen there and nowhere else.
-/

namespace StackMachine

/-- An association list without the entries of one key shows the same at every other key. -/
theorem lookup_filter_ne {κ β : Type} [BEq κ] [LawfulBEq κ] [DecidableEq κ] {key other : κ}
    (h : other ≠ key) :
    ∀ entries : List (κ × β), (entries.filter (·.1 ≠ key)).lookup other = entries.lookup other
  | [] => rfl
  | (first, entry) :: rest => by
    have ih := lookup_filter_ne h rest
    by_cases hk : first = key
    · subst hk
      rw [List.filter_cons_of_neg (by simp), ih, List.lookup_cons, beq_false_of_ne h]
    · rw [List.filter_cons_of_pos (by simpa using hk), List.lookup_cons, List.lookup_cons, ih]

/-- What a name in a directory stands for. -/
inductive Entry
  | file (bytes : ByteArray)
  | directory

/-- The names that lead from the root to a place in the tree, the innermost first. -/
abbrev Location := List String

/-- A tree of files: what is at each location but the root, which is a directory, and the directory
from which paths lead that are not absolute. -/
structure Files where
  entries : List (Location × Entry)
  start : Location

namespace Files

/-- No files. Paths lead from a directory below the root, so that there is one above it. -/
def empty : Files where
  entries := [(["home"], .directory)]
  start := ["home"]

def find? (files : Files) : Location → Option Entry
  | [] => some .directory
  | location => files.entries.lookup location

def erase (files : Files) (location : Location) : Files where
  entries := files.entries.filter (·.1 ≠ location)
  start := files.start

def put (files : Files) (location : Location) (entry : Entry) : Files where
  entries := (location, entry) :: (files.erase location).entries
  start := files.start

/-! ### Finding the way -/

def lookUp (files : Files) (directory : Location) (name : String) : Except OsError Entry :=
  if Path.nameLimit < name.utf8ByteSize then .error .nameTooLong
  else
    match files.find? (name :: directory) with
    | some entry => .ok entry
    | none => .error .notFound

/-- One more name on a walk through directories. -/
def enter (files : Files) (directory : Location) (name : String) : Except OsError Location :=
  if name = "." then .ok directory
  else if name = ".." then .ok directory.tail  -- the root is above itself
  else
    match files.lookUp directory name with
    | .ok .directory => .ok (name :: directory)
    | .ok (.file _) => .error .notADirectory
    | .error e => .error e

/-- The directory in which the last name of a path is to be looked up. -/
def parentOf (files : Files) (path : Path) : Except OsError Location :=
  path.parents.foldlM files.enter (if path.absolute then [] else files.start)

/-! ### Operations -/

/-- The bytes of a file. A directory can be found, but has none. -/
def read (files : Files) (text : String) : Except OsError ByteArray := do
  let path ← Path.ofText text
  let directory ← files.parentOf path
  if Path.isDots path.last then .error .isADirectory
  else
    match ← files.lookUp directory path.last with
    | .directory => .error .isADirectory
    | .file bytes => if path.ofDirectory then .error .notADirectory else .ok bytes

/-- What is there now under the name that a new entry is to get. Nothing is no failure. -/
def site (files : Files) (directory : Location) (name : String) : Except OsError (Option Entry) :=
  match files.lookUp directory name with
  | .ok entry => .ok (some entry)
  | .error .notFound => .ok none
  | .error e => .error e

def write (files : Files) (text : String) (bytes : ByteArray) : Except OsError Files := do
  let path ← Path.ofText text
  let directory ← files.parentOf path
  if Path.isDots path.last || path.ofDirectory then .error .isADirectory
  else
    match ← files.site directory path.last with
    | some .directory => .error .isADirectory
    | _ => .ok (files.put (path.last :: directory) (.file bytes))

def makeDirectory (files : Files) (text : String) : Except OsError Files := do
  let path ← Path.ofText text
  let directory ← files.parentOf path
  if Path.isDots path.last then .error .alreadyExists
  else
    match ← files.site directory path.last with
    | some _ => .error .alreadyExists
    | none => .ok (files.put (path.last :: directory) .directory)

/-- Removes a file, and no directory. -/
def remove (files : Files) (text : String) : Except OsError Files := do
  let path ← Path.ofText text
  let directory ← files.parentOf path
  if Path.isDots path.last then .error .isADirectory
  else
    match ← files.lookUp directory path.last with
    | .directory => .error .isADirectory
    | .file _ =>
      if path.ofDirectory then .error .notADirectory
      else .ok (files.erase (path.last :: directory))

/-! ### The view -/

theorem find?_erase_of_ne (files : Files) {location other : Location} (h : other ≠ location) :
    (files.erase location).find? other = files.find? other := by
  cases other with
  | nil => rfl
  | cons name directory => exact lookup_filter_ne h files.entries

theorem find?_put_self (files : Files) {location : Location} (entry : Entry)
    (h : location ≠ []) : (files.put location entry).find? location = some entry := by
  cases location with
  | nil => exact absurd rfl h
  | cons name directory => simp [find?, put]

theorem find?_put_of_ne (files : Files) {location other : Location} (entry : Entry)
    (h : other ≠ location) : (files.put location entry).find? other = files.find? other := by
  rw [← files.find?_erase_of_ne h]
  cases other with
  | nil => rfl
  | cons name directory => simp [find?, put, List.lookup_cons, beq_false_of_ne h]

end Files

end StackMachine
