import StackMachine.Files.OsError

/-!
# Paths

How the text of a path is followed: the names between its slashes, whether it begins at the root
of the system, and whether it ends in a slash and so asks for a directory. Empty names, as between
two slashes in a row, are left out.
-/

namespace StackMachine

structure Path where
  absolute : Bool
  names : List String
  ofDirectory : Bool
  deriving DecidableEq

namespace Path

/-- A path of this many bytes or more is too long. -/
def byteLimit : Nat := 4096

def nameLimit : Nat := 255

def split : List Char → List (List Char)
  | [] => [[]]
  | c :: rest =>
    if c = '/' then [] :: split rest
    else
      match split rest with
      | name :: names => (c :: name) :: names
      | [] => [[c]]

/-- Takes a path apart that can be one. -/
def ofChars (cs : List Char) : Path where
  absolute := cs.head? = some '/'
  names := ((split cs).filter (· ≠ [])).map String.ofList
  ofDirectory := cs.getLast? = some '/'

/-- The path of a text. A NUL is refused before anything else is looked at. -/
def ofText (text : String) : Except OsError Path :=
  if text.toList.contains '\x00' then .error .nulInPath
  else if text.isEmpty then .error .notFound
  else if byteLimit ≤ text.utf8ByteSize then .error .nameTooLong
  else .ok (ofChars text.toList)

def parents (path : Path) : List String := path.names.dropLast

/-- The last name; a single dot if there is none, so that the root stands for itself. -/
def last (path : Path) : String := path.names.getLast?.getD "."

/-- Whether a name stands for a directory that is there already. -/
def isDots (name : String) : Bool := name = "." || name = ".."

end Path

end StackMachine
