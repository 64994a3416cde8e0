import StackMachine.Log.Pattern.Depth
import StackMachine.Log.Pattern.Escape

/-!
# Classes of characters

Sets of characters in brackets. Inside of one stand characters, ranges of them, names of sets of
ASCII such as `[:alpha:]`, further classes, and operators between the sides of a class.
-/

namespace StackMachine.Pattern

/-! ### Members -/

/-- A member of a class: its code point, if it is a single character, and the text after it. -/
def member? (mode : Mode) (text : List Char) : Option (Option Nat × List Char) := do
  let (code?, rest) ← match text with
    | '\\' :: rest =>
      match escape? mode rest with
      | some (.character code, rest) => some (some code, rest)
      | some (.characters, rest) => some (none, rest)
      | some (.position, _) | none => none
    | c :: rest => some (some c.toNat, rest)
    | [] => none
  if code?.all mode.admitsMember then some (code?, rest) else none

/-- The text after a member of a class or a range of members. A hyphen before a closing bracket or
before another hyphen makes no range. -/
def afterRange? (mode : Mode) (text : List Char) : Option (List Char) := do
  let (first?, rest) ← member? mode text
  match mode.skip rest with
  | '-' :: after =>
    if mode.afterHyphen? after = some ']' ∨ mode.afterHyphen? after = some '-' then
      some ('-' :: after)
    else do
      let (last?, rest) ← member? mode (mode.skip after)
      match first?, last? with
      | some first, some last => if first ≤ last then some rest else none
      | _, _ => none
  | rest => some rest

def setNames : List String :=
  ["alnum", "alpha", "ascii", "blank", "cntrl", "digit", "graph", "lower", "print", "punct",
   "space", "upper", "word", "xdigit"]

/-- A set of ASCII such as `:alpha:`, given the text after its bracket: whether its complement is
meant, and the text after it. -/
def namedSet? (text : List Char) : Option (Bool × List Char) :=
  match text with
  | ':' :: rest =>
    let (complement, rest) := match rest with
      | '^' :: rest => (true, rest)
      | _ => (false, rest)
    let name := rest.takeWhile (· ≠ ':')
    match rest.drop name.length with
    | ':' :: ']' :: rest =>
      if String.ofList name ∈ setNames then some (complement, rest) else none
    | _ => none
  | _ => none

/-! ### Classes -/

/-- A class that is being read: the depth of what stands before its last operator, the members after
it, and whether there were none but hyphens since the opening bracket. -/
structure OpenClass where
  left? : Option Nat
  members : Series
  atStart : Bool

namespace OpenClass

def empty : OpenClass := ⟨none, .empty, true⟩

def push (c : OpenClass) (depth : Nat) : OpenClass := ⟨c.left?, c.members.push depth, false⟩

/-- Whether a character is a member because it stands at the start: a hyphen, or a closing bracket
that comes first. -/
def isMemberAtStart (c : OpenClass) (first : Char) : Bool :=
  c.atStart && (first = '-' || (first = ']' && c.members.size = 0))

/-- A member more at the start, which goes on after a hyphen. -/
def pushAtStart (c : OpenClass) (first : Char) : OpenClass :=
  { c.push 0 with atStart := first = '-' }

def depth (c : OpenClass) : Nat :=
  match c.left? with
  | some left => max left c.members.depth + 1
  | none => c.members.depth

/-- The class after an operator: what was read so far is its left side. -/
def operate (c : OpenClass) : OpenClass := ⟨some c.depth, .empty, false⟩

end OpenClass

/-- The characters that make an operator when they stand twice. -/
def operators : List Char := ['&', '-', '~']

/-- The text after what opens a class, perhaps with a caret if its complement is meant. -/
def classStart? (mode : Mode) (text : List Char) : Option (List Char) :=
  match mode.skip text with
  | '^' :: rest => if mode.admitsComplement then some rest else none
  | rest => some rest

/-- The depth of a class, of which the innermost open one is `c` and the others are `outer`, and the
text after its closing bracket. -/
def classEnd? (mode : Mode) :
    Nat → OpenClass → List OpenClass → List Char → Option (Nat × List Char)
  | 0, _, _, _ => none
  | fuel + 1, c, outer, text =>
    match mode.skip text with
    | [] => none
    | first :: rest =>
      if c.isMemberAtStart first then
        if mode.admitsMember first.toNat then classEnd? mode fuel (c.pushAtStart first) outer rest
        else none
      else if first = '[' then
        match namedSet? rest with
        | some (complement, rest) =>
          if mode.admitsCharacter ∧ (!complement ∨ mode.admitsComplement) then
            classEnd? mode fuel (c.push 0) outer rest
          else none
        | none => do classEnd? mode fuel .empty (c :: outer) (← classStart? mode rest)
      else if first = ']' then
        match outer with
        | parent :: outer => classEnd? mode fuel (parent.push (c.depth + 1)) outer rest
        | [] => some (c.depth + 1, rest)
      else if operators.contains first ∧ rest.head? = some first then
        classEnd? mode fuel c.operate outer rest.tail
      else do classEnd? mode fuel (c.push 0) outer (← afterRange? mode (first :: rest))

/-- The depth of a class and the text after it, given the text after its opening bracket; `fuel` is
greater than the length of the text. -/
def characterClass? (mode : Mode) (fuel : Nat) (text : List Char) : Option (Nat × List Char) := do
  classEnd? mode fuel .empty [] (← classStart? mode text)

end StackMachine.Pattern
