import StackMachine.Log.Pattern.CharacterClass
import StackMachine.Text.Alphanumeric

/-!
# Patterns

Whether a text is a regular expression. The value that a log filter asks for is one, and a filter
with a value that is none is not understood; what a pattern matches is never needed here.

`Pattern.isValid` reads a pattern from left to right. Of the groups that are open it keeps how deep
their parts are, and whether there is something that a repetition could repeat.
-/

namespace StackMachine.Pattern

/-! ### Openings of groups -/

/-- What an opening parenthesis opens: a group, perhaps with a name, or flags alone, which go on
after the closing one. -/
inductive Opening
  | group (mode : Mode) (name? : Option (List Char))
  | flags (mode : Mode)

/-- Whether a group can have a name: letters, numbers and a few marks, and no number first. -/
def isGroupName (name : List Char) : Bool :=
  match name with
  | [] => false
  | c :: rest =>
    (c = '_' || Alphabetic.contains c) &&
      rest.all fun c => ['_', '.', '[', ']'].contains c || Alphanumeric.contains c

/-- A group with a name, given the text after the opening angle bracket, and the text after the
closing one. -/
def namedGroup? (mode : Mode) (text : List Char) : Option (Opening × List Char) :=
  let name := text.takeWhile (· ≠ '>')
  match text.drop name.length with
  | _ :: rest => if isGroupName name then some (.group mode (some name), rest) else none
  | [] => none

/-- What an opening parenthesis opens, given the text after it, and the text after its opening. -/
def opening? (mode : Mode) (text : List Char) : Option (Opening × List Char) :=
  match mode.skip text with
  | '?' :: 'P' :: '<' :: rest => namedGroup? mode rest
  | '?' :: '<' :: rest => namedGroup? mode rest
  | '?' :: rest => do
    let flags := rest.takeWhile fun c => c ≠ ':' ∧ c ≠ ')'
    let inner ← mode.withFlags? flags
    match rest.drop flags.length with
    | ':' :: rest => some (.group inner none, rest)
    | ')' :: rest => if flags.isEmpty then none else some (.flags inner, rest)
    | _ => none
  | rest => some (.group mode none, rest)

/-! ### Progress through a pattern -/

/-- A group that is being read, or the whole pattern: the mode, the depth of the deepest branch that
is complete, the parts of the last branch, and the depth of the part that a repetition would
repeat. -/
structure OpenGroup where
  mode : Mode
  branch? : Option Nat
  parts : Series
  operand? : Option Nat

namespace OpenGroup

def empty (mode : Mode) : OpenGroup := ⟨mode, none, .empty, none⟩

def push (g : OpenGroup) (depth : Nat) : OpenGroup :=
  { g with parts := g.parts.push depth, operand? := some depth }

/-- Flags more. They are a part of the group, and no repetition can repeat them. -/
def pushFlags (g : OpenGroup) (mode : Mode) : OpenGroup :=
  { g with mode, parts := g.parts.push 0, operand? := none }

/-- The last part is repeated, if there is one. -/
def repeated? (g : OpenGroup) : Option OpenGroup :=
  g.operand?.map fun depth =>
    { g with parts := g.parts.deepen (depth + 1), operand? := some (depth + 1) }

/-- The group after a bar: a branch is complete, and the next one begins. -/
def branched (g : OpenGroup) : OpenGroup :=
  ⟨g.mode, some (max (g.branch?.getD 0) g.parts.depth), .empty, none⟩

def depth (g : OpenGroup) : Nat :=
  match g.branch? with
  | some branch => max branch g.parts.depth + 1
  | none => g.parts.depth

end OpenGroup

/-- How far a pattern was read: the innermost open group, the ones around it, and the names that
groups have so far. -/
structure Progress where
  group : OpenGroup
  outer : List OpenGroup
  names : List (List Char)

namespace Progress

def initial : Progress := ⟨.empty .initial, [], []⟩

def push (p : Progress) (depth : Nat) : Progress := { p with group := p.group.push depth }

/-- A group begins, or flags change the mode. A name is given once. -/
def opened? (p : Progress) : Opening → Option Progress
  | .flags mode => some { p with group := p.group.pushFlags mode }
  | .group mode none => some ⟨.empty mode, p.group :: p.outer, p.names⟩
  | .group mode (some name) =>
    if p.names.contains name then none
    else some ⟨.empty mode, p.group :: p.outer, name :: p.names⟩

/-- The innermost group ends, and is a part of the one around it. -/
def closed? (p : Progress) : Option Progress :=
  match p.outer with
  | parent :: outer => some ⟨parent.push (p.group.depth + 1), outer, p.names⟩
  | [] => none

def isComplete (p : Progress) : Bool := p.outer.isEmpty && p.group.depth ≤ maxDepth

/-- Reads on over one part or mark that begins with the given character, and gives the text after
it; `fuel` is greater than the length of `rest`. A repetition may be followed by a question mark.
Counted repetitions are refused, since a filter has no place for their closing brace. -/
def step? (p : Progress) (fuel : Nat) (c : Char) (rest : List Char) :
    Option (Progress × List Char) :=
  let mode := p.group.mode
  match c with
  | '(' => do
    let (opening, rest) ← opening? mode rest
    return (← p.opened? opening, rest)
  | ')' => p.closed?.map (·, rest)
  | '|' => some ({ p with group := p.group.branched }, rest)
  | '*' | '+' | '?' => do
    let group ← p.group.repeated?
    return ({ p with group }, if rest.head? = some '?' then rest.tail else rest)
  | '{' => none
  | '[' => do
    let (depth, rest) ← characterClass? mode fuel rest
    return (p.push depth, rest)
  | '\\' => do
    let (escape, rest) ← escape? mode rest
    match escape with
    | .character _ => if mode.admitsCharacter then some (p.push 0, rest) else none
    | .characters | .position => some (p.push 0, rest)
  | '.' => if mode.admitsComplement then some (p.push 0, rest) else none
  | '^' | '$' => some (p.push 0, rest)
  | _ => if mode.admitsCharacter then some (p.push 0, rest) else none

end Progress

/-! ### Patterns -/

def isValidFrom : Nat → Progress → List Char → Bool
  | 0, _, _ => false
  | fuel + 1, p, text =>
    match p.group.mode.skip text with
    | [] => p.isComplete
    | c :: rest =>
      match p.step? fuel c rest with
      | some (p, rest) => isValidFrom fuel p rest
      | none => false

def isValid (text : String) : Bool := isValidFrom (text.length + 1) .initial text.toList

end StackMachine.Pattern
