/-!
# Backends

The three kinds of machine and the texts that select them. A text selects a kind if it equals the
name of the kind up to case: ASCII letters, and the two characters outside ASCII whose simple case
folding is an ASCII letter.
-/

namespace StackMachine

/-- The kinds of machine: one that loads at once, one that loads when first used, and both side by
side. -/
inductive Backend
  | reference
  | native
  | instrumented
  deriving DecidableEq

namespace Backend

def all : List Backend := [reference, native, instrumented]

def name : Backend → String
  | reference => "go"
  | native => "cpp"
  | instrumented => "test"

def counter : Backend → String
  | reference => "loader.go"
  | native => "loader.cpp"
  | instrumented => "loader.test"

/-- The ASCII character that a character folds to. Outside ASCII these are the Kelvin sign and the
long s. -/
def fold? (c : Char) : Option Char :=
  if c = '\u212a' then some 'k'
  else if c = '\u017f' then some 's'
  else if c.toNat < 0x80 then some c.toLower
  else none

/-- Whether a text equals a lower-case name up to case. -/
def matchesName (text name : String) : Bool :=
  text.toList.map fold? = name.toList.map some

def ofText? (text : String) : Option Backend := all.find? fun kind => matchesName text kind.name

end Backend

end StackMachine
