import StackMachine.Text.Character

/-!
# Modes of patterns

How a stretch of a pattern is read. Flags change the mode up to the end of the group that they stand
in.

A pattern is about characters or, without Unicode, about bytes. Nothing is known here about kinds of
characters and their cases beyond ASCII, so where characters count, what would need that knowledge
is refused. Where bytes count, what could tell the bytes of a character apart is refused.
-/

namespace StackMachine.Pattern

/-- How a stretch of a pattern is read: whether it is about characters, whether their case is
ignored, and whether blanks and comments may stand in it. -/
structure Mode where
  unicode : Bool
  ignoresCase : Bool
  spaced : Bool
  deriving DecidableEq

/-- The text after blanks and comments, where a comment goes from a number sign to the end of its
line; `inComment` says whether the text begins inside of one. -/
def afterBlanks (inComment : Bool) : List Char → List Char
  | [] => []
  | c :: rest =>
    if inComment then afterBlanks (c ≠ '\n') rest
    else if Blank.contains c then afterBlanks false rest
    else if c = '#' then afterBlanks true rest
    else c :: rest

namespace Mode

def initial : Mode := ⟨true, false, false⟩

/-! ### Flags -/

/-- The letters of the flags. Those that only change what a pattern matches are known as well. -/
def letters : List Char := ['i', 'm', 's', 'U', 'u', 'R', 'x']

/-- A flag as it is after some were turned on and some off. -/
def turned (flag : Bool) (letter : Char) (on off : List Char) : Bool :=
  (flag || on.contains letter) && !off.contains letter

/-- The mode after flags, of which those after a hyphen are turned off. There are no letters but
those of flags, nothing stands twice, and the hyphen does not stand last. -/
def withFlags? (mode : Mode) (flags : List Char) : Option Mode :=
  let on := flags.takeWhile (· ≠ '-')
  let off := flags.drop on.length
  if flags.all (fun c => c = '-' || letters.contains c) && flags.getLast? ≠ some '-' &&
      flags.eraseDups.length = flags.length then
    some ⟨turned mode.unicode 'u' on off, turned mode.ignoresCase 'i' on off,
      turned mode.spaced 'x' on off⟩
  else none

/-! ### Blanks -/

def skip (mode : Mode) (text : List Char) : List Char :=
  if mode.spaced then afterBlanks false text else text

/-- The character that decides whether the hyphen before it makes a range: the next one, or the next
one that is no blank; of a comment, this is the first one after its number sign. -/
def afterHyphen? (mode : Mode) (text : List Char) : Option Char :=
  if mode.spaced then
    match text.dropWhile Blank.contains with
    | '#' :: comment => (comment.dropWhile Blank.contains).head?
    | rest => rest.head?
  else text.head?

/-! ### What a mode admits -/

/-- Whether a single character may stand for itself. To ignore its case, a table of cases is needed
where characters count, even for one that has no case. -/
def admitsCharacter (mode : Mode) : Bool := !(mode.unicode && mode.ignoresCase)

/-- Whether a character may be a member of a class. Where bytes count, each member is one byte. -/
def admitsMember (mode : Mode) (code : Nat) : Bool :=
  mode.admitsCharacter && (mode.unicode || code < 0x80)

/-- Whether everything but some characters may be asked for. Where bytes count, this would be bytes
that are no characters. -/
def admitsComplement (mode : Mode) : Bool := mode.unicode

end Mode

end StackMachine.Pattern
