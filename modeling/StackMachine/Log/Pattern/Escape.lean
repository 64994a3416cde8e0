import StackMachine.Log.Pattern.Mode
import StackMachine.Text.Character

/-!
# Escapes

What may stand after a backslash in a pattern. There are no references to groups, and no properties
of characters.
-/

namespace StackMachine.Pattern

/-- What an escape stands for, where it matters: a character, which can end a range of a class, or
several characters, or a position in a text, which has no place in a class. -/
inductive Escape
  | character (code : Nat)
  | characters
  | position
  deriving DecidableEq

/-- The number that `digits` hexadecimal digits make up after `code`, and the text after them. -/
def hexadecimal? (mode : Mode) : Nat → Nat → List Char → Option (Nat × List Char)
  | 0, code, text => some (code, text)
  | digits + 1, code, text =>
    match mode.skip text with
    | c :: rest => do hexadecimal? mode digits (code * 16 + (← Digit.value? 16 c)) rest
    | [] => none

/-- The character whose code point has `digits` hexadecimal digits, and the text after them. -/
def codePoint? (mode : Mode) (digits : Nat) (text : List Char) : Option (Escape × List Char) := do
  let (code, rest) ← hexadecimal? mode digits 0 text
  if code.isValidChar then some (.character code, rest) else none

/-- The character that two hexadecimal digits stand for, and the text after them; where bytes count,
they stand for a byte, which is a character by itself in ASCII only. -/
def byteCode? (mode : Mode) (text : List Char) : Option (Escape × List Char) := do
  let (code, rest) ← hexadecimal? mode 2 0 text
  if mode.unicode ∨ code < 0x80 then some (.character code, rest) else none

/-- What an escape stands for, given the text after the backslash, and the text after it. Digits,
blanks, the characters of words, and the boundaries of words are those of ASCII, and are known where
bytes count. Other characters of ASCII that are no letters or digits stand for themselves. -/
def escape? (mode : Mode) : List Char → Option (Escape × List Char)
  | [] => none
  | c :: rest =>
    match c with
    | 'x' => byteCode? mode rest
    | 'u' => codePoint? mode 4 rest
    | 'U' => codePoint? mode 8 rest
    | 'd' | 's' | 'w' => if mode.unicode then none else some (.characters, rest)
    | 'b' | 'B' | '<' | '>' => if mode.unicode then none else some (.position, rest)
    | 'A' | 'z' => some (.position, rest)
    | 'a' => some (.character 0x7, rest)
    | 'f' => some (.character 0xc, rest)
    | 't' => some (.character 0x9, rest)
    | 'n' => some (.character 0xa, rest)
    | 'r' => some (.character 0xd, rest)
    | 'v' => some (.character 0xb, rest)
    | _ => if c.toNat < 0x80 && !c.isAlphanum then some (.character c.toNat, rest) else none

end StackMachine.Pattern
