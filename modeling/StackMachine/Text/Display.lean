import StackMachine.Text.Invisible

/-!
# Values inside messages

How a string or a character is shown inside a message: between quotes, with a backslash before the
quote and the backslash, short escapes for the common controls, and the code point in hexadecimal
for every other character that would not be visible by itself.

A list is shown in square brackets, its elements separated by a comma and a space.
-/

namespace StackMachine

namespace Quoted

/-- Hexadecimal digits of a number, lower case, without leading zeros. -/
def hexDigits (n : Nat) : String := String.ofList (Nat.toDigits 16 n)

/-- A character by its code point, as in `\u{7f}`. -/
def codePoint (c : Char) : String := "\\u\x7b" ++ hexDigits c.toNat ++ "\x7d"

def isVisible (c : Char) : Bool :=
  if c.toNat < 0x80 then 0x20 ≤ c.toNat && c.toNat < 0x7f else !Invisible.contains c

/-- One character between quotes of the kind `quote`. -/
def escape (quote c : Char) : String :=
  if c = '\x00' then "\\0"
  else if c = '\t' then "\\t"
  else if c = '\n' then "\\n"
  else if c = '\r' then "\\r"
  else if c = '\\' ∨ c = quote then String.ofList ['\\', c]
  else if isVisible c then String.singleton c
  else codePoint c

def string (s : String) : String := "\"" ++ String.join (s.toList.map (escape '"')) ++ "\""

def char (c : Char) : String := "'" ++ escape '\'' c ++ "'"

end Quoted

namespace Bracketed

def texts (items : List String) : String := "[" ++ ", ".intercalate items ++ "]"

def bytes (items : List UInt8) : String := texts (items.map fun b => toString b.toNat)

def words (items : List UInt64) : String := texts (items.map fun w => toString w.toNat)

end Bracketed

end StackMachine
