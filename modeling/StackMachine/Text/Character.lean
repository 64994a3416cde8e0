/-!
# Characters

Sets of characters, given by ranges of code points. The smallest of the tables is here, the white
space of Unicode, with texts that have none at either end.

The values of digits in bases up to sixteen, where letters of either case follow the ten decimal
digits; and counts as they are written in arguments and settings of the environment: decimal digits,
perhaps after a plus sign, with any number of zeros in front.
-/

namespace StackMachine

/-! ### Sets of characters -/

/-- Ranges of code points, both ends included. -/
abbrev Ranges := List (Nat × Nat)

def Ranges.contains (ranges : Ranges) (c : Char) : Bool :=
  ranges.any fun (lo, hi) => lo ≤ c.toNat && c.toNat ≤ hi

namespace Blank

def ranges : Ranges :=
  [(0x9, 0xd), (0x20, 0x20), (0x85, 0x85), (0xa0, 0xa0), (0x1680, 0x1680), (0x2000, 0x200a),
   (0x2028, 0x2029), (0x202f, 0x202f), (0x205f, 0x205f), (0x3000, 0x3000)]

def contains (c : Char) : Bool := ranges.contains c

/-- A text without the white space at its ends. -/
def trim (text : List Char) : List Char :=
  ((text.dropWhile contains).reverse.dropWhile contains).reverse

end Blank

/-! ### Digits -/

def Digit.value? (base : Nat) (c : Char) : Option Nat :=
  let value :=
    if '0' ≤ c ∧ c ≤ '9' then some (c.toNat - '0'.toNat)
    else if 'a' ≤ c ∧ c ≤ 'f' then some (c.toNat - 'a'.toNat + 10)
    else if 'A' ≤ c ∧ c ≤ 'F' then some (c.toNat - 'A'.toNat + 10)
    else none
  value.filter (· < base)

namespace Count

/-- The number of some decimal digits; all numbers from `limit` on count as `limit`. -/
def upTo (limit : Nat) (digits : List Char) : Nat :=
  digits.foldl (fun n c => min (n * 10 + (c.toNat - '0'.toNat)) limit) 0

def ofText? (text : String) : Option UInt64 :=
  let digits := match text.toList with
    | '+' :: rest => rest
    | cs => cs
  if digits ≠ [] ∧ digits.all Char.isDigit then
    let n := upTo UInt64.size digits
    if n < UInt64.size then some n.toUInt64 else none
  else none

end Count

end StackMachine
