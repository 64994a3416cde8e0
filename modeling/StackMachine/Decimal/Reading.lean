/-!
# Reading decimals

The texts that are read as doubles: an optional sign, and then a decimal, perhaps with a power of
ten, or the name of a number that is not finite.

A decimal of any length is read as the double nearest to it. Halfway between two neighbouring
doubles lies no decimal of more than 767 digits, so of the digits after the first eight hundred it
only matters whether one of them is not zero.
-/

namespace StackMachine.Decimal

/-! ### Literals -/

def withoutSign : List Char → List Char
  | '+' :: rest | '-' :: rest => rest
  | text => text

/-- Whether a text is the power of ten after a decimal, or nothing. -/
def isPower : List Char → Bool
  | [] => true
  | 'e' :: rest | 'E' :: rest =>
    !(withoutSign rest).isEmpty && (withoutSign rest).all Char.isDigit
  | _ => false

/-- Whether a text is a decimal without a sign. There are digits before its point or after it. -/
def isUnsigned (text : List Char) : Bool :=
  let whole := text.takeWhile Char.isDigit
  match text.drop whole.length with
  | '.' :: rest =>
    let fraction := rest.takeWhile Char.isDigit
    !(whole ++ fraction).isEmpty && isPower (rest.drop fraction.length)
  | rest => !whole.isEmpty && isPower rest

def names : List String := ["inf", "infinity", "nan"]

/-- Whether a text is read as a double; names may be in either case. -/
def isLiteral (text : List Char) : Bool :=
  let unsigned := withoutSign text
  isUnsigned unsigned || names.contains (String.ofList (unsigned.map Char.toLower))

/-! ### The nearest double -/

/-- The digits of a decimal that are looked at one by one. -/
def digitLimit : Nat := 800

def ofDigits (digits : List Char) : Nat :=
  digits.foldl (fun n c => n * 10 + (c.toNat - '0'.toNat)) 0

/-- Digits without those beyond the limit; where those are not all zero, a one stands for them. -/
def clip (digits : List Char) : List Char :=
  let rest := digits.drop digitLimit
  digits.take digitLimit ++ if rest.all (· = '0') then [] else ['1']

/-- The double nearest to the number whose digits are given, times `10^exponent`. Powers that are
far out of range are not computed. -/
def nearest (digits : List Char) (exponent : Int) : Float :=
  let digits := digits.dropWhile (· = '0')
  let power : Int := digits.length + exponent
  if digits.isEmpty ∨ power < -400 then 0.0
  else if 400 < power then 1.0 / 0.0
  else
    let clipped := clip digits
    let exponent := power - clipped.length
    Float.ofScientific (ofDigits clipped) (exponent < 0) exponent.natAbs

end StackMachine.Decimal
