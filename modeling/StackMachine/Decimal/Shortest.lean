/-!
# Shortest decimals

A double is m · 2^q for whole numbers m and q. The decimal that stands for it has the fewest digits
among those that read back as the same double, and of the decimals with that many digits it is the
nearest one; a `Tie` says which of two that are equally near. All comparisons are made in whole
numbers.

The search goes through the grids of 1, 2, …, 17 digits. On each grid only the two neighbours of the
value matter: if any point of the grid reads back, one of them does.
-/

namespace StackMachine.Decimal

/-- A positive decimal: the number `digits · 10^exponent`. -/
structure Numeral where
  digits : Nat
  exponent : Int
  deriving DecidableEq

/-- Which of two neighbouring decimals stands for a double halfway between them: the one whose last
digit is even, or the greater one. -/
inductive Tie
  | toEven
  | upward
  deriving DecidableEq

/-- Whether the smaller one of two neighbours stands for what lies halfway, given its digits. -/
def Tie.takesLower (tie : Tie) (digits : Nat) : Bool :=
  match tie with
  | toEven => digits % 2 = 0
  | upward => false

/-- The positive double `significand · 2^exponent`. At the lower end of a binade, the next smaller
double is only half as far away as the next larger one. -/
structure Binary where
  significand : Nat
  exponent : Int
  atLowerEnd : Bool
  deriving DecidableEq

namespace Binary

/-- Numerator of a number given in quarters of the last binary place. -/
def scaled (b : Binary) (quarters : Nat) : Nat := quarters * Nat.pow 2 b.exponent.toNat

/-- The common denominator that goes with `scaled`. -/
def denominator (b : Binary) : Nat := 4 * Nat.pow 2 (-b.exponent).toNat

def value (b : Binary) : Nat := b.scaled (4 * b.significand)

/-- The least number that could read back as this double, over `denominator`. -/
def lower (b : Binary) : Nat :=
  b.scaled (4 * b.significand - if b.atLowerEnd then 1 else 2)

/-- The greatest number that could read back as this double, over `denominator`. -/
def upper (b : Binary) : Nat := b.scaled (4 * b.significand + 2)

/-- Whether `digits · 10^exponent` reads back as this double: it lies between the two bounds, and on
a bound only if the significand is even, since a tie goes to the even neighbour. -/
def readsBack (b : Binary) (d : Numeral) : Bool :=
  let x := d.digits * Nat.pow 10 d.exponent.toNat * b.denominator
  let lo := b.lower * Nat.pow 10 (-d.exponent).toNat
  let hi := b.upper * Nat.pow 10 (-d.exponent).toNat
  if b.significand % 2 = 0 then lo ≤ x && x ≤ hi else lo < x && x < hi

/-- The distance to a decimal, times a factor that depends on the exponent of the decimal alone. -/
def distance (b : Binary) (d : Numeral) : Nat :=
  let x := d.digits * Nat.pow 10 d.exponent.toNat * b.denominator
  let v := b.value * Nat.pow 10 (-d.exponent).toNat
  (x - v) + (v - x)

/-- The least `z ≤ fuel` with `denominator ≤ value · 10^z`, for a value below one. -/
def leadingZeros (b : Binary) : Nat → Nat → Nat
  | 0, z => z
  | fuel + 1, z =>
    if b.denominator ≤ b.value * Nat.pow 10 z then z else leadingZeros b fuel (z + 1)

/-- The number of digits before the point; zero or negative for values below one tenth. -/
def magnitude (b : Binary) : Int :=
  let whole := b.value / b.denominator
  if whole = 0 then 1 - (leadingZeros b 400 0 : Int) else (Nat.toDigits 10 whole).length

/-- The better of the two neighbours of the value on the grid of step `10^exponent`. -/
def onGrid? (b : Binary) (tie : Tie) (exponent : Int) : Option Numeral :=
  let below := b.value * Nat.pow 10 (-exponent).toNat / (b.denominator * Nat.pow 10 exponent.toNat)
  let lo : Numeral := ⟨below, exponent⟩
  let hi : Numeral := ⟨below + 1, exponent⟩
  match b.readsBack lo, b.readsBack hi with
  | false, false => none
  | true, false => some lo
  | false, true => some hi
  | true, true =>
    if b.distance lo < b.distance hi then some lo
    else if b.distance hi < b.distance lo then some hi
    else if tie.takesLower below then some lo else some hi

/-- Goes through the grids that have `n` digits and more. -/
def search (b : Binary) (tie : Tie) : Nat → Nat → Numeral
  | 0, n => (b.onGrid? tie (b.magnitude - n)).getD ⟨0, 0⟩
  | fuel + 1, n =>
    match b.onGrid? tie (b.magnitude - n) with
    | some d => d
    | none => search b tie fuel (n + 1)

/-- The shortest decimal that reads back as this double. -/
def shortest (b : Binary) (tie : Tie) : Numeral := search b tie 16 1

end Binary

end StackMachine.Decimal
