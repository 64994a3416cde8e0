import StackMachine.Decimal.Shortest

/-!
# Floating-point numbers in messages

How a double is shown: the shortest decimal that reads back, with `.0` after a whole number. A
`Style` says for which powers of ten the digits are written out, when an exponent is used instead,
and how a double is shown that lies halfway between two decimals.
-/

namespace StackMachine.FloatText

/-- Where positional notation ends, and how ties are broken. A number is written out when the power
of ten of its first digit lies between the two bounds; `none` stands for no bound. -/
structure Style where
  least : Option Int
  greatest : Option Int
  tie : Decimal.Tie

/-- Every number is written out, and a tie goes to the greater decimal. -/
def positionalStyle : Style := ⟨none, none, .upward⟩

/-- Numbers from `10^-5` up to but not including `10^16` are written out, and a tie goes to the even
digit. -/
def exponentStyle : Style := ⟨some (-5), some 15, .toEven⟩

/-- Whether the style writes out a number whose first digit stands for `10^power`. -/
def Style.writesOut (style : Style) (power : Int) : Bool :=
  (style.least.all (· ≤ power)) && (style.greatest.all (power ≤ ·))

/-- The digits of a number without the zeros at the end, and how many there were. -/
def trimZeros : Nat → Nat → Nat → Nat × Nat
  | 0, n, zeros => (n, zeros)
  | fuel + 1, n, zeros => if n % 10 = 0 then trimZeros fuel (n / 10) (zeros + 1) else (n, zeros)

/-- Digits in positional notation, the point after `before` of them; at least one digit on either
side of the point. -/
def positional (digits : List Char) (before : Int) : String :=
  if before ≤ 0 then
    String.ofList ("0.".toList ++ List.replicate (-before).toNat '0' ++ digits)
  else
    let whole := digits.take before.toNat ++ List.replicate (before.toNat - digits.length) '0'
    let fraction := digits.drop before.toNat
    String.ofList (whole ++ ['.'] ++ if fraction.isEmpty then ['0'] else fraction)

/-- Digits with a power of ten for the first of them; the sign of the power is always written. -/
def scientific (digits : List Char) (power : Int) : String :=
  let mantissa := match digits with
    | first :: second :: rest => first :: '.' :: second :: rest
    | _ => digits
  String.ofList mantissa ++ (if power < 0 then "e-" else "e+") ++ toString power.natAbs

def ofDecimal (style : Style) (d : Decimal.Numeral) : String :=
  let (n, zeros) := trimZeros 20 d.digits 0
  let digits := Nat.toDigits 10 n
  let before : Int := digits.length + d.exponent + zeros
  if style.writesOut (before - 1) then positional digits before else scientific digits (before - 1)

def ofFloat (style : Style) (x : Float) : String :=
  let sign := if x.toBits >>> 63 = 1 then "-" else ""
  let exponent := (x.toBits >>> 52 &&& 0x7ff).toNat
  let fraction := (x.toBits &&& 0xfffffffffffff).toNat
  if exponent = 2047 then
    if fraction = 0 then sign ++ "inf" else "NaN"
  else if exponent = 0 ∧ fraction = 0 then sign ++ "0.0"
  else
    let b : Decimal.Binary :=
      if exponent = 0 then ⟨fraction, -1074, false⟩
      else ⟨0x10000000000000 + fraction, exponent - 1075, fraction = 0 ∧ 1 < exponent⟩
    sign ++ ofDecimal style (b.shortest style.tie)

end StackMachine.FloatText
