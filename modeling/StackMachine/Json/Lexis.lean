import StackMachine.Decimal.FloatText
import StackMachine.Reading.Mismatch
import StackMachine.Reading.Reader
import StackMachine.Text.Character

/-!
# The words of JSON

Blanks, fixed words, strings and numbers. Errors come in three kinds, and the first in the order
of the text wins: the text ends too early, it is malformed, or it is well-formed so far and holds
the wrong data.

A whole number is kept exactly as long as it fits 64 bits. Every other number is a double, computed
from its first nineteen or twenty digits and a power of ten by one multiplication or division, which
does not always round to the nearest double.
-/

namespace StackMachine.Json

/-- Why a JSON text is not what was asked for. -/
inductive Fault
  | truncated
  | malformed
  | misfit (cause : Mismatch)
  deriving DecidableEq

abbrev Read (α : Type) := Reader Fault α

def isBlank (c : Char) : Bool := c = ' ' || c = '\n' || c = '\r' || c = '\t'

/-- Leaves out blanks and shows the character after them, which stays. -/
def peek? : Read (Option Char) := do
  Reader.skipWhile isBlank
  Reader.peek

/-- Like `peek?`, where the text must not end. -/
def peek : Read Char := do
  match ← peek? with
  | some c => return c
  | none => Reader.fail .truncated

def expect (c : Char) : Read Unit := do
  if (← peek) = c then Reader.skip else Reader.fail .malformed

def word (w : String) : Read Unit := Reader.exactly .truncated .malformed w.toList

/-! ### Strings -/

/-- The number of four hexadecimal digits. A text with fewer than four bytes left has ended too
early. -/
def hexQuad : Read Nat := do
  let next := (← Reader.remaining).take 4
  if next.foldl (fun n c => n + c.utf8Size) 0 < 4 then Reader.fail .truncated
  match next.mapM (Digit.value? 16) with
  | some [a, b, c, d] =>
    Reader.skipMany 4
    return ((a * 16 + b) * 16 + c) * 16 + d
  | _ => Reader.fail .malformed

/-- Whether a code unit is the first or the second half of a pair. -/
def isLeading (n : Nat) : Bool := 0xD800 ≤ n && n ≤ 0xDBFF

@[inherit_doc isLeading]
def isTrailing (n : Nat) : Bool := 0xDC00 ≤ n && n ≤ 0xDFFF

def character (c : Char) : Read Unit := word (String.singleton c)

/-- The character after `\u`. A leading half needs its trailing half in a second escape, and a
trailing half cannot come first. -/
def unicodeEscape : Read Char := do
  let n ← hexQuad
  if isTrailing n then Reader.fail .malformed
  if isLeading n then
    character '\\'
    character 'u'
    let m ← hexQuad
    if isTrailing m then
      return Char.ofNat (0x10000 + (n - 0xD800) * 0x400 + (m - 0xDC00))
    else Reader.fail .malformed
  else return Char.ofNat n

def letterEscape? : Char → Option Char
  | '"' => some '"'
  | '\\' => some '\\'
  | '/' => some '/'
  | 'b' => some '\x08'
  | 'f' => some '\x0c'
  | 'n' => some '\n'
  | 'r' => some '\r'
  | 't' => some '\t'
  | _ => none

def escape : Read Char := do
  match ← Reader.peek with
  | none => Reader.fail .truncated
  | some 'u' => do
    Reader.skip
    unicodeEscape
  | some c =>
    match letterEscape? c with
    | some d => do
      Reader.skip
      return d
    | none => Reader.fail .malformed

/-- An escape in a string whose characters are not needed: the digits after `\u` are looked at, but
not the code unit they stand for. -/
def skipEscape : Read Unit := do
  match ← Reader.peek with
  | none => Reader.fail .truncated
  | some 'u' => do
    Reader.skip
    discard hexQuad
  | some c => if (letterEscape? c).isSome then Reader.skip else Reader.fail .malformed

/-- The rest of a string after its opening quote, given the characters so far in reverse. -/
def stringFrom (before : List Char) (s : List Char) : Except Fault (String × Rest s) :=
  match s with
  | [] => .error .truncated
  | '"' :: r => .ok (String.ofList before.reverse, (Rest.all r).cons _)
  | '\\' :: r =>
    match escape r with
    | .error e => .error e
    | .ok (c, t) =>
      match stringFrom (c :: before) t.1 with
      | .error e => .error e
      | .ok (text, u) => .ok (text, (t.trans u).cons _)
  | c :: r =>
    if c.toNat < 0x20 then .error .malformed
    else
      match stringFrom (c :: before) r with
      | .error e => .error e
      | .ok (text, u) => .ok (text, u.cons _)
termination_by s.length
decreasing_by
  · have := t.2; simp only [List.length_cons]; omega
  · simp

def stringBody : Read String := stringFrom []

/-- Leaves out the rest of a string after its opening quote. -/
def skipString (s : List Char) : Except Fault (Unit × Rest s) :=
  match s with
  | [] => .error .truncated
  | '"' :: r => .ok ((), (Rest.all r).cons _)
  | '\\' :: r =>
    match skipEscape r with
    | .error e => .error e
    | .ok (_, t) =>
      match skipString t.1 with
      | .error e => .error e
      | .ok (_, u) => .ok ((), (t.trans u).cons _)
  | c :: r =>
    if c.toNat < 0x20 then .error .malformed
    else
      match skipString r with
      | .error e => .error e
      | .ok (_, u) => .ok ((), u.cons _)
termination_by s.length
decreasing_by
  · have := t.2; simp only [List.length_cons]; omega
  · simp

/-! ### Numbers -/

inductive Number
  | natural (n : UInt64)
  | negative (n : UInt64)
  | float (x : Float)

def Number.found : Number → Found
  | natural n => .integer n.toNat
  | negative n => .integer (-(n.toNat : Int))
  | float x => .float (FloatText.ofFloat FloatText.exponentStyle x)

def digitValue (c : Char) : Nat := c.toNat - '0'.toNat

/-- Adds digits to a significand as long as it fits 64 bits; also gives the digits that did not
fit. -/
def accumulate (significand : Nat) : List Char → Nat × List Char
  | [] => (significand, [])
  | c :: cs =>
    let next := significand * 10 + digitValue c
    if next < UInt64.size then accumulate next cs else (significand, c :: cs)

/-- Divides by `10^308` until the exponent is one that a double has; three times are enough to reach
zero. -/
def scaleDown : Nat → Float → Nat → Float
  | 0, x, _ => x
  | n + 1, x, e =>
    if e ≤ 308 then x / Float.ofScientific 1 false e
    else if x == 0 then x
    else scaleDown n (x / Float.ofScientific 1 false 308) (e - 308)

/-- The double for a significand and a power of ten, unless it is too large for a double. -/
def scale? (significand : Nat) (exponent : Int) : Option Float :=
  let x := significand.toUInt64.toFloat
  if exponent < 0 then some (scaleDown 4 x exponent.natAbs)
  else if exponent ≤ 308 then
    let y := x * Float.ofScientific 1 false exponent.natAbs
    if y.isInf then none else some y
  else if significand = 0 then some x
  else none

def float (isNegative : Bool) (significand : Nat) (exponent : Int) : Read Number :=
  match scale? significand exponent with
  | some x => return .float (if isNegative then -x else x)
  | none => Reader.fail .malformed

/-- A nonempty run of digits; where it is missing, the text has ended or is malformed. -/
def digits : Read (List Char) := do
  let ds ← Reader.takeWhile Char.isDigit
  if ds.isEmpty then
    match ← Reader.peek with
    | none => Reader.fail .truncated
    | some _ => Reader.fail .malformed
  return ds

/-- A number from its exponent on, after the letter. An exponent that does not fit 32 bits is as
good as infinite. -/
def exponentPart (isNegative : Bool) (significand : Nat) (exponent : Int) : Read Number := do
  let sign ← Reader.peek
  if sign = some '+' ∨ sign = some '-' then Reader.skip
  let power := Count.upTo (UInt32.size / 2) (← digits)
  if power < UInt32.size / 2 then
    float isNegative significand (if sign = some '-' then exponent - power else exponent + power)
  else if significand ≠ 0 ∧ sign ≠ some '-' then Reader.fail .malformed
  else return .float (if isNegative then -0.0 else 0.0)

/-- A number from what can follow its digits on. -/
def fractionEnd (isNegative : Bool) (significand : Nat) (exponent : Int) : Read Number := do
  match ← Reader.peek with
  | some 'e' | some 'E' => do
    Reader.skip
    exponentPart isNegative significand exponent
  | _ => float isNegative significand exponent

/-- A number from its decimal point on, after the point. -/
def fractionPart (isNegative : Bool) (significand : Nat) (exponent : Int) : Read Number := do
  let ds ← digits
  let (significand, left) := accumulate significand ds
  fractionEnd isNegative significand (exponent - (ds.length - left.length : Int))

/-- A whole number without fraction or exponent. Zero has no negative as a whole number. -/
def whole (isNegative : Bool) (n : Nat) : Number :=
  if isNegative then
    if 0 < n ∧ n ≤ UInt64.size / 2 then .negative n.toUInt64 else .float (-n.toUInt64.toFloat)
  else .natural n.toUInt64

/-- A number after its sign. -/
def unsigned (isNegative : Bool) : Read Number := do
  let ds ← digits
  if ds.head? = some '0' ∧ ds ≠ ['0'] then Reader.fail .malformed
  let (significand, left) := accumulate 0 ds
  match ← Reader.peek with
  | some '.' => do
    Reader.skip
    fractionPart isNegative significand left.length
  | some 'e' | some 'E' => do
    Reader.skip
    exponentPart isNegative significand left.length
  | _ =>
    if left.isEmpty then pure (whole isNegative significand)
    else float isNegative significand left.length

def number : Read Number := do
  if (← Reader.peek) = some '-' then
    Reader.skip
    unsigned true
  else unsigned false

end StackMachine.Json
