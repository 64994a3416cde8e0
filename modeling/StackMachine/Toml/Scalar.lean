import StackMachine.Decimal.Reading
import StackMachine.Reading.Reader
import StackMachine.Text.Character
import StackMachine.Toml.Node

/-!
# TOML scalars

Strings, numbers, dates and truth values, and the blanks and comments between them. There is one
error for text that is not TOML; it says nothing more.
-/

namespace StackMachine.Toml

/-- Why a text does not give what was asked for: it is not TOML, or it is and holds the wrong data.
-/
inductive Fault
  | malformed
  | misfit (cause : Mismatch)
  deriving DecidableEq

abbrev Read (α : Type) := Reader Fault α

def malformed {α : Type} : Read α := Reader.fail .malformed

def take : Read Char := do
  match ← Reader.peek with
  | none => malformed
  | some c => do
    Reader.skip
    return c

def word (w : String) : Read Unit := Reader.exactly .malformed .malformed w.toList

/-! ### Blanks and comments -/

def isBlank (c : Char) : Bool := c = ' ' || c = '\t'

/-- Characters that may stand in a comment or a string: no controls except the tab. -/
def isText (c : Char) : Bool := c = '\t' || (0x20 ≤ c.toNat && c.toNat ≠ 0x7f)

def blanks : Read Unit := Reader.skipWhile isBlank

def newline? : Read Bool := do
  match (← Reader.remaining).take 2 with
  | '\n' :: _ => do Reader.skip; return true
  | ['\r', '\n'] => do Reader.skipMany 2; return true
  | _ => return false

/-- The end of a line: blanks, perhaps a comment, and a line break or the end of the text. -/
def lineEnd : Read Unit := do
  blanks
  if (← Reader.peek) = some '#' then Reader.skipWhile isText
  if !(← newline?) ∧ (← Reader.peek).isSome then malformed

/-- Leaves out blanks, comments and line breaks. -/
def spaceFrom (s : List Char) : Rest s :=
  match s with
  | ' ' :: r => (spaceFrom r).cons _
  | '\t' :: r => (spaceFrom r).cons _
  | '\n' :: r => (spaceFrom r).cons _
  | '\r' :: '\n' :: r => ((spaceFrom r).cons _).cons _
  | '#' :: r =>
    let comment := Rest.dropWhile isText r
    (comment.trans (spaceFrom comment.1)).cons _
  | r => .all r
termination_by s.length
decreasing_by
  · simp
  · simp
  · simp
  · simp only [List.length_cons]; omega
  · have := (Rest.dropWhile isText r).2
    simp only [List.length_cons]; omega

/-- Leaves out blanks and line breaks, but no comments. -/
def breaksFrom (s : List Char) : Rest s :=
  match s with
  | ' ' :: r => (breaksFrom r).cons _
  | '\t' :: r => (breaksFrom r).cons _
  | '\n' :: r => (breaksFrom r).cons _
  | '\r' :: '\n' :: r => ((breaksFrom r).cons _).cons _
  | r => .all r

@[inherit_doc spaceFrom]
def space : Read Unit := fun s => .ok ((), spaceFrom s)

@[inherit_doc breaksFrom]
def breaks : Read Unit := fun s => .ok ((), breaksFrom s)

/-! ### Strings -/

/-- The number of digits in a base; characters that are no digits are left out. -/
def numeral (base : Nat) (cs : List Char) : Nat :=
  (cs.filterMap (Digit.value? base)).foldl (fun n d => n * base + d) 0

/-- The character with a code point of `n` hexadecimal digits. -/
def codePoint (n : Nat) : Read Char := do
  let ds := (← Reader.remaining).take n
  if ds.length ≠ n ∨ !(ds.all fun c => (Digit.value? 16 c).isSome) then malformed
  let code := numeral 16 ds
  if ! code.isValidChar then malformed
  Reader.skipMany n
  return Char.ofNat code

def escape : Read Char := do
  match ← take with
  | 'b' => return '\x08'
  | 't' => return '\t'
  | 'n' => return '\n'
  | 'f' => return '\x0c'
  | 'r' => return '\r'
  | '"' => return '"'
  | '\\' => return '\\'
  | 'u' => codePoint 4
  | 'U' => codePoint 8
  | _ => malformed

/-- The rest of a string in double quotes after the opening quote, given the characters so far in
reverse. -/
def basicFrom (before : List Char) (s : List Char) : Except Fault (String × Rest s) :=
  match s with
  | [] => .error .malformed
  | '"' :: r => .ok (String.ofList before.reverse, (Rest.all r).cons _)
  | '\\' :: r =>
    match escape r with
    | .error e => .error e
    | .ok (c, t) =>
      match basicFrom (c :: before) t.1 with
      | .error e => .error e
      | .ok (text, u) => .ok (text, (t.trans u).cons _)
  | c :: r =>
    if isText c then
      match basicFrom (c :: before) r with
      | .error e => .error e
      | .ok (text, u) => .ok (text, u.cons _)
    else .error .malformed
termination_by s.length
decreasing_by
  · have := t.2; simp only [List.length_cons]; omega
  · simp

def basicBody : Read String := basicFrom []

/-- A string in single quotes, after the opening quote; it has no escapes. -/
def literalBody : Read String := do
  let cs ← Reader.takeWhile fun c => isText c && c ≠ '\''
  if (← take) = '\'' then return String.ofList cs else malformed

/-- Up to two more quotes after the three that close a string of several lines; they belong to the
string. -/
def extraQuotes (quote : Char) : Read (List Char) := do
  let qs := ((← Reader.remaining).take 2).takeWhile (· = quote)
  Reader.skipMany qs.length
  return qs

def closes (quote : Char) (s : List Char) : Bool := s.take 3 = [quote, quote, quote]

/-- What a piece of a string of several lines adds. A backslash before a line break adds nothing and
takes all blanks and line breaks that follow. -/
def multilinePiece (hasEscapes : Bool) (c : Char) : Read (Option Char) := do
  if c = '\\' ∧ hasEscapes then
    match (← Reader.remaining).dropWhile isBlank with
    | '\n' :: _ => do breaks; return none
    | '\r' :: '\n' :: _ => do breaks; return none
    | _ => return some (← escape)
  else if c = '\r' then
    if (← take) = '\n' then return some '\n' else malformed
  else if isText c ∨ c = '\n' then return some c
  else malformed

/-- The rest of a string of several lines, given the characters so far in reverse. -/
def multilineFrom (quote : Char) (hasEscapes : Bool) (before : List Char) (s : List Char) :
    Except Fault (String × Rest s) :=
  match s with
  | [] => .error .malformed
  | c :: r =>
    if closes quote (c :: r) then
      let close : Read String := do
        Reader.skipMany 3
        return String.ofList (before.reverse ++ (← extraQuotes quote))
      close (c :: r)
    else
      match multilinePiece hasEscapes c r with
      | .error e => .error e
      | .ok (piece, t) =>
        match multilineFrom quote hasEscapes (piece.toList ++ before) t.1 with
        | .error e => .error e
        | .ok (text, u) => .ok (text, (t.trans u).cons _)
termination_by s.length
decreasing_by
  have := t.2; simp only [List.length_cons]; omega

/-- A string of several lines, after its opening quotes; a line break right after them does not
count. -/
def multilineBody (quote : Char) (hasEscapes : Bool) : Read String := do
  discard newline?
  multilineFrom quote hasEscapes []

def stringAfter (quote : Char) : Read String := do
  if (← Reader.remaining).take 2 = [quote, quote] then
    Reader.skipMany 2
    multilineBody quote (quote = '"')
  else if quote = '"' then basicBody
  else literalBody

/-! ### Numbers -/

/-- A run of digits in a base, with single underscores between digits. The underscores are left
out. -/
def digitRun (base : Nat) : Read (List Char) := do
  let cs ← Reader.takeWhile fun c => (Digit.value? base c).isSome || c = '_'
  let isDouble := (cs.zip cs.tail).any (· = ('_', '_'))
  if cs.head?.all (· = '_') ∨ cs.getLast?.all (· = '_') ∨ isDouble then malformed
  return cs.filter (· ≠ '_')

/-- The number of a run of digits of any length; numbers that do not fit 64 bits are not told
apart. -/
def boundedNumeral (base : Nat) (cs : List Char) : Nat :=
  (cs.filterMap (Digit.value? base)).foldl (fun n d => min (n * base + d) UInt64.size) 0

def integer (isNegative : Bool) (n : Nat) : Read Node :=
  if isNegative ∧ n ≤ UInt64.size / 2 then return .integer (-n)
  else if n < UInt64.size / 2 then return .integer n
  else malformed

/-- The number of the digits of an exponent, which stops growing once it is beyond 65535. -/
def exponentNumeral (cs : List Char) : Nat :=
  cs.foldl (fun n c => if n < 0x10000 then n * 10 + (c.toNat - '0'.toNat) else n) 0

/-- The power of ten of a number with a fraction or an exponent, after the letter. -/
def exponentPart : Read Int := do
  let sign ← Reader.peek
  if sign = some '+' ∨ sign = some '-' then Reader.skip
  let n := exponentNumeral (← digitRun 10)
  return if sign = some '-' then -n else n

/-- A number with a fraction or an exponent. It may be too small for a double, and too far below
zero, but not too large. -/
def float (isNegative : Bool) (whole fraction : List Char) (power : Int) : Read Node := do
  let x := Decimal.nearest (whole ++ fraction) (power - fraction.length)
  if x.isInf ∧ !isNegative then malformed
  return .float (if isNegative then -x else x)

def isExponentMark (c : Option Char) : Bool := c = some 'e' || c = some 'E'

/-- The digits before the point: a zero stands alone. -/
def wholeDigits : Read (List Char) := do
  if (← Reader.peek) = some '0' then
    Reader.skip
    return ['0']
  digitRun 10

def decimalNumber (isNegative : Bool) : Read Node := do
  let whole ← wholeDigits
  if (← Reader.peek) = some '.' then
    Reader.skip
    let fraction ← digitRun 10
    let power ← if isExponentMark (← Reader.peek) then do Reader.skip; exponentPart else pure 0
    float isNegative whole fraction power
  else if isExponentMark (← Reader.peek) then
    Reader.skip
    float isNegative whole [] (← exponentPart)
  else integer isNegative (boundedNumeral 10 whole)

/-- A number in another base, after its two characters of introduction. -/
def basedNumber (base : Nat) : Read Node := do
  integer false (boundedNumeral base (← digitRun base))

def number : Read Node := do
  let sign ← Reader.peek
  if sign = some '+' ∨ sign = some '-' then Reader.skip
  let isNegative := sign = some '-'
  match (← Reader.remaining).take 2 with
  | 'i' :: _ => do
    word "inf"
    return .float (if isNegative then -1.0 / 0.0 else 1.0 / 0.0)
  | 'n' :: _ => do
    word "nan"
    return .float (0.0 / 0.0)
  | ['0', mark] =>
    let base? := if sign = some '+' ∨ isNegative then none else
      match mark with
      | 'x' => some 16
      | 'o' => some 8
      | 'b' => some 2
      | _ => none
    match base? with
    | some base => do
      Reader.skipMany 2
      basedNumber base
    | none => decimalNumber isNegative
  | _ => decimalNumber isNegative

/-! ### Dates -/

def fixedDigits (n lo hi : Nat) : Read Nat := do
  let ds := (← Reader.remaining).take n
  let value := numeral 10 ds
  if ds.length = n ∧ ds.all Char.isDigit ∧ lo ≤ value ∧ value ≤ hi then
    Reader.skipMany n
    return value
  else malformed

def daysOf (year month : Nat) : Nat :=
  if month = 2 then
    if year % 4 = 0 ∧ (year % 100 ≠ 0 ∨ year % 400 = 0) then 29 else 28
  else if month ∈ [4, 6, 9, 11] then 30
  else 31

def date : Read Unit := do
  let year ← fixedDigits 4 0 9999
  word "-"
  let month ← fixedDigits 2 1 12
  word "-"
  discard (fixedDigits 2 1 (daysOf year month))

/-- A time of day. The second may be a leap second. -/
def time : Read Unit := do
  discard (fixedDigits 2 0 23)
  word ":"
  discard (fixedDigits 2 0 59)
  word ":"
  discard (fixedDigits 2 0 60)
  if (← Reader.peek) = some '.' then
    Reader.skip
    if (← Reader.takeWhile Char.isDigit).isEmpty then malformed

/-- The distance from universal time, if it is given. -/
def offset : Read Unit := do
  match ← Reader.peek with
  | some 'Z' | some 'z' => Reader.skip
  | some '+' | some '-' => do
    Reader.skip
    discard (fixedDigits 2 0 23)
    word ":"
    discard (fixedDigits 2 0 59)
  | _ => pure ()

def startsNumbered (n : Nat) (c : Char) (s : List Char) : Bool :=
  (s.take n).length = n && (s.take n).all Char.isDigit && (s.drop n).head? = some c

def continuesWithTime (s : List Char) : Bool :=
  match s with
  | c :: r => (c = 'T' || c = 't' || c = ' ') && startsNumbered 2 ':' r
  | [] => false

def datetime : Read Node := do
  date
  if continuesWithTime (← Reader.remaining) then
    Reader.skip
    time
    offset
  return .datetime

def numberOrDate : Read Node := do
  let s ← Reader.remaining
  if startsNumbered 4 '-' s then datetime
  else if startsNumbered 2 ':' s then do
    time
    return .datetime
  else number

end StackMachine.Toml
