import StackMachine.Json.Structure

/-!
# Values that are not needed

The value of an unknown key is left out without being built. It is checked less strictly than a
value that is needed: a number may be out of range, and a string may hold half a pair. A number
that ends too early counts as malformed here.
-/

namespace StackMachine.Json

def skipDigits : Read Unit := do
  let ds ← Reader.takeWhile Char.isDigit
  if ds.isEmpty then Reader.fail .malformed

/-- An exponent that is not needed, if there is one. -/
def skipExponent : Read Unit := do
  match ← Reader.peek with
  | some 'e' | some 'E' => do
    Reader.skip
    let sign ← Reader.peek
    if sign = some '+' ∨ sign = some '-' then Reader.skip
    skipDigits
  | _ => pure ()

def skipNumber : Read Unit := do
  if (← Reader.peek) = some '-' then Reader.skip
  let ds ← Reader.takeWhile Char.isDigit
  if ds.isEmpty ∨ (ds.head? = some '0' ∧ ds ≠ ['0']) then Reader.fail .malformed
  if (← Reader.peek) = some '.' then
    Reader.skip
    skipDigits
  skipExponent

/-- Leaves out a value that is nested less than `depth` deep. -/
def skipNested : Nat → Read Unit
  | 0 => Reader.fail .truncated
  | depth + 1 => do
    let c ← peek
    if c = '-' ∨ c.isDigit then skipNumber
    else
      Reader.skip
      match c with
      | 'n' => word "ull"
      | 't' => word "rue"
      | 'f' => word "alse"
      | '"' => skipString
      | '[' => discard (elements (skipNested depth))
      | '{' =>
        members skipString (fun _ _ => do expect ':'; skipNested depth) ()
      | _ => Reader.fail .malformed

/-- Leaves out a value. A text of `n` characters nests less than `n + 1` deep. -/
def skipValue : Read Unit := do
  skipNested ((← Reader.remaining).length + 1)

end StackMachine.Json
