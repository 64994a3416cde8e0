import StackMachine.Digest.Text

/-!
# Data that does not fit

A text can be well-formed and still not have the shape that its reader asks for: a value of
another type, a field too few, a name that is not known. A `Mismatch` is such a cause, shared by
the readers of all formats, and `Mismatch.message` its wording.
-/

namespace StackMachine

/-- What a reader found. A floating-point number is kept as its text. -/
inductive Found
  | integer (n : Int)
  | float (text : String)
  | boolean (b : Bool)
  | string (s : String)
  | null
  | map
  | sequence
  | unitVariant
  deriving DecidableEq

def Found.describe : Found → String
  | integer n => "integer `" ++ toString n ++ "`"
  | float text => "floating point `" ++ text ++ "`"
  | boolean b => "boolean `" ++ (if b then "true" else "false") ++ "`"
  | string s => "string " ++ Quoted.string s
  | null => "null"
  | map => "map"
  | sequence => "sequence"
  | unitVariant => "unit variant"

/-- Why well-formed data is not what was asked for. -/
inductive Mismatch
  | invalidType (found : Found) (expected : String)
  | invalidValue (found : Found) (expected : String)
  | invalidLength (length : Nat) (expected : String)
  | missingField (name : String)
  | duplicateField (name : String)
  | unknownVariant (name : String) (known : List String)
  | notAHash (cause : Digest.TextError)
  | notStringOrTable
  | noElement
  | severalElements
  | notATable (found : String)
  | notEmpty (found : String)
  deriving DecidableEq

namespace Mismatch

def marked (name : String) : String := "`" ++ name ++ "`"

def message : Mismatch → String
  | invalidType found expected => "invalid type: " ++ found.describe ++ ", expected " ++ expected
  | invalidValue found expected => "invalid value: " ++ found.describe ++ ", expected " ++ expected
  | invalidLength length expected =>
    "invalid length " ++ toString length ++ ", expected " ++ expected
  | missingField name => "missing field " ++ marked name
  | duplicateField name => "duplicate field " ++ marked name
  | unknownVariant name known =>
    "unknown variant " ++ marked name ++ ", expected one of " ++
      ", ".intercalate (known.map marked)
  | notAHash cause => cause.message
  | notStringOrTable => "wanted string or table"
  | noElement => "wanted exactly 1 element, found 0 elements"
  | severalElements => "wanted exactly 1 element, more than 1 element"
  | notATable found => "expected table, found " ++ found
  | notEmpty found => "expected empty " ++ found

end Mismatch

end StackMachine
