import StackMachine.Decimal.Reading
import StackMachine.Log.Event
import StackMachine.Log.Pattern
import StackMachine.Text.Character

/-!
# Directives

A directive admits the events of a part of the program, or of all of it, down to a level. It is
written as a level; or as a target, perhaps with a condition in brackets, and perhaps with a level
after an equals sign. Without a level it stands for every level.

A condition names a span, a field in braces, or both, and a field may have a value after an equals
sign. The program is never inside a span, and values are compared for spans only, so the conditions
that an event can meet are those that ask for a field by its name.
-/

namespace StackMachine

/-- A field that is asked for; with a value, it is asked for of spans. -/
structure FieldCondition where
  name : String
  hasValue : Bool
  deriving DecidableEq

/-- Admits the events of a part of the program down to a level. -/
structure Directive where
  target? : Option String
  span? : Option String
  field? : Option FieldCondition
  rank : Nat
  deriving DecidableEq

/-! ### Reading -/

/-- The field that a text asks for: its name, and perhaps a value between the first and the second
equals sign, which is a number or a pattern. -/
def FieldCondition.ofText? (text : String) : Option FieldCondition :=
  let parts := text.splitOn "="
  match parts with
  | [name] => if name.isEmpty then none else some ⟨name, false⟩
  | name :: value :: _ =>
    if Decimal.isLiteral value.toList || Pattern.isValid value then some ⟨name, true⟩ else none
  | [] => none

namespace Directive

/-- The rank of the least grave level that a name admits: the name of a level in either case, or its
number; no event at all is `off`. -/
def rankOf? (text : String) : Option Nat :=
  match Count.ofText? text with
  | some n => if n.toNat ≤ Level.trace.rank then some n.toNat else none
  | none =>
    let text := text.toLower
    if text = "off" then some 0
    else (Level.all.find? (·.name.toLower = text)).map Level.rank

def byteSize (cs : List Char) : Nat := (cs.map Char.utf8Size).foldl (· + ·) 0

def dropBytes : Nat → List Char → List Char
  | _, [] => []
  | n, c :: cs => if n = 0 then c :: cs else dropBytes (n - c.utf8Size) cs

def takeBytes : Nat → List Char → List Char
  | _, [] => []
  | n, c :: cs => if n = 0 then [] else c :: takeBytes (n - c.utf8Size) cs

/-- The part of a text between two positions, counted in bytes. -/
def cut (text : List Char) (start stop : Nat) : String :=
  String.ofList (takeBytes (stop - start) (dropBytes start text))

/-- A directive with the level at the end of a text, after a position. -/
def withLevel (d : Directive) (text : List Char) (start : Nat) : Option Directive :=
  match cut text start (byteSize text) with
  | "" => some d
  | level => (rankOf? level).map fun rank => { d with rank }

/-- A directive with the level after its condition, if there is one; `position` is where the text
`rest` stands. -/
def afterCondition (d : Directive) (text : List Char) (position : Nat) (rest : List Char) :
    Option Directive :=
  match rest with
  | [] => some d
  | '=' :: _ => d.withLevel text (position + 1)
  | _ => none

/-- A directive with a condition, after its opening bracket; `position` is where the text `rest`
stands. -/
def withCondition? (target? : Option String) (text : List Char) (position : Nat)
    (rest : List Char) : Option Directive :=
  let name := rest.takeWhile fun c => c ≠ ']' ∧ c ≠ '{'
  let stop := position + byteSize name
  let span := cut text position stop
  match rest.drop name.length with
  | ']' :: rest => afterCondition ⟨target?, some span, none, Level.trace.rank⟩ text (stop + 1) rest
  | '{' :: rest =>
    let field := rest.takeWhile (· ≠ '}')
    let fieldStop := stop + 1 + byteSize field
    match rest.drop field.length with
    | '}' :: ']' :: rest => do
      let condition ← FieldCondition.ofText? (cut text (stop + 1) fieldStop)
      let span? := if span = "" then none else some span
      afterCondition ⟨target?, span?, some condition, Level.trace.rank⟩ text (fieldStop + 2) rest
    | _ => none
  | _ => none

/-- A directive that is a level or a target alone. -/
def ofWord (text : String) : Directive :=
  match rankOf? text with
  | some rank => ⟨none, none, none, rank⟩
  | none => ⟨some text, none, none, Level.trace.rank⟩

def beginsTarget (c : Char) : Bool :=
  c = '-' || c = ':' || c = '_' || Alphanumeric.contains c

/-- The directive of a text. Its structure is that of the text without the white space at its ends,
and positions count from there; what is cut out at a position is cut out of the text as it is. -/
def ofText? (text : String) : Option Directive :=
  let trimmed := Blank.trim text.toList
  match trimmed with
  | [] => none
  | '[' :: rest => withCondition? none text.toList 1 rest
  | c :: _ =>
    if !beginsTarget c then none
    else
      let name := trimmed.takeWhile fun c => c ≠ '=' ∧ c ≠ '['
      let stop := byteSize name
      let target := cut text.toList 0 stop
      match trimmed.drop name.length with
      | [] => some (ofWord text)
      | '=' :: _ => withLevel ⟨some target, none, none, Level.trace.rank⟩ text.toList (stop + 1)
      | _ :: rest => withCondition? (some target) text.toList (stop + 1) rest

/-! ### Meaning -/

def fieldNames (e : Event) : List String := "message" :: e.fields.map (·.1)

def covers (d : Directive) (e : Event) : Bool :=
  d.span?.isNone &&
    (d.target?.all fun target => target.toList.isPrefixOf e.target.toList) &&
    (d.field?.all fun field => !field.hasValue && (fieldNames e).contains field.name)

/-- How many bytes of a target a directive asks for; one that asks for none comes before all that
do. -/
def targetSize (d : Directive) : Nat :=
  match d.target? with
  | none => 0
  | some target => target.utf8ByteSize + 1

/-- Whether one directive is at most as precise as another, where both are about the same event: it
asks for less of the target, or for as much of it and no field, or for a field that does not come
after the other in the alphabet. -/
def atMostAsPrecise (d other : Directive) : Bool :=
  if d.targetSize = other.targetSize then
    match d.field?, other.field? with
    | none, _ => true
    | some _, none => false
    | some a, some b => !(b.name.toList.lex a.name.toList fun x y => x.toNat < y.toNat)
  else d.targetSize < other.targetSize

end Directive

end StackMachine
