import StackMachine.Decimal.FloatText
import StackMachine.Reading.Mismatch

/-!
# TOML documents as trees

A document is a tree of tables. A table remembers what made it, because that decides what may
still be added to it: a header may be given once, a table that longer headers only imply may still
get its own header, a table made by dotted keys takes more dotted keys but no header, and an
inline table is finished when it is closed.

Entries keep the order in which the text first needs them; a header for a table that was implied
before moves it to the end.
-/

namespace StackMachine.Toml

inductive Origin
  | header
  | implied
  | dotted
  | inline
  deriving DecidableEq

/-- A value, a table, or the tables of a header in double brackets. -/
inductive Node
  | string (s : String)
  | integer (n : Int)
  | float (x : Float)
  | boolean (b : Bool)
  | datetime
  | array (items : List Node)
  | table (origin : Origin) (entries : List (String × Node))
  | tables (items : List Node)

abbrev Entries := List (String × Node)

namespace Entries

def find? (entries : Entries) (key : String) : Option Node :=
  (List.find? (·.1 == key) entries).map (·.2)

/-- Replaces the entry of a key, which keeps its place. -/
def replace (entries : Entries) (key : String) (node : Node) : Entries :=
  entries.map fun e => if e.1 = key then (key, node) else e

/-- Adds an entry at the end; the key must be new. -/
def add? (entries : Entries) (key : String) (node : Node) : Option Entries :=
  if (entries.find? key).isSome then none else some (entries ++ [(key, node)])

/-- Changes the table at a path. A table that is missing on the way gets the origin `made`. Dotted
keys pass only through tables that no header has made, and nothing passes through a finished value.
-/
def modifyAt (made : Origin) (change : Origin → Entries → Option Entries) :
    List String → Origin → Entries → Option Entries
  | [], origin, entries => change origin entries
  | key :: path, _, entries =>
    match entries.find? key with
    | none => do
      let inner ← modifyAt made change path made []
      return entries ++ [(key, .table made inner)]
    | some (.table origin inner) =>
      if origin = .inline ∨ (made = .dotted ∧ origin = .header) then none
      else do
        let inner ← modifyAt made change path origin inner
        return entries.replace key (.table origin inner)
    | some (.tables items) =>
      match items.getLast? with
      | some (.table origin inner) => do
        let inner ← modifyAt made change path origin inner
        return entries.replace key (.tables (items.dropLast ++ [.table origin inner]))
      | _ => none
    | some _ => none

/-- Adds the value of a dotted key. The keys before the last one make dotted tables, and only a
dotted table takes a value this way. -/
def addDotted? (path : List String) (key : String) (node : Node) (origin : Origin)
    (entries : Entries) : Option Entries :=
  modifyAt .dotted
    (fun origin inner => if path ≠ [] ∧ origin ≠ .dotted then none else inner.add? key node)
    path origin entries

def startTable? (path : List String) (key : String) (entries : Entries) : Option Entries :=
  modifyAt .implied
    (fun _ inner =>
      match inner.find? key with
      | none => some (inner ++ [(key, .table .header [])])
      | some (.table .implied below) =>
        some (inner.filter (·.1 ≠ key) ++ [(key, .table .header below)])
      | some _ => none)
    path .header entries

/-- Starts one more table of a header in double brackets. -/
def startElement? (path : List String) (key : String) (entries : Entries) : Option Entries :=
  modifyAt .implied
    (fun _ inner =>
      match inner.find? key with
      | none => some (inner ++ [(key, .tables [.table .header []])])
      | some (.tables items) => some (inner.replace key (.tables (items ++ [.table .header []])))
      | some _ => none)
    path .header entries

/-- Adds the value of a dotted key to the table that the last header has started. -/
def addBelow? (header path : List String) (key : String) (node : Node) (entries : Entries) :
    Option Entries :=
  modifyAt .implied (addDotted? path key node) header .header entries

end Entries

/-- How a message names what a node holds; a date counts as a map. -/
def Node.found : Node → Found
  | string s => .string s
  | integer n => .integer n
  | float x => .float (FloatText.ofFloat FloatText.positionalStyle x)
  | boolean b => .boolean b
  | datetime => .map
  | array _ | tables _ => .sequence
  | table _ _ => .map

def Node.kind : Node → String
  | string _ => "string"
  | integer _ => "integer"
  | float _ => "float"
  | boolean _ => "boolean"
  | datetime => "datetime"
  | array _ => "array"
  | table .inline _ => "inline table"
  | table _ _ => "table"
  | tables _ => "array of tables"

end StackMachine.Toml
