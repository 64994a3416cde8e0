import StackMachine.Toml.Scalar

/-!
# Reading TOML

A document is a sequence of lines: comments, headers, and keys with their values. Lists may go
over several lines and end in a comma; inline tables may do neither. Values nest less than eighty
deep, and a dotted key has less than eighty parts.
-/

namespace StackMachine.Toml

/-- Values nest, and keys are divided, less deep than this. -/
def depthLimit : Nat := 80

/-! ### Keys -/

def isBare (c : Char) : Bool := c.isAlphanum || c = '_' || c = '-'

/-- One part of a key, after its first character. -/
def keyPartAfter (c : Char) : Read String := do
  if c = '"' then basicBody
  else if c = '\'' then literalBody
  else if isBare c then
    let cs ← Reader.takeWhile isBare
    return String.ofList (c :: cs)
  else malformed

def keyPart : Read String := do
  blanks
  let part ← keyPartAfter (← take)
  blanks
  return part

/-- The parts of a key that come after the first ones. -/
def keyFrom (before : List String) (s : List Char) : Except Fault (List String × Rest s) :=
  match s with
  | '.' :: r =>
    match keyPart r with
    | .error e => .error e
    | .ok (part, t) =>
      match keyFrom (part :: before) t.1 with
      | .error e => .error e
      | .ok (key, u) => .ok (key, (t.trans u).cons _)
  | r => .ok (before.reverse, .all r)
termination_by s.length
decreasing_by
  have := t.2; simp only [List.length_cons]; omega

/-- A key after its first character: the parts before the last one, and the last one. -/
def keyAfter (c : Char) : Read (List String × String) := do
  let first ← keyPartAfter c
  blanks
  let parts ← keyFrom [first]
  if depthLimit ≤ parts.length then malformed
  match parts.getLast? with
  | some last => return (parts.dropLast, last)
  | none => malformed

/-! ### Values -/

/-- The elements of a list after those so far, up to the closing bracket. -/
def arrayFrom (item : Read Node) (before : List Node) (s : List Char) :
    Except Fault (List Node × Rest s) :=
  let start := spaceFrom s
  match start.1.head? with
  | none => .error .malformed
  | some ']' => .ok (before.reverse, start.trans (.tail _))
  | some _ =>
    match item start.1 with
    | .error e => .error e
    | .ok (node, t) =>
      match h : (spaceFrom t.1).1 with
      | ']' :: r =>
        .ok ((node :: before).reverse, ⟨r, by
          have := (spaceFrom t.1).2; rw [h] at this; simp at this
          have := t.2; have := start.2; omega⟩)
      | ',' :: r =>
        match arrayFrom item (node :: before) r with
        | .error e => .error e
        | .ok (all, u) =>
          .ok (all, ⟨u.1, by
            have := (spaceFrom t.1).2; rw [h] at this; simp at this
            have := t.2; have := start.2; have := u.2; omega⟩)
      | _ => .error .malformed
termination_by s.length
decreasing_by
  have := (spaceFrom t.1).2
  rw [h] at this
  simp at this
  have := t.2
  have := start.2
  omega

/-- A key and its value inside an inline table, added to the entries so far. -/
def inlineEntry (item : Read Node) (before : Entries) : Read Entries := do
  blanks
  let (path, key) ← keyAfter (← take)
  word "="
  blanks
  let node ← item
  blanks
  match before.addDotted? path key node .inline with
  | some entries => return entries
  | none => malformed

def inlineFrom (item : Read Node) (before : Entries) (s : List Char) :
    Except Fault (Entries × Rest s) :=
  match inlineEntry item before s with
  | .error e => .error e
  | .ok (entries, t) =>
    match h : t.1 with
    | '}' :: r => .ok (entries, ⟨r, by have := t.2; rw [h] at this; simp at this; omega⟩)
    | ',' :: r =>
      match inlineFrom item entries r with
      | .error e => .error e
      | .ok (all, u) =>
        .ok (all, ⟨u.1, by have := t.2; rw [h] at this; simp at this; have := u.2; omega⟩)
    | _ => .error .malformed
termination_by s.length
decreasing_by
  have := t.2
  rw [h] at this
  simp at this
  omega

def inlineBody (item : Read Node) : Read Entries := do
  blanks
  if (← Reader.peek) = some '}' then
    Reader.skip
    return []
  inlineFrom item []

def scalar : Read Node := do
  match ← Reader.peek with
  | none => malformed
  | some c =>
    if c = '+' ∨ c = '-' ∨ c.isDigit then numberOrDate
    else if c = 'i' ∨ c = 'n' then number
    else
      Reader.skip
      match c with
      | '"' => return .string (← stringAfter c)
      | '\'' => return .string (← stringAfter c)
      | 't' => do word "rue"; return .boolean true
      | 'f' => do word "alse"; return .boolean false
      | _ => malformed

/-- A value that holds values nested at most `depth` deep. -/
def value : Nat → Read Node
  | 0 => scalar
  | depth + 1 => do
    match ← Reader.peek with
    | some '[' => do
      Reader.skip
      return .array (← arrayFrom (value depth) [])
    | some '{' => do
      Reader.skip
      return .table .inline (← inlineBody (value depth))
    | _ => scalar

/-! ### Lines -/

/-- What has been read of a document: its entries, and the header below which keys are added. -/
structure Document where
  entries : Entries
  header : List String

/-- Accepts a change of the entries unless it is not allowed. -/
def Document.withEntries (entries? : Option Entries) (header : List String) : Read Document :=
  match entries? with
  | some entries => return { entries, header }
  | none => malformed

/-- A header, after its first bracket. -/
def Document.header? (d : Document) : Read Document := do
  let isElement := (← Reader.peek) = some '['
  if isElement then Reader.skip
  blanks
  let (path, key) ← keyAfter (← take)
  word (if isElement then "]]" else "]")
  lineEnd
  let entries? :=
    if isElement then d.entries.startElement? path key else d.entries.startTable? path key
  withEntries entries? (path ++ [key])

/-- A key and its value, after the first character of the key. -/
def Document.keyValue (d : Document) (c : Char) : Read Document := do
  let (path, key) ← keyAfter c
  word "="
  blanks
  let node ← value (depthLimit - 1)
  lineEnd
  withEntries (d.entries.addBelow? d.header path key node) d.header

/-- One line of a document, after its first character that is not a blank. -/
def Document.line (d : Document) (c : Char) : Read Document := do
  match c with
  | '\n' => return d
  | '\r' => do word "\n"; return d
  | '#' => do
    Reader.skipWhile isText
    lineEnd
    return d
  | '[' => d.header?
  | _ => d.keyValue c

def Document.lines (d : Document) (s : List Char) : Except Fault Document :=
  match h : (Rest.dropWhile isBlank s).1 with
  | [] => .ok d
  | c :: r =>
    have := Rest.length_lt_of_dropWhile h
    match d.line c r with
    | .error e => .error e
    | .ok (next, t) => lines next t.1
termination_by s.length
decreasing_by
  have := t.2
  omega

/-- The entries of a document. A byte order mark at the beginning is left out. -/
def parse (text : String) : Except Fault Entries :=
  let s := match text.toList with
    | '\ufeff' :: r => r
    | s => s
  (Document.lines ⟨[], []⟩ s).map (·.entries)

end StackMachine.Toml
