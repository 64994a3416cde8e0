/-!
# JSON values and their two layouts

The values that this library writes, and two ways to lay them out: `Value.compact` on one line
without blanks, and `Value.pretty` with one element or member a line, indented by two blanks for
each list or object around it. An empty list or object stays on one line in either layout.
-/

namespace StackMachine.Json

/-- A JSON value without booleans, `null` and fractions, which nothing here has. -/
inductive Value
  | string (s : String)
  | natural (n : Nat)
  | list (items : List Value)
  | object (members : List (String × Value))

namespace Value

def hexDigit (n : Nat) : Char := Nat.digitChar n

def escape (c : Char) : List Char :=
  if c = '"' then ['\\', '"']
  else if c = '\\' then ['\\', '\\']
  else if c = '\x08' then ['\\', 'b']
  else if c = '\x0c' then ['\\', 'f']
  else if c = '\n' then ['\\', 'n']
  else if c = '\r' then ['\\', 'r']
  else if c = '\t' then ['\\', 't']
  else if c.toNat < 0x20 then
    ['\\', 'u', '0', '0', hexDigit (c.toNat / 16), hexDigit (c.toNat % 16)]
  else [c]

def quote (s : String) : List Char := '"' :: s.toList.flatMap escape ++ ['"']

def number (n : Nat) : List Char := Nat.toDigits 10 n

def newline (depth : Nat) : List Char := '\n' :: List.replicate (2 * depth) ' '

mutual

def compactChars : Value → List Char
  | string s => quote s
  | natural n => number n
  | list items => '[' :: compactItems items ++ [']']
  | object members => '{' :: compactMembers members ++ ['}']

def compactItems : List Value → List Char
  | [] => []
  | [v] => v.compactChars
  | v :: rest => v.compactChars ++ ',' :: compactItems rest

def compactMembers : List (String × Value) → List Char
  | [] => []
  | [(k, v)] => quote k ++ ':' :: v.compactChars
  | (k, v) :: rest => quote k ++ ':' :: v.compactChars ++ ',' :: compactMembers rest

end

mutual

/-- A value inside `depth` lists and objects, one element or member a line. -/
def prettyChars (depth : Nat) : Value → List Char
  | string s => quote s
  | natural n => number n
  | list [] => ['[', ']']
  | list (v :: rest) =>
    '[' :: newline (depth + 1) ++ v.prettyChars (depth + 1) ++ prettyItems (depth + 1) rest ++
      newline depth ++ [']']
  | object [] => ['{', '}']
  | object ((k, v) :: rest) =>
    '{' :: newline (depth + 1) ++ quote k ++ ':' :: ' ' :: v.prettyChars (depth + 1) ++
      prettyMembers (depth + 1) rest ++ newline depth ++ ['}']

/-- Elements after the first, each on a line of its own. -/
def prettyItems (depth : Nat) : List Value → List Char
  | [] => []
  | v :: rest => ',' :: newline depth ++ v.prettyChars depth ++ prettyItems depth rest

/-- Members after the first, each on a line of its own. -/
def prettyMembers (depth : Nat) : List (String × Value) → List Char
  | [] => []
  | (k, v) :: rest =>
    ',' :: newline depth ++ quote k ++ ':' :: ' ' :: v.prettyChars depth ++
      prettyMembers depth rest

end

def compact (v : Value) : String := String.ofList v.compactChars

def pretty (v : Value) : String := String.ofList (v.prettyChars 0)

end Value

end StackMachine.Json
