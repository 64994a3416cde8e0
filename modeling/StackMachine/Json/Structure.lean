import StackMachine.Json.Lexis

/-!
# Lists and objects

Lists of any length, lists of fixed length, and objects, given the readers for what is inside them.
Elements and members are separated by commas, and no comma stands before the closing bracket.
-/

namespace StackMachine.Json

variable {α κ σ : Type}

def afterComma (item : Read α) : Read α := do
  if (← peek) = ']' then Reader.fail .malformed
  item

/-- What follows an element up to the closing bracket, after the elements so far. -/
def elementsFrom (item : Read α) (before : Array α) (s : List Char) :
    Except Fault (Array α × Rest s) :=
  match h : (Rest.dropWhile isBlank s).1 with
  | [] => .error .truncated
  | ']' :: r => .ok (before, ⟨r, Nat.le_of_lt (Rest.length_lt_of_dropWhile h)⟩)
  | ',' :: r =>
    match afterComma item r with
    | .error e => .error e
    | .ok (a, t) =>
      match elementsFrom item (before.push a) t.1 with
      | .error e => .error e
      | .ok (all, u) =>
        .ok (all, ⟨u.1, by
          have := Rest.length_lt_of_dropWhile h; have := t.2; have := u.2; omega⟩)
  | _ => .error .malformed
termination_by s.length
decreasing_by
  have := Rest.length_lt_of_dropWhile h
  have := t.2
  omega

/-- The elements of a list, after its opening bracket and up to its closing one. -/
def elements (item : Read α) : Read (Array α) := do
  if (← peek) = ']' then
    Reader.skip
    return #[]
  elementsFrom item #[(← item)]

/-- One element of a list of fixed length, or `none` where the list ends instead. -/
def element? (isFirst : Bool) (item : Read α) : Read (Option α) := do
  let c ← peek
  if c = ']' then return none
  else if isFirst then return some (← item)
  else if c = ',' then
    Reader.skip
    return some (← afterComma item)
  else Reader.fail .malformed

/-- The element at a position of a list of fixed length; `expected` describes the whole list. -/
def element (position : Nat) (expected : String) (item : Read α) : Read α := do
  match ← element? (position = 0) item with
  | some a => return a
  | none => Reader.fail (.misfit (.invalidLength position expected))

/-- The member after a key: what the key says about the state so far. -/
def memberAfterQuote (key : Read κ) (onKey : σ → κ → Read σ) (before : σ) : Read σ := do
  onKey before (← key)

/-- Takes the comma between members and the blanks after it. -/
def memberComma (isFirst : Bool) : Read Unit := do
  let c ← peek
  if c ≠ '}' ∧ !isFirst then
    if c = ',' then
      Reader.skip
      if (← peek) = '}' then Reader.fail .malformed
    else Reader.fail .malformed

/-- The members of an object, after its opening brace and up to its closing one. `key` reads a key
after its opening quote, and `onKey` the colon and the value that go with it. -/
def membersFrom (key : Read κ) (onKey : σ → κ → Read σ) (isFirst : Bool) (before : σ)
    (s : List Char) : Except Fault (σ × Rest s) :=
  match memberComma isFirst s with
  | .error e => .error e
  | .ok (_, b) =>
    match h : b.1 with
    | [] => .error .truncated
    | '}' :: r =>
      .ok (before, ⟨r, by have := b.2; rw [h] at this; simp at this; omega⟩)
    | '"' :: r =>
      match memberAfterQuote key onKey before r with
      | .error e => .error e
      | .ok (next, t) =>
        match membersFrom key onKey false next t.1 with
        | .error e => .error e
        | .ok (all, u) =>
          .ok (all, ⟨u.1, by
            have := b.2; rw [h] at this; simp at this
            have := t.2; have := u.2; omega⟩)
    | _ => .error .malformed
termination_by s.length
decreasing_by
  have := b.2
  rw [h] at this
  simp at this
  have := t.2
  omega

def members (key : Read κ) (onKey : σ → κ → Read σ) (start : σ) : Read σ :=
  membersFrom key onKey true start

def endList : Read Unit := expect ']'

end StackMachine.Json
