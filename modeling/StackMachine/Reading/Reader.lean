/-!
# Readers

A reader takes some characters from the front of a text and gives a value and the rest, or an
error. The type of the rest says that it is no longer than the text, so a loop over a reader that
first takes one character ends by the length of what is left.
-/

namespace StackMachine

/-- What a reader leaves of a text. -/
abbrev Rest (s : List Char) := { r : List Char // r.length ≤ s.length }

namespace Rest

def all (s : List Char) : Rest s := ⟨s, Nat.le_refl _⟩

def trans {s : List Char} (r : Rest s) (t : Rest r.1) : Rest s :=
  ⟨t.1, Nat.le_trans t.2 r.2⟩

/-- What is left of a text, as a rest of the text with one more character. -/
def cons {s : List Char} (c : Char) (r : Rest s) : Rest (c :: s) :=
  ⟨r.1, Nat.le_succ_of_le r.2⟩

def tail (s : List Char) : Rest s := ⟨s.tail, by simp⟩

def dropWhile (p : Char → Bool) (s : List Char) : Rest s :=
  ⟨s.dropWhile p, (List.dropWhile_sublist p).length_le⟩

/-- Where a character is left, taking it leaves less than there was. -/
theorem length_lt_of_dropWhile {p : Char → Bool} {s r : List Char} {c : Char}
    (h : (dropWhile p s).1 = c :: r) : r.length < s.length := by
  have := (dropWhile p s).2
  rw [h] at this
  exact this

end Rest

/-- Takes characters from the front of a text, or fails with an `ε`. -/
def Reader (ε α : Type) := (s : List Char) → Except ε (α × Rest s)

namespace Reader

variable {ε α β : Type}

instance : Monad (Reader ε) where
  pure a := fun s => .ok (a, .all s)
  bind p f := fun s =>
    match p s with
    | .error e => .error e
    | .ok (a, r) =>
      match f a r.1 with
      | .error e => .error e
      | .ok (b, t) => .ok (b, r.trans t)

def fail (e : ε) : Reader ε α := fun _ => .error e

/-- The first character, which stays. -/
def peek : Reader ε (Option Char) := fun s => .ok (s.head?, .all s)

def remaining : Reader ε (List Char) := fun s => .ok (s, .all s)

def skip : Reader ε Unit := fun s => .ok ((), .tail s)

/-- Takes `n` characters, or as many as there are. -/
def skipMany : Nat → Reader ε Unit
  | 0 => pure ()
  | n + 1 => do skip; skipMany n

def takeWhile (p : Char → Bool) : Reader ε (List Char) := fun s =>
  .ok (s.takeWhile p, .dropWhile p s)

def skipWhile (p : Char → Bool) : Reader ε Unit := fun s => .ok ((), .dropWhile p s)

/-- Takes exactly the given characters. Where the text ends before they do the error is `ended`, and
where it has another character it is `differs`. -/
def exactly (ended differs : ε) : List Char → Reader ε Unit
  | [] => pure ()
  | c :: cs => do
    match ← peek with
    | none => fail ended
    | some d => if c = d then do skip; exactly ended differs cs else fail differs

/-- The value a reader gives for all of a text; `trailing` if it leaves something. -/
def readAll (p : Reader ε α) (trailing : ε) (s : List Char) : Except ε α :=
  match p s with
  | .error e => .error e
  | .ok (a, r) => if r.1.isEmpty then .ok a else .error trailing

end Reader

end StackMachine
