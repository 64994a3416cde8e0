/-!
# Depth of patterns

How deep the parts of a pattern are nested. Single characters, positions and named sets of
characters have no depth. A group, a repetition, a class and an operator between the sides of a
class are one level deeper than what is in them, and so are several parts that stand side by side.
-/

namespace StackMachine.Pattern

def maxDepth : Nat := 250

/-- Parts that stand side by side: how many they are, and the depth of the deepest. -/
structure Series where
  size : Nat
  deepest : Nat
  deriving DecidableEq

namespace Series

def empty : Series := ⟨0, 0⟩

def push (parts : Series) (depth : Nat) : Series := ⟨parts.size + 1, max parts.deepest depth⟩

def deepen (parts : Series) (depth : Nat) : Series := ⟨parts.size, max parts.deepest depth⟩

/-- A part alone is as deep as it is, and several parts are one level deeper. -/
def depth (parts : Series) : Nat :=
  if parts.size ≤ 1 then parts.deepest else parts.deepest + 1

end Series

end StackMachine.Pattern
