/-!
# Counters

Named counters, and registries of them. A registry that is cloned shares its counters with the
clone, in both directions; a fresh one shares them with no other. So registries fall into
families, one for each fresh registry, and a family has one table of counters.
-/

namespace StackMachine

/-- Counters by name, each of them positive, in the order of their first increment. -/
abbrev Counters := List (String × UInt64)

namespace Counters

/-- The value of a counter; zero if it has never been incremented. -/
def get (counters : Counters) (name : String) : UInt64 :=
  match counters.find? (·.1 == name) with
  | some entry => entry.2
  | none => 0

def increment (name : String) : Counters → Counters
  | [] => [(name, 1)]
  | (key, n) :: rest => if key = name then (key, n + 1) :: rest else (key, n) :: increment name rest

theorem get_increment_self (counters : Counters) (name : String) :
    (counters.increment name).get name = counters.get name + 1 := by
  induction counters with
  | nil => simp [increment, get]
  | cons entry rest ih =>
    obtain ⟨key, n⟩ := entry
    by_cases h : key = name
    · simp [increment, get, h]
    · simpa [increment, get, h] using ih

/-- A count does not show in other counters. -/
theorem get_increment_of_ne (counters : Counters) {name other : String} (h : other ≠ name) :
    (counters.increment name).get other = counters.get other := by
  induction counters with
  | nil => simp [increment, get, h.symm]
  | cons entry rest ih =>
    obtain ⟨key, n⟩ := entry
    by_cases hk : key = name
    · subst hk
      simp [increment, get, h.symm]
    · by_cases ho : key = other
      · subst ho
        simp [increment, get, h]
      · simpa [increment, get, hk, ho] using ih

end Counters

/-- Registries by number, each with the number of its family, and the counters of each family. -/
structure Registries where
  families : Array Nat
  tables : Array Counters

namespace Registries

def empty : Registries := ⟨#[], #[]⟩

def fresh (rs : Registries) : Registries where
  families := rs.families.push rs.tables.size
  tables := rs.tables.push []

/-- One more registry, which shares the counters of registry `r`. -/
def clone (rs : Registries) (r : Nat) : Registries :=
  match rs.families[r]? with
  | some family => { rs with families := rs.families.push family }
  | none => rs

def snapshot (rs : Registries) (r : Nat) : Counters :=
  match rs.families[r]? with
  | some family => rs.tables.getD family []
  | none => []

def get (rs : Registries) (r : Nat) (name : String) : UInt64 := (rs.snapshot r).get name

def increment (rs : Registries) (r : Nat) (name : String) : Registries :=
  match rs.families[r]? with
  | some family => { rs with tables := rs.tables.modify family (Counters.increment name) }
  | none => rs

end Registries

end StackMachine
