import Mathlib.Data.List.Infix
import Mathlib.Logic.Relation
import StackMachine.Counters

/-!
# Calls of registries

What registries show depends on all the calls that have been made so far, of any of them and in any
order. This module has the calls and their answers, and what the calls say by themselves, without
any tables: how many registries they make, which of these are of one family, because clones connect
them (`Registries.Related`), and how often they increment a counter through the registries of a
family (`Registries.increments`).
-/

namespace StackMachine.Registries

/-! ### Calls -/

/-- What can be done with registries, which go by their numbers. -/
inductive Call
  | fresh
  | clone (r : Nat)
  | increment (r : Nat) (name : String)
  | get (r : Nat) (name : String)
  | snapshot (r : Nat)
  deriving DecidableEq

/-- What a call gives back: the number of a registry that it has made, nothing, the value of a
counter, or counters. The counters belong to the caller. -/
inductive Answer
  | registry (r : Nat)
  | done
  | value (n : UInt64)
  | counters (shown : Counters)
  deriving DecidableEq

namespace Call

def through? : Call → Option Nat
  | fresh => none
  | clone r | increment r _ | get r _ | snapshot r => some r

def makes : Call → Bool
  | fresh | clone _ => true
  | _ => false

def isIncrement : Call → Bool
  | increment _ _ => true
  | _ => false

/-- The counter that a call increments through one of the given registries. -/
def incremented? (among : Nat → Prop) [DecidablePred among] : Call → Option String
  | increment r name => if among r then some name else none
  | _ => none

end Call

def perform (rs : Registries) : Call → Answer × Registries
  | .fresh => (.registry rs.families.size, rs.fresh)
  | .clone r => (.registry rs.families.size, rs.clone r)
  | .increment r name => (.done, rs.increment r name)
  | .get r name => (.value (rs.get r name), rs)
  | .snapshot r => (.counters (rs.snapshot r), rs)

def after (rs : Registries) (calls : List Call) : Registries :=
  calls.foldl (fun rs call => (rs.perform call).2) rs

def answers (rs : Registries) : List Call → List Answer
  | [] => []
  | call :: rest => (rs.perform call).1 :: (rs.perform call).2.answers rest

theorem after_concat (rs : Registries) (calls : List Call) (call : Call) :
    rs.after (calls ++ [call]) = ((rs.after calls).perform call).2 :=
  List.foldl_concat ..

/-- The answer to a call is that of the registries at this moment. -/
theorem getElem?_answers {rs : Registries} {earlier calls : List Call} {call : Call}
    (h : earlier ++ [call] <+: calls) :
    (rs.answers calls)[earlier.length]? = some ((rs.after earlier).perform call).1 := by
  obtain ⟨later, rfl⟩ := h
  induction earlier generalizing rs with
  | nil => rfl
  | cons first earlier ih => exact ih

/-! ### What calls say of registries -/

/-- How many registries calls make. The next one that is made has this number. -/
def made (calls : List Call) : Nat := calls.countP Call.makes

/-- A call is made through a registry that an earlier one has made. -/
def WellFormed (calls : List Call) : Prop :=
  ∀ earlier call, earlier ++ [call] <+: calls → ∀ r ∈ call.through?, r < made earlier

def Founder (calls : List Call) (r : Nat) : Prop :=
  ∃ earlier, earlier ++ [.fresh] <+: calls ∧ r = made earlier

/-- Registry `s` is made as a clone of registry `r`. -/
def Cloned (calls : List Call) (r s : Nat) : Prop :=
  ∃ earlier, earlier ++ [.clone r] <+: calls ∧ s = made earlier

/-- Two registries are of one family: clones connect them, in either direction. -/
def Related (calls : List Call) : Nat → Nat → Prop := Relation.EqvGen (Cloned calls)

def incremented (among : Nat → Prop) [DecidablePred among] (calls : List Call) : List String :=
  calls.filterMap (Call.incremented? among)

open Classical in
/-- How often calls increment a counter through the family of a registry. -/
noncomputable def increments (calls : List Call) (r : Nat) (name : String) : Nat :=
  (incremented (Related calls r) calls).count name

section Calls

variable {calls : List Call} {call : Call} {r s : Nat}

theorem made_concat (calls : List Call) (call : Call) :
    made (calls ++ [call]) = made calls + if call.makes then 1 else 0 := by
  rw [made, List.countP_append, List.countP_singleton]
  rfl

/-- A call of a sequence with one call more is the last one or one of the others. -/
theorem prefix_concat {earlier : List Call} {other : Call} :
    earlier ++ [other] <+: calls ++ [call] ↔
      earlier = calls ∧ other = call ∨ earlier ++ [other] <+: calls := by
  rw [List.prefix_concat_iff]
  simp

/-- One more call is well-formed if it goes through a registry that has been made. -/
theorem wellFormed_concat :
    WellFormed (calls ++ [call]) ↔ WellFormed calls ∧ ∀ r ∈ call.through?, r < made calls := by
  constructor
  · intro h
    exact ⟨fun earlier other hother => h earlier other (prefix_concat.mpr (.inr hother)),
      h calls call (prefix_concat.mpr (.inl ⟨rfl, rfl⟩))⟩
  · rintro ⟨hcalls, hcall⟩ earlier other hother
    rcases prefix_concat.mp hother with ⟨rfl, rfl⟩ | hother
    · exact hcall
    · exact hcalls earlier other hother

theorem WellFormed.of_prefix {earlier : List Call} (h : WellFormed calls)
    (hearlier : earlier <+: calls) : WellFormed earlier :=
  fun start call hcall => h start call (hcall.trans hearlier)

instance (calls : List Call) : Decidable (WellFormed calls) :=
  decidable_of_iff (∀ start ∈ calls.inits, ∀ call ∈ start.getLast?, ∀ r ∈ call.through?,
    r < made start.dropLast) <| by
    constructor
    · intro h earlier call hcall
      have hlast := h (earlier ++ [call]) ((List.mem_inits _ _).mpr hcall) call (by simp)
      rwa [List.dropLast_concat] at hlast
    · intro h start hstart call hcall
      obtain ⟨earlier, rfl⟩ := List.getLast?_eq_some_iff.mp hcall
      rw [List.dropLast_concat]
      exact h earlier call ((List.mem_inits _ _).mp hstart)

theorem founder_concat :
    Founder (calls ++ [call]) r ↔ Founder calls r ∨ call = .fresh ∧ r = made calls := by
  simp only [Founder, prefix_concat]
  grind

/-- Only a call that clones connects a registry that was not connected before. -/
theorem cloned_concat :
    Cloned (calls ++ [call]) r s ↔ Cloned calls r s ∨ call = .clone r ∧ s = made calls := by
  simp only [Cloned, prefix_concat]
  grind

theorem Related.concat (h : Related calls r s) : Related (calls ++ [call]) r s :=
  Relation.EqvGen.mono (fun _ _ hcloned => cloned_concat.mpr (.inl hcloned)) _ _ h

theorem incremented_concat (among : Nat → Prop) [DecidablePred among] (calls : List Call)
    (call : Call) :
    incremented among (calls ++ [call]) =
      incremented among calls ++ (call.incremented? among).toList := by
  cases h : call.incremented? among with
  | none => simp [incremented, h]
  | some name => simp [incremented, h]

/-- The number of a registry is less than that of those made later. -/
theorem made_lt {earlier : List Call} (h : earlier ++ [call] <+: calls)
    (hmakes : call.makes = true) : made earlier < made calls := by
  have hle : made (earlier ++ [call]) ≤ made calls := h.countP_le
  rwa [made_concat, if_pos hmakes] at hle

theorem Founder.lt (h : Founder calls r) : r < made calls := by
  obtain ⟨earlier, hearlier, rfl⟩ := h
  exact made_lt hearlier rfl

end Calls

end StackMachine.Registries
