import Mathlib.Data.List.Sort
import StackMachine.Proofs.Image.Findings
import StackMachine.Proofs.Image.Validation

/-!
# The verdict on a program

A check goes through the code, collects the targets of the jumps in a set, and goes through it once
more. What it should find out can be said without any of this, by looking at single positions of
the code: `Image.Judged`. The check gives a verdict exactly if this relation allows it
(`Image.verdict_iff_judged`), so the relation allows one verdict on each program, whatever its
magic.
-/

namespace StackMachine.Image

/-- The instruction at a position is a jump with the given target, taken or not. -/
def JumpsTo (code : Array Instruction) (pc : Nat) (target : UInt64) : Prop :=
  code[pc]? = some (.jump target) ∨ code[pc]? = some (.jumpIf target)

/-- Control never passes from the instruction at a position to the next one. -/
def EndsFlow (code : Array Instruction) (pc : Nat) : Prop :=
  code[pc]? = some .halt ∨ code[pc]? = some .error ∨ ∃ target, code[pc]? = some (.jump target)

/-- A position after the first that the one before does not lead to, and no jump either, be it
before or after it, and be it reached or not. -/
structure Unreached (code : Array Instruction) (pc : Nat) : Prop where
  not_first : 1 ≤ pc
  in_code : pc < code.size
  not_after : EndsFlow code (pc - 1)
  not_target : ∀ source target, JumpsTo code source target → target.toNat ≠ pc

/-- What is to be said of a program. The unreached positions are listed in ascending order, each of
them once. -/
inductive Judged (code : Array Instruction) : Except Failure (List String) → Prop
  | empty : code = #[] → Judged code (.error .emptyProgram)
  | escape {pc target} : JumpsTo code pc target → code.size ≤ target.toNat →
      (∀ earlier < pc, ∀ other, JumpsTo code earlier other → other.toNat < code.size) →
      Judged code (.error (.invalidJump pc target))
  | fine {positions : List Nat} : code ≠ #[] →
      (∀ pc target, JumpsTo code pc target → target.toNat < code.size) →
      positions.Pairwise (· < ·) → (∀ pc, pc ∈ positions ↔ Unreached code pc) →
      Judged code (.ok
        ((if .halt ∈ code then [] else ["program has no halt instruction"]) ++
          positions.map fun pc => "instruction " ++ toString pc ++ " is unreachable"))

variable {image : Image} {code : Array Instruction} {pc : Nat} {target : UInt64}
  {verdict : Except Failure (List String)}

/-! ### Positions, one by one -/

/-- The two jumps are the instructions that have a target. -/
theorem jumpsTo_iff : JumpsTo code pc target ↔ ∃ i, code[pc]? = some i ∧ target ∈ i.target? := by
  constructor
  · rintro (h | h)
    · exact ⟨_, h, rfl⟩
    · exact ⟨_, h, rfl⟩
  · rintro ⟨i, hi, htarget⟩
    cases i with
    | jump t =>
      cases htarget
      exact .inl hi
    | jumpIf t =>
      cases htarget
      exact .inr hi
    | _ => cases htarget

/-- The three operations named are the ones that do not let control fall through. -/
theorem endsFlow_iff : EndsFlow code pc ↔ ∃ i ∈ code[pc]?, i.fallsThrough = false := by
  constructor
  · rintro (h | h | ⟨t, h⟩)
    · exact ⟨_, h, rfl⟩
    · exact ⟨_, h, rfl⟩
    · exact ⟨_, h, rfl⟩
  · rintro ⟨i, hi, hflow⟩
    cases i with
    | halt => exact .inl hi
    | error => exact .inr (.inl hi)
    | jump t => exact .inr (.inr ⟨t, hi⟩)
    | _ => cases hflow

/-- To go through the instructions is to go through the positions. -/
theorem forall_target_iff {P : UInt64 → Prop} :
    (∀ i ∈ code.toList, ∀ target ∈ i.target?, P target) ↔
      ∀ pc target, JumpsTo code pc target → P target := by
  constructor
  · intro h pc target hjump
    obtain ⟨i, hi, htarget⟩ := jumpsTo_iff.mp hjump
    exact h i (Array.mem_toList_iff.mpr (Array.mem_of_getElem? hi)) target htarget
  · intro h i hi target htarget
    obtain ⟨pc, hpc⟩ := Array.mem_iff_getElem?.mp (Array.mem_toList_iff.mp hi)
    exact h pc target (jumpsTo_iff.mpr ⟨i, hpc, htarget⟩)

theorem staysInside_iff :
    StaysInside code ↔ ∀ pc target, JumpsTo code pc target → target.toNat < code.size :=
  forall_target_iff

theorem escapes_iff :
    Escapes code.toList pc target ↔ JumpsTo code pc target ∧ code.size ≤ target.toNat := by
  rw [Escapes, jumpsTo_iff, Array.getElem?_toList, Array.length_toList, Option.bind_eq_some_iff]
  rfl

theorem firstEscape_iff :
    FirstEscape code pc target ↔
      JumpsTo code pc target ∧ code.size ≤ target.toNat ∧
        ∀ earlier < pc, ∀ other, JumpsTo code earlier other → other.toNat < code.size := by
  simp only [FirstEscape, escapes_iff, not_and, Nat.not_le, and_assoc]

/-! ### The unreached positions -/

theorem mem_unreachable_iff_unreached : pc ∈ unreachable code ↔ Unreached code pc := by
  rw [mem_unreachable_iff, CutOff, ← endsFlow_iff, forall_target_iff]
  constructor
  · rintro ⟨hfirst, hcode, hafter, htarget⟩
    exact ⟨hfirst, hcode, hafter, htarget⟩
  · intro h
    exact ⟨h.not_first, h.in_code, h.not_after, h.not_target⟩

/-- Positions are listed in ascending order, since they are picked from a range. -/
theorem pairwise_unreachable : (unreachable code).Pairwise (· < ·) :=
  List.Pairwise.filter _ List.pairwise_lt_range'

/-- An ascending list without repetition is known by its members. -/
theorem eq_unreachable {positions : List Nat} (hsorted : positions.Pairwise (· < ·))
    (hmem : ∀ pc, pc ∈ positions ↔ Unreached code pc) : positions = unreachable code := by
  refine hsorted.eq_of_mem_iff pairwise_unreachable ?_
  intro pc
  rw [hmem, mem_unreachable_iff_unreached]

/-- The wordings, spelt out: at most one about halts, and then one for each unreached position. -/
theorem map_message_findings :
    (findings code).map Finding.message =
      (if .halt ∈ code then [] else ["program has no halt instruction"]) ++
        (unreachable code).map fun pc => "instruction " ++ toString pc ++ " is unreachable" := by
  rw [findings, List.map_append, List.map_map]
  congr 1
  by_cases hhalt : .halt ∈ code
  · rw [if_pos hhalt, if_pos (Array.contains_iff_mem.mpr hhalt)]
    rfl
  · rw [if_neg hhalt, if_neg (fun h => hhalt (Array.contains_iff_mem.mp h))]
    rfl

/-! ### The verdict -/

/-- The check says what is to be said. -/
theorem judged_validate : Judged image.code (image.validate.map (·.map Finding.message)) := by
  cases hcheck : image.validate with
  | ok found =>
    obtain ⟨hcode, hinside, rfl⟩ := validate_eq_ok_iff.mp hcheck
    show Judged image.code (.ok ((findings image.code).map Finding.message))
    rw [map_message_findings]
    exact .fine hcode (staysInside_iff.mp hinside) pairwise_unreachable
      fun pc => mem_unreachable_iff_unreached
  | error cause =>
    show Judged image.code (.error cause)
    rcases validate_eq_error hcheck with rfl | ⟨pc, target, rfl⟩
    · exact .empty (validate_eq_emptyProgram_iff.mp hcheck)
    · obtain ⟨hjump, hout, hearlier⟩ := firstEscape_iff.mp (validate_eq_invalidJump_iff.mp hcheck)
      exact .escape hjump hout hearlier

/-- Nothing else is to be said. -/
theorem Judged.validate_eq (h : Judged image.code verdict) :
    image.validate.map (·.map Finding.message) = verdict := by
  cases h with
  | empty hcode =>
    rw [validate_eq_emptyProgram_iff.mpr hcode]
    rfl
  | escape hjump hout hearlier =>
    rw [validate_eq_invalidJump_iff.mpr (firstEscape_iff.mpr ⟨hjump, hout, hearlier⟩)]
    rfl
  | fine hcode hinside hsorted hmem =>
    -- The positions are any ascending list of the unreached ones, and there is only one.
    rw [validate_eq_ok_iff.mpr ⟨hcode, staysInside_iff.mpr hinside, rfl⟩,
      eq_unreachable hsorted hmem, ← map_message_findings]
    rfl

/-- **The check gives a verdict exactly if single positions of the code allow it.** In particular
there is one verdict on each program, and the magic has no part in it. -/
theorem verdict_iff_judged (image : Image) (verdict : Except Failure (List String)) :
    image.validate.map (·.map Finding.message) = verdict ↔ Judged image.code verdict := by
  constructor
  · rintro rfl
    exact judged_validate
  · exact Judged.validate_eq

end StackMachine.Image
