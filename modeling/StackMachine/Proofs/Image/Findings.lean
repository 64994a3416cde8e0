import Std.Data.String.ToNat
import StackMachine.Image.Validation

/-!
# What the findings on a program say

A finding is made exactly if what it says is so: there is no halt
(`Image.noHalt_mem_findings_iff`), or a position other than the first follows an instruction that
does not let control pass on, and is no target (`Image.unreachable_mem_findings_iff`). Different
findings have different wordings (`Finding.message_inj`), so a wording says as much as the finding.
-/

namespace StackMachine

/-- Different findings are worded differently. -/
theorem Finding.message_inj {a b : Finding} : a.message = b.message ↔ a = b := by
  constructor
  · intro h
    cases a with
    | noHalt =>
      cases b with
      | noHalt => rfl
      | unreachable pc =>
        -- The two wordings differ in their first letters.
        have hlists := congrArg (fun s : String => s.toList.head?) h
        simp [message] at hlists
    | unreachable pc =>
      cases b with
      | noHalt =>
        have hlists := congrArg (fun s : String => s.toList.head?) h
        simp [message] at hlists
      | unreachable other =>
        have hnumbers := (String.append_right_inj _).mp ((String.append_left_inj _).mp h)
        rw [Nat.repr_inj.mp hnumbers]
  · rintro rfl
    rfl

theorem Finding.message_mem_iff {finding : Finding} {found : List Finding} :
    finding.message ∈ found.map message ↔ finding ∈ found := by
  constructor
  · intro h
    obtain ⟨other, hother, hmessage⟩ := List.mem_map.mp h
    rwa [← message_inj.mp hmessage]
  · exact List.mem_map_of_mem

namespace Image

variable {code : Array Instruction} {pc : Nat}

/-- Control cannot pass on to the position from the one before, and no jump leads to it. -/
def CutOff (code : Array Instruction) (pc : Nat) : Prop :=
  (∃ before ∈ code[pc - 1]?, before.fallsThrough = false) ∧
    ∀ i ∈ code.toList, ∀ target ∈ i.target?, target.toNat ≠ pc

theorem mem_targets_iff :
    pc ∈ targets code ↔ ∃ i ∈ code.toList, ∃ target ∈ i.target?, target.toNat = pc := by
  simp only [targets, Std.HashSet.mem_ofList, List.contains_iff_mem, List.mem_filterMap,
    Option.map_eq_some_iff, Option.mem_def]

/-- What is computed with the set of targets is what the code itself says. -/
theorem isCutOff_iff : isCutOff code (targets code) pc = true ↔ CutOff code pc := by
  unfold isCutOff CutOff
  cases hbefore : code[pc - 1]? with
  | none => simp
  | some before =>
    simp only [Bool.and_eq_true, Bool.not_eq_true', Std.HashSet.contains_eq_false_iff_not_mem,
      mem_targets_iff, Option.mem_def, Option.some.injEq, exists_eq_left', not_exists, not_and,
      ne_eq]

/-- The first position is never among them, even if no jump leads back to it. -/
theorem mem_unreachable_iff :
    pc ∈ unreachable code ↔ 1 ≤ pc ∧ pc < code.size ∧ CutOff code pc := by
  simp only [unreachable, List.mem_filter, List.mem_range'_1, isCutOff_iff, and_assoc]
  constructor
  · rintro ⟨hpos, hlt, hcut⟩
    exact ⟨hpos, by omega, hcut⟩
  · rintro ⟨hpos, hlt, hcut⟩
    exact ⟨hpos, by omega, hcut⟩

/-- A position is reported unreachable exactly if it is cut off and not the first. -/
theorem unreachable_mem_findings_iff :
    .unreachable pc ∈ findings code ↔ 1 ≤ pc ∧ pc < code.size ∧ CutOff code pc := by
  rw [← mem_unreachable_iff, findings, List.mem_append]
  constructor
  · rintro (h | h)
    · -- Only a missing halt is found by the first part.
      split at h
      · cases h
      · cases List.mem_singleton.mp h
    · obtain ⟨_, hother, heq⟩ := List.mem_map.mp h
      cases heq
      exact hother
  · intro h
    exact .inr (List.mem_map_of_mem h)

/-- A missing halt is reported exactly if there is none, reachable or not. -/
theorem noHalt_mem_findings_iff : .noHalt ∈ findings code ↔ .halt ∉ code := by
  rw [← Array.contains_iff_mem, findings, List.mem_append]
  constructor
  · rintro (h | h) hhalt
    · rw [if_pos hhalt] at h
      cases h
    · obtain ⟨_, -, hother⟩ := List.mem_map.mp h
      cases hother
  · intro hhalt
    rw [if_neg hhalt]
    exact .inl List.mem_cons_self

end Image

end StackMachine
