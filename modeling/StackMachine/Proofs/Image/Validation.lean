import StackMachine.Image.Validation

/-!
# What a check of a program finds out

A check accepts a program exactly if it has code and no jump leaves it
(`Image.validate_eq_ok_iff`). Otherwise it says which of the two is wrong, and of the jumps that
leave the code it names the first one (`Image.validate_eq_invalidJump_iff`).
-/

namespace StackMachine.Image

/-- The instruction at a position is a jump that leaves the code. -/
def Escapes (code : List Instruction) (pc : Nat) (target : UInt64) : Prop :=
  code[pc]?.bind Instruction.target? = some target ∧ code.length ≤ target.toNat

/-- Every jump, taken or not, stays inside the code. -/
def StaysInside (code : Array Instruction) : Prop :=
  ∀ i ∈ code.toList, ∀ target ∈ i.target?, target.toNat < code.size

/-- The jump is the first one to leave the code. -/
def FirstEscape (code : Array Instruction) (pc : Nat) (target : UInt64) : Prop :=
  Escapes code.toList pc target ∧ ∀ earlier < pc, ∀ other, ¬ Escapes code.toList earlier other

/-! ### The search for a jump that leaves the code -/

section Search

variable {len pc at' : Nat} {target : UInt64} {i : Instruction} {rest code : List Instruction}

/-- A search passes over an instruction that stays inside. -/
theorem firstEscape_cons_of_inside (h : ∀ t ∈ i.target?, t.toNat < len) :
    firstEscape len pc (i :: rest) = firstEscape len (pc + 1) rest := by
  rw [firstEscape]
  split
  · next t ht => rw [if_neg (Nat.not_le.mpr (h t ht))]
  · rfl

/-- A search ends at an instruction that does not. -/
theorem firstEscape_cons_of_outside (hi : i.target? = some target) (h : len ≤ target.toNat) :
    firstEscape len pc (i :: rest) = some (pc, target) := by
  rw [firstEscape]
  simp only [hi, if_pos h]

/-- An instruction either stays inside a program of a given length or jumps out of it. -/
theorem inside_or_outside (len : Nat) (i : Instruction) :
    (∀ t ∈ i.target?, t.toNat < len) ∨ ∃ t, i.target? = some t ∧ len ≤ t.toNat := by
  cases i.target? with
  | none => exact .inl fun t ht => nomatch ht
  | some t =>
    rcases Nat.lt_or_ge t.toNat len with h | h
    · refine .inl fun u hu => ?_
      rwa [← Option.some.inj hu]
    · exact .inr ⟨t, rfl, h⟩

/-- A search that comes to the end has met no jump that leaves. -/
theorem firstEscape_eq_none_iff :
    firstEscape len pc code = none ↔ ∀ i ∈ code, ∀ t ∈ i.target?, t.toNat < len := by
  induction code generalizing pc with
  | nil => simp [firstEscape]
  | cons i rest ih =>
    rw [List.forall_mem_cons]
    -- The search goes on past an instruction that stays inside, and ends at any other.
    rcases inside_or_outside len i with hi | ⟨t, hi, ht⟩
    · rw [firstEscape_cons_of_inside hi, ih]
      exact ⟨fun h => ⟨hi, h⟩, And.right⟩
    · rw [firstEscape_cons_of_outside hi ht]
      constructor
      · intro h
        cases h
      · intro h
        exact absurd (h.1 t hi) (Nat.not_lt.mpr ht)

instance (code : Array Instruction) : Decidable (StaysInside code) :=
  decidable_of_iff (firstEscape code.size 0 code.toList = none) firstEscape_eq_none_iff

/-- The search gives the first position that it meets, counted from where it begins. -/
theorem firstEscape_eq_some_iff :
    firstEscape len pc code = some (at', target) ↔
      ∃ k, at' = pc + k ∧ code[k]?.bind Instruction.target? = some target ∧
        len ≤ target.toNat ∧
        ∀ j < k, ∀ t ∈ code[j]?.bind Instruction.target?, t.toNat < len := by
  induction code generalizing pc with
  | nil => simp [firstEscape]
  | cons i rest ih =>
    -- Positions count from the instruction at hand, so behind it they are one less.
    rcases inside_or_outside len i with hi | ⟨t, hi, ht⟩
    · rw [firstEscape_cons_of_inside hi, ih]
      constructor
      · rintro ⟨k, rfl, hk, hout, hearlier⟩
        refine ⟨k + 1, by omega, hk, hout, ?_⟩
        intro j hj
        match j with
        | 0 => exact hi
        | j + 1 => exact hearlier j (by omega)
      · rintro ⟨k, rfl, hk, hout, hearlier⟩
        match k with
        | 0 => exact absurd (hi target hk) (Nat.not_lt.mpr hout)
        | k + 1 =>
          refine ⟨k, by omega, hk, hout, ?_⟩
          intro j hj
          exact hearlier (j + 1) (by omega)
    · rw [firstEscape_cons_of_outside hi ht]
      constructor
      · intro h
        cases h
        exact ⟨0, rfl, hi, ht, fun j hj => absurd hj (Nat.not_lt_zero j)⟩
      · rintro ⟨k, rfl, hk, hout, hearlier⟩
        match k with
        | 0 =>
          cases hi.symm.trans hk
          rfl
        | k + 1 => exact absurd (hearlier 0 (Nat.succ_pos k) t hi) (Nat.not_lt.mpr ht)

end Search

/-! ### The check -/

variable {image : Image} {found : List Finding} {pc : Nat} {target : UInt64}

/-- From the start of the code, the search finds the first jump of all that leave it. -/
theorem firstEscape_code_eq_some_iff {code : Array Instruction} :
    firstEscape code.size 0 code.toList = some (pc, target) ↔ FirstEscape code pc target := by
  rw [firstEscape_eq_some_iff]
  constructor
  · rintro ⟨k, rfl, hk, hout, hearlier⟩
    rw [Nat.zero_add]
    refine ⟨⟨hk, hout⟩, ?_⟩
    rintro j hj other ⟨hother, hlength⟩
    exact absurd (hearlier j hj other hother) (Nat.not_lt.mpr hlength)
  · rintro ⟨⟨hk, hout⟩, hearlier⟩
    refine ⟨pc, (Nat.zero_add pc).symm, hk, hout, ?_⟩
    intro j hj t ht
    exact Nat.not_le.mp fun hlength => hearlier j hj t ⟨ht, hlength⟩

/-- A check accepts exactly the programs that have code and whose jumps stay inside. -/
theorem validate_eq_ok_iff :
    image.validate = .ok found ↔
      image.code ≠ #[] ∧ StaysInside image.code ∧ found = findings image.code := by
  unfold validate
  by_cases hempty : image.code = #[]
  · simp [hempty]
  · rw [if_neg (by simpa using hempty)]
    cases hescape : firstEscape image.code.size 0 image.code.toList with
    | none =>
      have hinside : StaysInside image.code := firstEscape_eq_none_iff.mp hescape
      exact ⟨fun h => ⟨hempty, hinside, (Except.ok.inj h).symm⟩, fun h => h.2.2 ▸ rfl⟩
    | some jump =>
      constructor
      · intro h
        cases h
      · rintro ⟨-, hinside, -⟩
        rw [firstEscape_eq_none_iff.mpr hinside] at hescape
        cases hescape

/-- A program without code is refused before its jumps are looked at. -/
theorem validate_eq_emptyProgram_iff :
    image.validate = .error .emptyProgram ↔ image.code = #[] := by
  unfold validate
  by_cases hempty : image.code = #[]
  · simp [hempty]
  · rw [if_neg (by simpa using hempty)]
    cases firstEscape image.code.size 0 image.code.toList <;> simp [hempty]

/-- A check names the first jump that leaves the code. -/
theorem validate_eq_invalidJump_iff :
    image.validate = .error (.invalidJump pc target) ↔ FirstEscape image.code pc target := by
  rw [← firstEscape_code_eq_some_iff]
  unfold validate
  by_cases hempty : image.code = #[]
  · simp [hempty, firstEscape]
  · rw [if_neg (by simpa using hempty)]
    cases firstEscape image.code.size 0 image.code.toList with
    | none => simp
    | some jump => simp [Prod.ext_iff]

/-- Nothing else can be wrong with a program. -/
theorem validate_eq_error {cause : Failure} (h : image.validate = .error cause) :
    cause = .emptyProgram ∨ ∃ pc target, cause = .invalidJump pc target := by
  unfold validate at h
  split at h
  · cases h
    exact .inl rfl
  · split at h
    · cases h
      exact .inr ⟨_, _, rfl⟩
    · cases h

end StackMachine.Image
