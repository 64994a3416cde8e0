import StackMachine.Command.Dispatch
import StackMachine.Proofs.Digest.Text
import StackMachine.Proofs.Json.Structure

/-!
# What is written is read back

The reader of each kind of value takes every text of what is written for it: hashes, words, bytes,
instructions, statuses, magics, assertions and images, each from the readers that it is made of.
Since both layouts write texts of their value, all of them are read back from either layout
(`roundTrips_toJson`).
-/

namespace StackMachine.Json

open Reader

variable {α : Type} {w rest : List Char}

/-! ### Scalars -/

theorem reads_natural {n bound : Nat} (hn : n < bound) (hbound : bound ≤ UInt64.size)
    (expected : String) : Reads (natural bound expected) (.natural n) n.toUInt64 := by
  intro w cs rest hw hcs hrest
  cases hcs with
  | natural =>
    have hsize : n < UInt64.size := Nat.lt_of_lt_of_le hn hbound
    have htakes := takes_number hrest hsize
    have hvalue : n.toUInt64.toNat = n := UInt64.toNat_ofNat_of_lt' hsize
    -- A number is recognized by its first digit, and then read from that digit on.
    obtain ⟨c, ds, hnumber, hc⟩ := number_eq_cons n
    rw [hnumber] at htakes ⊢
    apply (takes_peek hw (isBlank_eq_false_of_isDigit hc)).bind
    rw [if_pos (.inr hc)]
    apply htakes.bind
    dsimp only
    rw [hvalue, if_pos hn]
    exact takes_pure _ rest

theorem reads_word64 (n : UInt64) : Reads word64 (.word n) n := by
  have := reads_natural n.toNat_lt (Nat.le_refl _) "u64"
  rwa [Nat.toUInt64, UInt64.ofNat_toNat] at this

theorem reads_byte (b : UInt8) : Reads byte (.natural b.toNat) b := by
  intro w cs rest hw hcs hrest
  apply (reads_natural b.toNat_lt (by decide) "u8" hw hcs hrest).bind
  have hb : b.toNat.toUInt64.toUInt8 = b := by simp
  rw [hb]
  exact takes_pure b rest

/-- A string may come after blanks, and is read from quote to quote. -/
theorem reads_string (s : String) : Reads string (.string s) s := by
  intro w cs rest hw hcs hrest
  cases hcs with
  | string =>
    rw [quote_append]
    apply (takes_peek hw rfl).bind
    rw [if_pos rfl]
    exact (takes_skip '"' _).bind (takes_stringBody s rest)

theorem reads_digest (d : Digest) : Reads digest (.string d.toHex) d := by
  intro w cs rest hw hcs hrest
  apply (reads_string d.toHex hw hcs hrest).bind
  rw [Digest.ofHex_toHex]
  exact takes_pure d rest

/-! ### Variants -/

theorem takes_variant {ofName? : String → Option α} {name : String} {a : α}
    (h : ofName? name = some a) (known : List String) (s : List Char) :
    (variant ofName? known name).Takes s a s := by
  rw [variant, h]
  exact takes_pure a s

theorem reads_status (s : Status) : Reads status s.toJson s := by
  intro w cs rest hw hcs hrest
  cases hcs with
  | string =>
    rw [quote_append]
    apply (takes_peek hw rfl).bind
    apply (takes_skip '"' _).bind
    apply (takes_stringBody s.name rest).bind
    exact takes_variant (Status.ofName?_name s) Status.names rest

/-- An instruction is written as its name, or as an object of the name and the operand. -/
theorem reads_instruction (i : Instruction) : Reads instruction i.toJson i := by
  intro w cs rest hw hcs hrest
  have hvariant := takes_variant (Opcode.ofName?_name i.opcode) Opcode.names
  -- There is an operand just if the reader looks for one.
  have htakes := i.operand?_isSome
  have hassemble := i.assemble_opcode_operand
  rw [Instruction.toJson] at hcs
  cases hoperand : i.operand? with
  | none =>
    rw [hoperand] at hcs htakes hassemble
    cases hcs with
    | string =>
      rw [quote_append]
      apply (takes_peek hw rfl).bind
      apply (takes_skip '"' _).bind
      apply (takes_stringBody _ _).bind
      apply (hvariant rest).bind
      rw [← htakes]
      show (pure (Instruction.assemble i.opcode (none.getD 0)) : Read Instruction).Takes rest i rest
      rw [hassemble]
      exact takes_pure i rest
  | some v =>
    rw [hoperand] at hcs htakes hassemble
    cases hcs with
    | object h =>
      cases h with
      | first hw₁ hmember hend =>
        cases hmember with
        | colon hw₂ hw₃ hv =>
          cases hend with
          | close hw₄ =>
            simp only [List.cons_append, List.append_assoc, List.nil_append, quote_append]
            apply (takes_peek hw rfl).bind
            apply (takes_skip '{' _).bind
            apply (takes_expect hw₁ rfl).bind
            apply (takes_stringBody _ _).bind
            apply (hvariant _).bind
            apply (takes_expect hw₂ rfl).bind
            rw [← htakes]
            have hend := endsWord_blanks hw₄ (endsWord_cons (.inr (.inr (.inr rfl))) rest)
            apply (reads_word64 v hw₃ hv hend).bind
            apply (takes_expect hw₄ rfl).bind
            rw [← Option.getD_some (a := v) (b := 0), hassemble]
            exact takes_pure i rest

/-! ### Records -/

/-- A magic is a list of exactly four bytes, so its elements are taken one by one. -/
theorem reads_magic (m : Magic) :
    Reads magic (.list (m.toList.map fun b => .natural b.toNat)) m := by
  obtain ⟨b₀, b₁, b₂, b₃, hbytes⟩ := List.length_eq_four.mp m.length_toList
  obtain rfl : m = #v[b₀, b₁, b₂, b₃] := Vector.toList_inj.mp hbytes
  intro w cs rest hw hcs hrest
  cases hcs with
  | list h =>
    -- Each element leaves the rest of the list to the next one.
    obtain ⟨ds₀, h₀, htakes₀⟩ := takes_element_first (reads_byte b₀) h _ rest
    obtain ⟨ds₁, h₁, htakes₁⟩ := takes_element_next (reads_byte b₁) h₀ 0 _ rest
    obtain ⟨ds₂, h₂, htakes₂⟩ := takes_element_next (reads_byte b₂) h₁ 1 _ rest
    obtain ⟨ds₃, h₃, htakes₃⟩ := takes_element_next (reads_byte b₃) h₂ 2 _ rest
    apply (takes_peek hw rfl).bind
    apply (takes_skip '[' _).bind
    apply htakes₀.bind
    apply htakes₁.bind
    apply htakes₂.bind
    apply htakes₃.bind
    apply (takes_endList h₃ rest).bind
    exact takes_pure _ rest

/-- A field is read as long as it has not been read before. -/
theorem readsMember_of_field {σ : Type} {onKey : σ → String → Read σ} {before : σ} {name : String}
    {v : Value} {item : Read α} {a : α} (next : Option α → σ) (hitem : Reads item v a)
    (honKey : onKey before name = do return next (← field name none item)) :
    ReadsMember onKey before (name, v) (next (some a)) := by
  intro w w' cs rest hw hw' hcs hrest
  rw [honKey]
  have hfield : (field name none item).Takes (w ++ ':' :: (w' ++ (cs ++ rest))) (some a) rest := by
    apply (takes_expect hw rfl).bind
    exact (hitem hw' hcs hrest).bind (takes_pure _ rest)
  exact hfield.bind (takes_pure _ rest)

/-- The members come in the order in which they are written; the reader would take them in any. -/
theorem reads_image (image : Image) : Reads Json.image image.toJson image := by
  have hcollects : Collects PartialImage.member ⟨none, none⟩
      [("magic", .list (image.magic.toList.map fun b => .natural b.toNat)),
        ("code", .list (image.code.toList.map Instruction.toJson))]
      ⟨some image.magic, some image.code⟩ := by
    apply Collects.member
    · exact readsMember_of_field (fun m => ⟨m, none⟩) (reads_magic image.magic) rfl
    apply Collects.member
    · exact readsMember_of_field (fun code => ⟨some image.magic, code⟩)
        (reads_list reads_instruction image.code) rfl
    exact Collects.done _
  intro w cs rest hw hcs hrest
  cases hcs with
  | object h =>
    apply (takes_peek hw rfl).bind
    apply (takes_skip '{' _).bind
    apply (takes_members hcollects h).bind
    exact takes_pure image rest

theorem reads_assertion (a : Assertion) : Reads assertion a.toJson a := by
  -- Each member finds the fields before it read, and its own empty.
  have hcollects : Collects PartialAssertion.member ⟨none, none, none, none, none⟩
      [("before_hash", .string a.beforeHash.toHex), ("after_hash", .string a.afterHash.toHex),
        ("num_steps", .word a.numSteps), ("num_gas", .word a.numGas),
        ("logs", .list (a.logs.toList.map .word))]
      ⟨some a.beforeHash, some a.afterHash, some a.numSteps, some a.numGas, some a.logs⟩ := by
    apply Collects.member
    · exact readsMember_of_field (fun d => ⟨d, none, none, none, none⟩)
        (reads_digest a.beforeHash) rfl
    apply Collects.member
    · exact readsMember_of_field (fun d => ⟨some a.beforeHash, d, none, none, none⟩)
        (reads_digest a.afterHash) rfl
    apply Collects.member
    · exact readsMember_of_field
        (fun n => ⟨some a.beforeHash, some a.afterHash, n, none, none⟩)
        (reads_word64 a.numSteps) rfl
    apply Collects.member
    · exact readsMember_of_field
        (fun n => ⟨some a.beforeHash, some a.afterHash, some a.numSteps, n, none⟩)
        (reads_word64 a.numGas) rfl
    apply Collects.member
    · exact readsMember_of_field
        (fun ns => ⟨some a.beforeHash, some a.afterHash, some a.numSteps, some a.numGas, ns⟩)
        (reads_list reads_word64 a.logs) rfl
    exact Collects.done _
  intro w cs rest hw hcs hrest
  cases hcs with
  | object h =>
    apply (takes_peek hw rfl).bind
    apply (takes_skip '{' _).bind
    apply (takes_members hcollects h).bind
    exact takes_pure a rest

/-! ### Whole texts -/

section

variable {read : Read α} {v v' : Value} {a b : α}

/-- A reader of the value takes every text of it, also with blanks around. -/
theorem parse_of_spelt {cs w' : List Char} (h : Reads read v a) (hw : Blanks w) (hcs : Spelt v cs)
    (hw' : Blanks w') : parse read (String.ofList (w ++ (cs ++ w'))) = .ok a := by
  apply readAll_of_takes
  rw [String.toList_ofList]
  -- The end of the text ends the last word, and so do blanks before it.
  have hend : EndsWord (w' ++ []) := endsWord_blanks hw' endsWord_nil
  have hskip : (skipWhile isBlank : Read Unit).Takes (w' ++ []) () [] := by
    have := takes_skipWhile (ε := Fault) isBlank (w' ++ [])
    rwa [dropWhile_blanks hw', List.dropWhile_nil] at this
  rw [List.append_nil] at hend hskip
  apply (h hw hcs hend).bind
  exact hskip.bind (takes_pure a [])

def Value.texts (v : Value) : List String := [v.compact, v.pretty]

/-- Either layout is a text of its value, and a reader takes every text. -/
theorem parse_of_mem_texts (h : Reads read v a) {text : String} (htext : text ∈ v.texts) :
    parse read text = .ok a := by
  have hspelt {cs : List Char} (hcs : Spelt v cs) : parse read (String.ofList cs) = .ok a := by
    have := parse_of_spelt h blanks_nil hcs blanks_nil
    rwa [List.nil_append, List.append_nil] at this
  rw [Value.texts, List.mem_pair] at htext
  rcases htext with rfl | rfl
  · exact hspelt v.spelt_compactChars
  · exact hspelt (v.spelt_prettyChars 0)

/-- Two values that a reader tells apart have no text in common. -/
theorem eq_of_mem_texts (h : Reads read v a) (h' : Reads read v' b) {text : String}
    (htext : text ∈ v.texts) (htext' : text ∈ v'.texts) : a = b :=
  Except.ok.inj ((parse_of_mem_texts h htext).symm.trans (parse_of_mem_texts h' htext'))

end

/-- A way of writing values that loses nothing: a text in either layout is read back as what it was
written for, so no text is written for two values. -/
structure RoundTrips (read : Read α) (toJson : α → Value) : Prop where
  compact : ∀ a, parse read (toJson a).compact = .ok a
  pretty : ∀ a, parse read (toJson a).pretty = .ok a
  apart : ∀ a b, (∃ text, text ∈ (toJson a).texts ∧ text ∈ (toJson b).texts) ↔ a = b

theorem roundTrips_of_reads {read : Read α} {toJson : α → Value}
    (h : ∀ a, Reads read (toJson a) a) : RoundTrips read toJson where
  compact a := parse_of_mem_texts (h a) List.mem_cons_self
  pretty a := parse_of_mem_texts (h a) (List.mem_cons_of_mem _ List.mem_cons_self)
  apart a b := by
    constructor
    · rintro ⟨text, ha, hb⟩
      exact eq_of_mem_texts (h a) (h b) ha hb
    · rintro rfl
      exact ⟨_, List.mem_cons_self, List.mem_cons_self⟩

/-- **What is written for an assertion, an image, an instruction or a status is read back as the
same value, in either layout.** So no two of them have a text in common. And what a run prints as
JSON is read back as the assertion that the machine has given. -/
theorem roundTrips_toJson :
    RoundTrips assertion Assertion.toJson ∧
    RoundTrips image Image.toJson ∧
    RoundTrips instruction Instruction.toJson ∧
    RoundTrips status Status.toJson ∧
    ∀ (settings : Settings) (program : String) (options : MachineOptions)
      (maxSteps : Option UInt64),
      (do return parse assertion (← Procedure.execution settings program options maxSteps true)) =
        (do
          let machine ← Procedure.loadMachine settings program options
          let (a, _) ← Procedure.ofOperation
            (Machine.execute (maxSteps.getD settings.maxSteps)) machine
          return .ok a) := by
  have hassertion := roundTrips_of_reads reads_assertion
  refine ⟨hassertion, roundTrips_of_reads reads_image, roundTrips_of_reads reads_instruction,
    roundTrips_of_reads reads_status, ?_⟩
  intro settings program options maxSteps
  -- The procedures are the same up to the printing, which the reader undoes.
  simp only [Procedure.execution, bind_assoc, if_true, pure_bind, hassertion.pretty]

/-- The largest operand is written with all its digits. -/
example : (Instruction.push 0xffffffffffffffff).toJson.compact =
    "\x7b\"push\":18446744073709551615\x7d" := by
  rfl

end StackMachine.Json
