import StackMachine.Proofs.Bytes.SelfDelimiting
import StackMachine.Proofs.Core.Reachable
import StackMachine.Proofs.Image.Codec

/-!
# What the hash of a core commits to

A hash is taken of bytes, and these bytes determine what they are made of: those of a code its
instructions (`Core.codeBytes_inj`), and those of a state its digest of the code, program counter,
status and stack (`Core.stateBytes_inj`). So two cores with the same hash are the same core, unless
the hash function collides on the bytes of these two (`Core.hash_commits`). What the hash function
does is not looked at.
-/

namespace StackMachine

/-- The hash function tells two byte strings apart. -/
def Sha256.Separates (first second : List UInt8) : Prop := hash first = hash second → first = second

/-! ### Codes -/

namespace Core

/-- The bytes of an instruction by its operation, which decides whether an operand follows. -/
theorem instructionBytes_assemble (op : Opcode) (v : UInt64) :
    instructionBytes (.assemble op v) =
      op.byte :: if op.takesOperand then LittleEndian.encode64 v else [] := by
  cases op <;> rfl

/-- The opcode says whether an operand follows, and an operand ends after eight bytes. -/
theorem selfDelimiting_instructionBytes : SelfDelimiting instructionBytes where
  nonempty := fun _ => List.cons_ne_nil _ _
  split := by
    intro i j rest other h
    obtain ⟨op, v, rfl⟩ : ∃ op v, i = Instruction.assemble op v :=
      ⟨_, _, i.assemble_opcode_operand.symm⟩
    obtain ⟨op', v', rfl⟩ : ∃ op v, j = Instruction.assemble op v :=
      ⟨_, _, j.assemble_opcode_operand.symm⟩
    rw [instructionBytes_assemble, instructionBytes_assemble, List.cons_append,
      List.cons_append] at h
    obtain ⟨hbyte, htail⟩ := List.cons.inj h
    obtain rfl := Opcode.byte_inj hbyte
    -- The same opcode byte means the same operation, so both have an operand or neither has.
    cases htakes : op.takesOperand with
    | true =>
      rw [htakes, if_pos rfl, if_pos rfl] at htail
      obtain ⟨rfl, hrest⟩ := LittleEndian.selfDelimiting_encode64.split htail
      exact ⟨rfl, hrest⟩
    | false =>
      rw [htakes, if_neg Bool.false_ne_true, if_neg Bool.false_ne_true] at htail
      exact ⟨Instruction.assemble_of_not_takesOperand htakes v v', htail⟩

/-- No two codes have the same bytes. -/
theorem codeBytes_inj {code other : List Instruction} :
    codeBytes code = codeBytes other ↔ code = other :=
  selfDelimiting_instructionBytes.flatMap_inj

/-! ### States -/

/-- No two states have the same bytes. The depth of the stack is in them twice, once as a word and
once as the number of words that follow. -/
theorem stateBytes_inj {digest digest' : Digest} {pc pc' : UInt64} {status status' : Status}
    {stack stack' : List UInt64} :
    stateBytes digest pc status stack = stateBytes digest' pc' status' stack' ↔
      digest = digest' ∧ pc = pc' ∧ status = status' ∧ stack = stack' := by
  constructor
  · intro h
    unfold stateBytes at h
    simp only [List.append_assoc] at h
    -- Each part has a length of its own, so the parts can be split off one by one.
    obtain ⟨hdigest, h⟩ := List.append_inj h (by simp)
    obtain ⟨hpc, h⟩ := LittleEndian.selfDelimiting_encode64.split h
    obtain ⟨htag, h⟩ := List.append_inj h rfl
    obtain ⟨-, hstack⟩ := LittleEndian.selfDelimiting_encode64.split h
    exact ⟨Vector.toList_inj.mp hdigest, hpc, Status.tag_inj (List.cons.inj htag).1,
      LittleEndian.selfDelimiting_encode64.flatMap_inj.mp hstack⟩
  · rintro ⟨rfl, rfl, rfl, rfl⟩
    rfl

/-- The bytes that the hash of a core is taken of. -/
def message (c : Core) : List UInt8 := stateBytes c.codeDigest c.pc c.status c.stack.toList

theorem hash_eq (c : Core) : c.hash = Sha256.hash c.message := rfl

/-- Two cores have the same message exactly if they agree in all that it is made of. -/
theorem message_inj {c d : Core} :
    c.message = d.message ↔
      c.codeDigest = d.codeDigest ∧ c.pc = d.pc ∧ c.status = d.status ∧ c.stack = d.stack := by
  rw [message, message, stateBytes_inj, Array.toList_inj]

/-! ### Cores -/

/-- **The hash commits to the whole state.** Of two cores that come from images, whatever runs they
have made: each keeps the digest of its own code, which has not changed, and has the hash of its
message; the bytes for the two codes are the same exactly if the codes are, and the two messages
exactly if digest, program counter, status and stack are. So equal hashes mean equal states if the
hash function tells these two pairs of byte strings apart, and then all further runs end in equal
assertions. -/
theorem hash_commits {first second : Image} {c d : Core} (hc : Reachable first c)
    (hd : Reachable second d) :
    (c.code = first.code ∧ c.codeDigest = Sha256.hash (codeBytes c.code.toList) ∧
      c.hash = Sha256.hash c.message) ∧
    (d.code = second.code ∧ d.codeDigest = Sha256.hash (codeBytes d.code.toList) ∧
      d.hash = Sha256.hash d.message) ∧
    (codeBytes c.code.toList = codeBytes d.code.toList ↔ c.code = d.code) ∧
    (c.message = d.message ↔
      c.codeDigest = d.codeDigest ∧ c.pc = d.pc ∧ c.status = d.status ∧ c.stack = d.stack) ∧
    (Sha256.Separates (codeBytes c.code.toList) (codeBytes d.code.toList) →
      Sha256.Separates c.message d.message → c.hash = d.hash →
        (c.code = d.code ∧ c.pc = d.pc ∧ c.status = d.status ∧ c.stack = d.stack) ∧
        ∀ budgets, (c.runAll budgets).2 = (d.runAll budgets).2) := by
  obtain ⟨hcode, hdigest⟩ := hc.code
  obtain ⟨hcode', hdigest'⟩ := hd.code
  rw [← hcode] at hdigest
  rw [← hcode'] at hdigest'
  have hcodes : codeBytes c.code.toList = codeBytes d.code.toList ↔ c.code = d.code := by
    rw [codeBytes_inj, Array.toList_inj]
  refine ⟨⟨hcode, hdigest, c.hash_eq⟩, ⟨hcode', hdigest', d.hash_eq⟩, hcodes, message_inj, ?_⟩
  intro hseparatesCode hseparates hhash
  rw [hash_eq, hash_eq] at hhash
  obtain ⟨hsame, hpc, hstatus, hstack⟩ := message_inj.mp (hseparates hhash)
  have hcodeEq : c.code = d.code := by
    apply hcodes.mp
    apply hseparatesCode
    rw [← hdigest, ← hdigest', hsame]
  -- The two are one and the same core, so nothing they do can differ.
  have hcore : c = d := by
    cases c
    cases d
    simp only at hcodeEq hsame hpc hstatus hstack
    rw [hcodeEq, hsame, hpc, hstatus, hstack]
  exact ⟨⟨hcodeEq, hpc, hstatus, hstack⟩, fun budgets => by rw [hcore]⟩

/-- Two files that differ in their magic alone, and a run of six instructions that is made in one
piece or in two. -/
theorem hash_commits_split_run :
    let first := Image.ofCode #[.push 1, .halt]
    let second : Image := { first with magic := #v[0, 0, 0, 0] }
    let c := (((ofImage first).run 1).1.run 5).1
    let d := ((ofImage second).run 6).1
    Reachable first c ∧ Reachable second d ∧ c.hash = d.hash ∧ c.stack = d.stack ∧
      ∀ budgets, (c.runAll budgets).2 = (d.runAll budgets).2 := by
  intro first second c d
  have hc : Reachable first c := (Reachable.fresh.run 1).run 5
  have hd : Reachable second d := Reachable.fresh.run 6
  have hcore : c = d := by
    have hsteps : (6 : UInt64).toNat = (1 : UInt64).toNat + (5 : UInt64).toNat := by decide
    have hsplit := congrArg Prod.fst (runFor_add (1 : UInt64).toNat (5 : UInt64).toNat
      (ofImage first))
    rw [← hsteps] at hsplit
    exact hsplit.symm
  have hhash : c.hash = d.hash := by rw [hcore]
  have hcode : Sha256.Separates (codeBytes c.code.toList) (codeBytes d.code.toList) := by
    intro _
    rw [hcore]
  have hstate : Sha256.Separates c.message d.message := by
    intro _
    rw [hcore]
  obtain ⟨⟨-, -, -, hstack⟩, hruns⟩ := (hash_commits hc hd).2.2.2.2 hcode hstate hhash
  exact ⟨hc, hd, hhash, hstack, hruns⟩

/-! ### Agreement -/

/-- The hash function does not collide on what is hashed for two cores: their codes, and their
states. -/
structure Separated (c d : Core) : Prop where
  codes : Sha256.Separates (codeBytes c.code.toList) (codeBytes d.code.toList)
  states : Sha256.Separates c.message d.message

/-- Two cores agree in everything but the digest that is kept of the code. -/
structure Agree (c d : Core) : Prop where
  code : c.code = d.code
  pc : c.pc = d.pc
  stack : c.stack = d.stack
  status : c.status = d.status

/-- The digest adds nothing: a core that comes from an image keeps the one of its code. -/
theorem Agree.eq {first second : Image} {c d : Core} (h : c.Agree d) (hc : Reachable first c)
    (hd : Reachable second d) : c = d := by
  obtain ⟨hcode, hdigest⟩ := hc.code
  obtain ⟨hcode', hdigest'⟩ := hd.code
  have hdigests : c.codeDigest = d.codeDigest := by
    rw [hdigest, hdigest', ← hcode, ← hcode', h.code]
  obtain ⟨hcodes, hpc, hstack, hstatus⟩ := h
  cases c
  cases d
  simp only at hcodes hdigests hpc hstack hstatus
  rw [hcodes, hdigests, hpc, hstack, hstatus]

/-- Cores that come from images have the same hash exactly if they agree, as far as the hash
function tells them apart. -/
theorem hash_eq_iff {first second : Image} {c d : Core} (hc : Reachable first c)
    (hd : Reachable second d) (h : c.Separated d) : c.hash = d.hash ↔ c.Agree d := by
  constructor
  · intro hhash
    rw [hash_eq, hash_eq] at hhash
    obtain ⟨hdigests, hpc, hstatus, hstack⟩ := message_inj.mp (h.states hhash)
    -- The digests are hashes of the two codes, and the hash function separates these.
    have hcodes : c.code = d.code := by
      obtain ⟨hcode, hdigest⟩ := hc.code
      obtain ⟨hcode', hdigest'⟩ := hd.code
      rw [hdigest, hdigest', ← hcode, ← hcode'] at hdigests
      exact Array.toList_inj.mp (codeBytes_inj.mp (h.codes hdigests))
    exact ⟨hcodes, hpc, hstack, hstatus⟩
  · intro hagree
    rw [hagree.eq hc hd]

end Core

end StackMachine
