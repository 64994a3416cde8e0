import StackMachine.Image.Codec
import StackMachine.Proofs.Bytes.Reading

/-!
# Images as bytes, and back

Reading inverts writing, and nothing but what is written can be read: an image of any magic is
parsed from a byte string exactly if the string is the bytes of that image
(`Image.parse_eq_ok_iff`). The law is built along the format: one instruction
(`Image.readInstruction_eq_ok_iff`), a number of instructions (`Image.readCode_sound` and
`Image.readCode_complete`), all of it.

The count in front of the code is a 64-bit word, so the law of `parse` speaks of code that has fewer
than 2^64 instructions. Whatever fits into `Image.maxBytes` has.
-/

namespace StackMachine

open LittleEndian

/-! ### One instruction -/

namespace Opcode

theorem index_getElem_all : ∀ k : Fin all.length, (all[k].index).toNat = k := by decide

/-- An operation is found under its own index and no other. -/
theorem index_of_ofIndex? {i : UInt32} {op : Opcode} (h : ofIndex? i = some op) :
    op.index = i := by
  obtain ⟨hk, rfl⟩ := List.getElem?_eq_some_iff.mp h
  exact UInt32.toNat_inj.mp (index_getElem_all ⟨i.toNat, hk⟩)

end Opcode

namespace Instruction

/-- The bytes of an instruction, by its operation and its operand. -/
theorem bytes_assemble (op : Opcode) (v : UInt64) :
    (assemble op v).bytes =
      encode32 op.index ++ if op.takesOperand then encode64 v else [] := by
  cases op <;> rfl

theorem length_bytes_assemble (op : Opcode) (v : UInt64) :
    (assemble op v).bytes.length = if op.takesOperand then 12 else 4 := by
  cases op <;> rfl

/-- A word that comes with an operation without operand is dropped. -/
theorem assemble_of_not_takesOperand {op : Opcode} (h : op.takesOperand = false)
    (v w : UInt64) : assemble op v = assemble op w := by
  cases op <;> first | rfl | cases h

theorem four_le_length_bytes (i : Instruction) : 4 ≤ i.bytes.length := by
  rw [← i.assemble_opcode_operand, length_bytes_assemble]
  split <;> omega

/-- Every instruction takes at least four bytes. -/
theorem four_mul_length_le (code : List Instruction) :
    4 * code.length ≤ (code.flatMap bytes).length := by
  induction code with
  | nil => simp
  | cons i code ih =>
    have := i.four_le_length_bytes
    rw [List.flatMap_cons, List.length_append, List.length_cons]
    omega

end Instruction

namespace Image

variable {b : ByteArray} {pos next : Nat}

/-- What is read as an instruction is the bytes of that instruction, up to where reading goes on. -/
theorem readInstruction_sound {i : Instruction} (h : readInstruction b pos = .ok (i, next)) :
    bytesFrom b pos = i.bytes ++ bytesFrom b next ∧ next = pos + i.bytes.length := by
  unfold readInstruction at h
  split at h
  · cases h
  · next index hindex =>
    rw [read32?_eq_some_iff] at hindex
    split at h
    · cases h
    · next op hop =>
      obtain rfl := Opcode.index_of_ofIndex? hop
      split at h
      · next htakes =>
        split at h
        · cases h
        · next v hv =>
          rw [read64?_eq_some_iff] at hv
          cases h
          rw [Instruction.length_bytes_assemble, Instruction.bytes_assemble, if_pos htakes,
            if_pos htakes, List.append_assoc, hindex, hv]
          exact ⟨rfl, rfl⟩
      · next htakes =>
        cases h
        rw [Instruction.length_bytes_assemble, Instruction.bytes_assemble, if_neg htakes,
          if_neg htakes, List.append_nil]
        exact ⟨hindex, rfl⟩

/-- Bytes of an instruction are read as that instruction, whatever follows them. -/
theorem readInstruction_complete {i : Instruction} {rest : List UInt8}
    (h : bytesFrom b pos = i.bytes ++ rest) :
    readInstruction b pos = .ok (i, pos + i.bytes.length) := by
  -- Every instruction is an operation put together with a word, so two shapes of bytes are left.
  obtain ⟨op, v, rfl⟩ : ∃ op v, i = Instruction.assemble op v :=
    ⟨_, _, i.assemble_opcode_operand.symm⟩
  rw [Instruction.length_bytes_assemble]
  rw [Instruction.bytes_assemble, List.append_assoc] at h
  have hoperand := bytesFrom_add_length h
  rw [length_encode32] at hoperand
  have hindex : read32? b pos = some op.index := read32?_eq_some_iff.mpr (by rw [hoperand, h])
  unfold readInstruction
  simp only [hindex, Opcode.ofIndex?_index]
  cases htakes : op.takesOperand with
  | true =>
    rw [htakes, if_pos rfl] at hoperand
    have hrest := bytesFrom_add_length hoperand
    rw [length_encode64] at hrest
    have hv : read64? b (pos + 4) = some v := read64?_eq_some_iff.mpr (by rw [hrest, hoperand])
    simp only [hv]
    rfl
  | false =>
    -- An opcode without operand forgets the word it is put together with.
    rw [Instruction.assemble_of_not_takesOperand htakes v 0]
    rfl

/-- An instruction is read exactly where its bytes stand, and no further than they go. -/
theorem readInstruction_eq_ok_iff {i : Instruction} :
    readInstruction b pos = .ok (i, next) ↔
      bytesFrom b pos = i.bytes ++ bytesFrom b next ∧ next = pos + i.bytes.length := by
  constructor
  · exact readInstruction_sound
  · rintro ⟨h, rfl⟩
    exact readInstruction_complete h

/-! ### The code -/

/-- Code that is read adds as many instructions as the count says to those before, and their bytes
are the ones passed over. -/
theorem readCode_sound {n : Nat} {before code : Array Instruction}
    (h : readCode b n pos before = .ok (code, next)) :
    ∃ is : List Instruction, is.length = n ∧ code = before ++ is ∧
      bytesFrom b pos = is.flatMap Instruction.bytes ++ bytesFrom b next := by
  -- The instructions read before are general, since the loop adds to them.
  induction n generalizing pos before with
  | zero =>
    cases h
    exact ⟨[], rfl, by simp, rfl⟩
  | succ n ih =>
    unfold readCode at h
    split at h
    · cases h
    · next i mid hi =>
      obtain ⟨hbytes, -⟩ := readInstruction_sound hi
      obtain ⟨is, hlength, hcode, hrest⟩ := ih h
      refine ⟨i :: is, by rw [List.length_cons, hlength], ?_, ?_⟩
      · rw [hcode]
        simp
      · rw [hbytes, hrest, List.flatMap_cons, List.append_assoc]

/-- Reading goes through instructions whose bytes stand there, and then on from where they end. -/
theorem readCode_through (before : Array Instruction) {is : List Instruction} {rest : List UInt8}
    (h : bytesFrom b pos = is.flatMap Instruction.bytes ++ rest) (n : Nat) :
    readCode b (is.length + n) pos before =
      readCode b n (pos + (is.flatMap Instruction.bytes).length) (before ++ is) := by
  -- The position and what was read before move on with each instruction, so both are general.
  induction is generalizing pos before with
  | nil => simp
  | cons i is ih =>
    rw [List.flatMap_cons, List.append_assoc] at h
    rw [List.length_cons, Nat.add_right_comm, readCode, readInstruction_complete h]
    have hrest := ih (before.push i) (bytesFrom_add_length h)
    simp only [hrest, List.flatMap_cons, List.length_append, Nat.add_assoc]
    simp

theorem readCode_complete (before : Array Instruction) {is : List Instruction}
    {rest : List UInt8} (h : bytesFrom b pos = is.flatMap Instruction.bytes ++ rest) :
    readCode b is.length pos before =
      .ok (before ++ is, pos + (is.flatMap Instruction.bytes).length) :=
  readCode_through before h 0

/-! ### The whole image -/

/-- Bytes that are parsed are the bytes of the image found, which is shorter than a count can say.
-/
theorem parse_sound {image : Image} (h : parse b = .ok image) :
    image.code.size < UInt64.size ∧ b.data.toList = image.bytes := by
  unfold parse at h
  split at h
  · next hfour =>
    split at h
    · cases h
    · next count hcount =>
      rw [read64?_eq_some_iff] at hcount
      split at h
      · cases h
      · next code last hcode =>
        obtain ⟨is, hlength, rfl, hbytes⟩ := readCode_sound hcode
        split at h
        · cases h
        · next hlast =>
          -- Nothing trails the last instruction, so the bytes read so far are all there are.
          have hend : bytesFrom b last = [] := bytesFrom_eq_nil_iff.mpr (by omega)
          cases h
          have hsize : ((#[] : Array Instruction) ++ is).size = count.toNat := by simp [hlength]
          have hword : count.toNat.toUInt64 = count := by simp
          refine ⟨hsize ▸ count.toNat_lt, ?_⟩
          rw [Image.bytes, hsize, hword, ← bytesFrom_zero,
            bytesFrom_eq_four (by omega) (by omega) (by omega) (by omega), hcount, hbytes, hend]
          simp
  · cases h

/-- Behind magic and count, the code decides. -/
theorem parse_of_header {magic : Magic} {count : UInt64} {rest : List UInt8}
    (h : b.data.toList = magic.toList ++ encode64 count ++ rest) :
    bytesFrom b 12 = rest ∧
    parse b =
      match readCode b count.toNat 12 #[] with
      | .error e => .error e
      | .ok (code, last) => if last < b.size then .error .trailingBytes else .ok ⟨magic, code⟩ := by
  rw [← bytesFrom_zero, List.append_assoc] at h
  have hfour : 4 ≤ b.size := by
    have := congrArg List.length h
    rw [length_bytesFrom, List.length_append, Vector.length_toList] at this
    omega
  -- Four bytes of magic, eight of count, and the code from position 12.
  have hmagic : #v[b[0], b[1], b[2], b[3]] = magic := by
    rw [bytesFrom_eq_four (by omega) (by omega) (by omega) (by omega)] at h
    exact Vector.toList_inj.mp (List.append_inj_left h (by simp))
  have hafter := bytesFrom_add_length h
  rw [Vector.length_toList, Nat.zero_add] at hafter
  have hcode := bytesFrom_add_length hafter
  rw [length_encode64] at hcode
  have hcount : read64? b 4 = some count := read64?_eq_some_iff.mpr (by rw [hcode, hafter])
  refine ⟨hcode, ?_⟩
  rw [parse, dif_pos hfour, hcount]
  subst hmagic
  rfl

/-- The count is written modulo 2^64, and read back as the number it was if that is a word. -/
theorem toNat_count {image : Image} (hsize : image.code.size < UInt64.size) :
    image.code.size.toUInt64.toNat = image.code.toList.length := by
  rw [Array.length_toList]
  exact UInt64.toNat_ofNat_of_lt' hsize

theorem parse_complete {image : Image} (hsize : image.code.size < UInt64.size)
    (h : b.data.toList = image.bytes) : parse b = .ok image := by
  obtain ⟨hcode, hparse⟩ := parse_of_header h
  have hread := readCode_complete #[] (hcode.trans (List.append_nil _).symm)
  have hend : ¬ 12 + (image.code.toList.flatMap Instruction.bytes).length < b.size := by
    have := congrArg List.length hcode
    rw [length_bytesFrom] at this
    omega
  rw [hparse, toNat_count hsize]
  simp only [hread, if_neg hend]
  simp

/-- An image of any magic is read from its bytes and from nothing else. -/
theorem parse_eq_ok_iff {image : Image} :
    parse b = .ok image ↔ image.code.size < UInt64.size ∧ b.data.toList = image.bytes :=
  ⟨parse_sound, fun ⟨hsize, h⟩ => parse_complete hsize h⟩

/-! ### Program images -/

/-- To say what is written for an image is to say its bytes. -/
theorem encode_eq_iff {image : Image} : image.encode = b ↔ b.data.toList = image.bytes := by
  constructor
  · rintro rfl
    exact List.toList_data_toByteArray
  · intro h
    apply ByteArray.ext
    rw [encode, List.data_toByteArray, ← h, Array.toArray_toList]

/-- The magic is asked for last. -/
theorem decode_eq_ok_iff {image : Image} :
    decode b = .ok image ↔ image.magic = Magic.program ∧ parse b = .ok image := by
  unfold decode
  cases parse b with
  | error e => simp
  | ok found =>
    by_cases hmagic : found.magic = Magic.program
    · simp only [if_pos hmagic, Except.ok.injEq]
      exact ⟨fun h => ⟨h ▸ hmagic, h⟩, And.right⟩
    · simp only [if_neg hmagic, Except.ok.injEq, reduceCtorEq, false_iff]
      rintro ⟨h, rfl⟩
      exact hmagic h

/-- Bytes that fit into a file hold fewer instructions than a count can say. -/
theorem code_size_lt_of_length_le {image : Image} (h : image.bytes.length ≤ maxBytes) :
    image.code.size < UInt64.size := by
  have hcode := Instruction.four_mul_length_le image.code.toList
  rw [Image.bytes, List.length_append] at h
  simp only [Array.length_toList] at hcode
  simp only [maxBytes] at h
  rw [UInt64.size]
  omega

theorem code_size_lt {image : Image} (h : b.data.toList = image.bytes) (hb : b.size ≤ maxBytes) :
    image.code.size < UInt64.size := by
  apply code_size_lt_of_length_le
  rw [← h, Array.length_toList, ByteArray.size_data]
  exact hb

/-- **Reading inverts writing, both ways.** A byte string that is no longer than a file may be is
decoded to an image exactly if the image has the magic of a program and the string is what is
written for it. So every program that fits is read back as it was, and no program has a second
spelling. -/
theorem decode_eq_ok_iff_encode_eq (b : ByteArray) (image : Image) (hb : b.size ≤ maxBytes) :
    decode b = .ok image ↔ image.magic = Magic.program ∧ image.encode = b := by
  rw [decode_eq_ok_iff, parse_eq_ok_iff, encode_eq_iff]
  constructor
  · rintro ⟨hmagic, -, hbytes⟩
    exact ⟨hmagic, hbytes⟩
  · rintro ⟨hmagic, hbytes⟩
    exact ⟨hmagic, code_size_lt hbytes hb, hbytes⟩

/-- A program with operands and without: it fits, and it is read back. -/
theorem decode_encode_push_halt :
    let image := ofCode #[.push 0x0102030405060708, .jumpIf 0, .halt]
    image.encode.size ≤ maxBytes ∧ decode image.encode = .ok image := by
  have hsize : (ofCode #[.push 0x0102030405060708, .jumpIf 0, .halt]).encode.size ≤ maxBytes := by
    rw [encode, List.size_toByteArray]
    decide
  exact ⟨hsize, (decode_eq_ok_iff_encode_eq _ _ hsize).mpr ⟨rfl, rfl⟩⟩

end Image

end StackMachine
