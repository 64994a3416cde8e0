import StackMachine.Proofs.Image.Codec

/-!
# What is wrong with bytes that are no image

Reading goes through instructions as long as their bytes stand there (`Image.readCode_through`), so
a byte string is answered by what comes after the instructions that it holds: the bytes break off
inside an instruction, or they go on with an index that no operation has, or there are more of them
than the count says. The magic is asked for when all this has been looked at
(`Image.malformed_rejected`).

How long reading takes is up to the bytes, not to the count in front of them. `Image.scan` shows the
steps of the loop, and each of them takes at least four bytes (`Image.four_mul_length_scan_le`).
-/

namespace StackMachine

open LittleEndian

namespace Opcode

theorem ofIndex?_eq_none {index : UInt32} (h : 13 ≤ index.toNat) : ofIndex? index = none :=
  List.getElem?_eq_none_iff.mpr h

theorem le_of_ofIndex?_eq_none {index : UInt32} (h : ofIndex? index = none) : 13 ≤ index.toNat :=
  List.getElem?_eq_none_iff.mp h

end Opcode

namespace Image

variable {b : ByteArray} {pos : Nat} {rest : List UInt8}

/-! ### Bytes that break off -/

/-- Bytes that break off behind a piece begin with the piece. -/
theorem exists_eq_append {bytes piece missing after : List UInt8}
    (h : bytes ++ missing = piece ++ after) (hlength : piece.length ≤ bytes.length) :
    ∃ more, bytes = piece ++ more ∧ more ++ missing = after := by
  have hbytes : bytes <+: piece ++ after := ⟨missing, h⟩
  obtain ⟨more, rfl⟩ :=
    List.prefix_of_prefix_length_le (List.prefix_append piece after) hbytes hlength
  rw [List.append_assoc] at h
  exact ⟨more, rfl, List.append_cancel_left h⟩

/-- Bytes that break off before the end of what is written for some instructions break off inside
one of them. -/
theorem exists_cut {bytes : List UInt8} {is : List Instruction} (hrest : rest ≠ [])
    (h : bytes ++ rest = is.flatMap Instruction.bytes) :
    ∃ (whole : List Instruction) (i : Instruction) (more : List Instruction)
      (cut missing : List UInt8), is = whole ++ i :: more ∧
        bytes = whole.flatMap Instruction.bytes ++ cut ∧ cut ++ missing = i.bytes ∧
        missing ≠ [] := by
  induction is generalizing bytes with
  | nil => exact absurd (List.append_eq_nil_iff.mp h).2 hrest
  | cons i is ih =>
    rw [List.flatMap_cons] at h
    by_cases hwhole : i.bytes <+: bytes
    · -- The first instruction is all there, so another one is cut.
      obtain ⟨bytes, rfl⟩ := hwhole
      rw [List.append_assoc] at h
      obtain ⟨whole, j, more, cut, missing, rfl, rfl, hcut⟩ := ih (List.append_cancel_left h)
      exact ⟨i :: whole, j, more, cut, missing, rfl, by simp, hcut⟩
    · rcases List.append_eq_append_iff.mp h with ⟨missing, hi, -⟩ | ⟨cut, hbytes, -⟩
      · -- The cut is in the first instruction itself.
        refine ⟨[], i, is, bytes, missing, rfl, rfl, hi.symm, ?_⟩
        rintro rfl
        exact hwhole ⟨[], by rw [hi, List.append_nil, List.append_nil]⟩
      · exact absurd ⟨cut, hbytes.symm⟩ hwhole

/-- An instruction whose bytes break off is not read. -/
theorem readInstruction_of_cut {i : Instruction} {missing : List UInt8}
    (h : bytesFrom b pos ++ missing = i.bytes) (hmissing : missing ≠ []) :
    readInstruction b pos = .error .unexpectedEnd := by
  obtain ⟨op, v, rfl⟩ : ∃ op v, i = Instruction.assemble op v :=
    ⟨_, _, i.assemble_opcode_operand.symm⟩
  have hlength := congrArg List.length h
  have hpos := List.length_pos_iff.mpr hmissing
  rw [List.length_append, length_bytesFrom, Instruction.length_bytes_assemble] at hlength
  rw [Instruction.bytes_assemble] at h
  by_cases hfour : b.size < pos + 4
  · have hnone : read32? b pos = none := read32?_eq_none_iff.mpr hfour
    simp only [readInstruction, hnone]
  · -- With the index in place, it is the operand that is cut.
    obtain ⟨operand, hbytes, -⟩ := exists_eq_append h (by
      rw [length_bytesFrom, length_encode32]
      omega)
    have hafter := bytesFrom_add_length hbytes
    rw [length_encode32] at hafter
    have hindex : read32? b pos = some op.index :=
      read32?_eq_some_iff.mpr (by rw [hafter, hbytes])
    cases htakes : op.takesOperand with
    | true =>
      rw [htakes, if_pos rfl] at hlength
      have hnone : read64? b (pos + 4) = none := read64?_eq_none_iff.mpr (by omega)
      simp only [readInstruction, hindex, Opcode.ofIndex?_index, htakes, if_true, hnone]
    | false =>
      -- Without operand, the index would be all of it, and nothing would be missing.
      rw [htakes, if_neg Bool.false_ne_true] at hlength
      omega

/-- A header that breaks off. -/
theorem parse_of_size_lt (h : b.size < 12) : parse b = .error .unexpectedEnd := by
  unfold parse
  split
  · have hnone : read64? b 4 = none := read64?_eq_none_iff.mpr (by omega)
    simp only [hnone]
  · rfl

/-- Bytes that break off before the end of an image. -/
theorem parse_of_proper_prefix {image : Image} (hsize : image.code.size < UInt64.size)
    (hrest : rest ≠ []) (h : b.data.toList ++ rest = image.bytes) :
    parse b = .error .unexpectedEnd := by
  by_cases hheader : b.size < 12
  · exact parse_of_size_lt hheader
  · obtain ⟨code, hbytes, hcode⟩ := exists_eq_append h (by
      rw [List.length_append, Vector.length_toList, length_encode64, Array.length_toList,
        ByteArray.size_data]
      omega)
    obtain ⟨hfrom, hparse⟩ := parse_of_header hbytes
    -- The loop passes through the whole instructions and stops at the one that is cut.
    obtain ⟨whole, i, more, cut, missing, his, rfl, hcut, hmissing⟩ := exists_cut hrest hcode
    have hnat : image.code.size.toUInt64.toNat = whole.length + (more.length + 1) := by
      rw [toNat_count hsize, his, List.length_append, List.length_cons]
    have hstop := bytesFrom_add_length hfrom
    rw [← hstop] at hcut
    rw [hparse, hnat, readCode_through _ hfrom, readCode, readInstruction_of_cut hcut hmissing]

/-! ### Bytes that go on -/

/-- Bytes behind the end of an image. -/
theorem parse_of_trailing {image : Image} (hsize : image.code.size < UInt64.size)
    (hrest : rest ≠ []) (h : b.data.toList = image.bytes ++ rest) :
    parse b = .error .trailingBytes := by
  rw [Image.bytes, List.append_assoc] at h
  obtain ⟨hfrom, hparse⟩ := parse_of_header h
  have hmore : 12 + (image.code.toList.flatMap Instruction.bytes).length < b.size := by
    have hlength := congrArg List.length hfrom
    have hpos := List.length_pos_iff.mpr hrest
    rw [length_bytesFrom, List.length_append] at hlength
    omega
  rw [hparse, toNat_count hsize, readCode_complete #[] hfrom]
  exact if_pos hmore

/-- Whatever follows an index that no operation has, it is the index that is reported. -/
theorem readInstruction_of_unknown {index : UInt32} (hindex : 13 ≤ index.toNat)
    (h : bytesFrom b pos = encode32 index ++ rest) :
    readInstruction b pos = .error (.unknownOpcode index) := by
  have hafter := bytesFrom_add_length h
  rw [length_encode32] at hafter
  have hread : read32? b pos = some index := read32?_eq_some_iff.mpr (by rw [hafter, h])
  simp only [readInstruction, hread, Opcode.ofIndex?_eq_none hindex]

/-- An index that no operation has, in place of an instruction that is still expected. -/
theorem parse_of_unknown {magic : Magic} {count : UInt64} {is : List Instruction} {index : UInt32}
    (hcount : is.length < count.toNat) (hindex : 13 ≤ index.toNat)
    (h : b.data.toList = magic.toList ++ encode64 count ++
      (is.flatMap Instruction.bytes ++ (encode32 index ++ rest))) :
    parse b = .error (.unknownOpcode index) := by
  obtain ⟨hfrom, hparse⟩ := parse_of_header h
  -- The count asks for at least one more instruction than there are.
  obtain ⟨n, hn⟩ := Nat.exists_eq_add_of_lt hcount
  have hstop := bytesFrom_add_length hfrom
  rw [hparse, hn, Nat.add_assoc, readCode_through _ hfrom, readCode,
    readInstruction_of_unknown hindex hstop]

/-! ### The steps of the loop -/

/-- What reading a number of instructions from a position on comes to: those that are read, one
after the other, and how it ends, with the position behind them or with what is wrong there. -/
def scan (b : ByteArray) : Nat → Nat → List Instruction × Except CodecError Nat
  | 0, pos => ([], .ok pos)
  | n + 1, pos =>
    match readInstruction b pos with
    | .error e => ([], .error e)
    | .ok (i, next) => (i :: (scan b n next).1, (scan b n next).2)

/-- Reading takes just these steps. -/
theorem readCode_eq_scan (b : ByteArray) (n pos : Nat) (before : Array Instruction) :
    readCode b n pos before =
      (scan b n pos).2.map fun last => (before ++ (scan b n pos).1, last) := by
  induction n generalizing pos before with
  | zero => simp [readCode, scan, Except.map]
  | succ n ih =>
    cases hread : readInstruction b pos with
    | error e => simp [readCode, scan, hread, Except.map]
    | ok result =>
      obtain ⟨i, next⟩ := result
      simp [readCode, scan, hread, ih]

/-- Each step takes at least four bytes, however many are to be made. -/
theorem four_mul_length_scan_le (b : ByteArray) (n pos : Nat) :
    4 * (scan b n pos).1.length ≤ b.size - pos := by
  -- A step that is made takes bytes, so the rest of them bounds the steps to come.
  induction n generalizing pos with
  | zero => exact Nat.zero_le _
  | succ n ih =>
    cases hread : readInstruction b pos with
    | error e =>
      simp only [scan, hread]
      exact Nat.zero_le _
    | ok result =>
      obtain ⟨i, next⟩ := result
      obtain ⟨hbytes, rfl⟩ := readInstruction_eq_ok_iff.mp hread
      have hfour := i.four_le_length_bytes
      have hlength := congrArg List.length hbytes
      rw [List.length_append, length_bytesFrom, length_bytesFrom] at hlength
      have hrest := ih (pos + i.bytes.length)
      simp only [scan, hread, List.length_cons]
      omega

/-! ### All answers -/

/-- The answers to a byte string. -/
inductive Answer : Except Failure Image → Prop
  | ok {image : Image} (h : image.magic = Magic.program) : Answer (.ok image)
  | badMagic {magic : Magic} (h : magic ≠ Magic.program) : Answer (.error (.badMagic magic))
  | unexpectedEnd : Answer (.error (.codec .unexpectedEnd))
  | trailingBytes : Answer (.error (.codec .trailingBytes))
  | unknownOpcode {index : UInt32} (h : 13 ≤ index.toNat) :
    Answer (.error (.codec (.unknownOpcode index)))

/-- The errors that reading gives. An index is unknown only if no operation has it. -/
def Given : CodecError → Prop
  | .unexpectedEnd | .trailingBytes => True
  | .unknownOpcode index => 13 ≤ index.toNat
  | .other _ => False

theorem given_of_readInstruction {e : CodecError} (h : readInstruction b pos = .error e) :
    Given e := by
  unfold readInstruction at h
  split at h
  · cases h
    trivial
  · split at h
    · next hnone =>
      cases h
      exact Opcode.le_of_ofIndex?_eq_none hnone
    · split at h
      · split at h
        · cases h
          trivial
        · cases h
      · cases h

theorem given_of_readCode {n : Nat} {before : Array Instruction} {e : CodecError}
    (h : readCode b n pos before = .error e) : Given e := by
  induction n generalizing pos before with
  | zero => cases h
  | succ n ih =>
    rw [readCode] at h
    split at h
    · next hread =>
      cases h
      exact given_of_readInstruction hread
    · exact ih h

/-- Parsing makes no errors of its own but for bytes that are missing or too many. -/
theorem given_of_parse {e : CodecError} (h : parse b = .error e) : Given e := by
  unfold parse at h
  split at h
  · split at h
    · cases h
      trivial
    · split at h
      · next hcode =>
        cases h
        exact given_of_readCode hcode
      · split at h
        · cases h
          trivial
        · cases h
  · cases h
    trivial

/-- There are no other answers. -/
theorem answer_decode (b : ByteArray) : Answer (decode b) := by
  unfold decode
  cases hparse : parse b with
  | error e =>
    have hgiven := given_of_parse hparse
    cases e with
    | unexpectedEnd => exact .unexpectedEnd
    | trailingBytes => exact .trailingBytes
    | unknownOpcode index => exact .unknownOpcode hgiven
    | other text => exact hgiven.elim
  | ok image =>
    by_cases hmagic : image.magic = Magic.program
    · simp only [if_pos hmagic]
      exact .ok hmagic
    · simp only [if_neg hmagic]
      exact .badMagic hmagic

/-- Whatever is wrong with the bytes, it is reported whichever the magic is. -/
theorem decode_of_parse_eq_error {e : CodecError} (h : parse b = .error e) :
    decode b = .error (.codec e) := by
  rw [decode, h]

theorem toList_data_encode (image : Image) : image.encode.data.toList = image.bytes :=
  encode_eq_iff.mp rfl

theorem toList_data_ne_nil {bytes : ByteArray} (h : bytes.size ≠ 0) : bytes.data.toList ≠ [] := by
  intro hnil
  apply h
  rw [← ByteArray.size_data, ← Array.length_toList, hnil]
  rfl

/-- **Malformed bytes are rejected for what is wrong with them, after as many steps as they have
room for.** What is written for an image, of any magic, and breaks off anywhere ends unexpectedly;
if anything follows it, there are trailing bytes; and if it is all there, the magic is reported
unless it is that of a program. An index that no operation has is named, wherever an instruction is
still expected, whatever comes behind it and whichever the magic. There are no other errors, and
reading decodes at most one instruction for every four bytes, however large the count.

The count in front of the code is a word, so the first law speaks of code of fewer than 2^64
instructions. -/
theorem malformed_rejected :
    (∀ (image : Image) (b rest : ByteArray), image.code.size < UInt64.size → rest.size ≠ 0 →
      b ++ rest = image.encode → decode b = .error (.codec .unexpectedEnd)) ∧
    (∀ (image : Image) (rest : ByteArray), (image.encode ++ rest).size ≤ maxBytes →
      rest.size ≠ 0 → decode (image.encode ++ rest) = .error (.codec .trailingBytes)) ∧
    (∀ image : Image, image.encode.size ≤ maxBytes → image.magic ≠ Magic.program →
      decode image.encode = .error (.badMagic image.magic)) ∧
    (∀ (magic : Magic) (count : UInt64) (is : List Instruction) (index : UInt32)
      (rest : List UInt8), is.length < count.toNat → 13 ≤ index.toNat →
      decode (magic.toList ++ encode64 count ++
          (is.flatMap Instruction.bytes ++ (encode32 index ++ rest))).toByteArray =
        .error (.codec (.unknownOpcode index))) ∧
    (∀ b : ByteArray, Answer (decode b) ∧
      ∀ (count : Nat) (before : Array Instruction),
        readCode b count 12 before =
          (scan b count 12).2.map (fun last => (before ++ (scan b count 12).1, last)) ∧
        (scan b count 12).1.length ≤ b.size / 4) ∧
    CodecError.message .unexpectedEnd = "io error: unexpected end of file" ∧
    ∀ index, CodecError.message (.unknownOpcode index) =
      "invalid value: integer `" ++ toString index.toNat ++
        "`, expected variant index 0 <= i < 13" := by
  refine ⟨?_, ?_, ?_, ?_, ?_, rfl, ?_⟩
  · intro image b rest hsize hrest h
    apply decode_of_parse_eq_error
    apply parse_of_proper_prefix hsize (toList_data_ne_nil hrest)
    rw [← toList_data_encode, ← h, ByteArray.data_append, Array.toList_append]
  · intro image rest hfits hrest
    have hbytes : (image.encode ++ rest).data.toList = image.bytes ++ rest.data.toList := by
      rw [ByteArray.data_append, Array.toList_append, toList_data_encode]
    have hsize : image.code.size < UInt64.size := by
      apply code_size_lt_of_length_le
      have hlength := congrArg List.length hbytes
      rw [Array.length_toList, ByteArray.size_data, List.length_append] at hlength
      omega
    exact decode_of_parse_eq_error (parse_of_trailing hsize (toList_data_ne_nil hrest) hbytes)
  · intro image hfits hmagic
    have hbytes := toList_data_encode image
    rw [decode, parse_complete (code_size_lt hbytes hfits) hbytes]
    exact if_neg hmagic
  · intro magic count is index rest hcount hindex
    apply decode_of_parse_eq_error
    apply parse_of_unknown hcount hindex
    exact List.toList_data_toByteArray
  · intro b
    refine ⟨answer_decode b, fun count before => ⟨readCode_eq_scan b count 12 before, ?_⟩⟩
    have hsteps := four_mul_length_scan_le b count 12
    omega
  · intro index
    -- Only the number of operations is left to be computed.
    have htail : "`, expected variant index 0 <= i < " ++ toString Opcode.all.length =
        "`, expected variant index 0 <= i < 13" := by decide +kernel
    show "invalid value: integer `" ++ toString index.toNat ++
      "`, expected variant index 0 <= i < " ++ toString Opcode.all.length = _
    rw [String.append_assoc, htail]

/-- An image of another magic that is cut in an operand, that is followed by a byte, and that is all
there; and an index too large behind its first instruction. -/
theorem malformed_rejected_push_halt :
    let image : Image := ⟨#v[0, 0, 0, 0], #[.push 7, .halt]⟩
    let cut : ByteArray := (image.bytes.take 20).toByteArray
    let missing : ByteArray := (image.bytes.drop 20).toByteArray
    let zero : ByteArray := [0].toByteArray
    decode cut = .error (.codec .unexpectedEnd) ∧
      decode (image.encode ++ zero) = .error (.codec .trailingBytes) ∧
      decode image.encode = .error (.badMagic #v[0, 0, 0, 0]) ∧
      decode (image.magic.toList ++ encode64 2 ++
          ([Instruction.push 7].flatMap Instruction.bytes ++ (encode32 13 ++ [1]))).toByteArray =
        .error (.codec (.unknownOpcode 13)) ∧
      cut ++ missing = image.encode := by
  intro image cut missing zero
  obtain ⟨hcut, htrailing, hmagic, hunknown, -⟩ := malformed_rejected
  have hsize : image.code.size < UInt64.size := by decide +kernel
  have hmissing : missing.size ≠ 0 := by decide +kernel
  have hwhole : cut ++ missing = image.encode := by decide +kernel
  have hzero : zero.size ≠ 0 := by decide +kernel
  have hroom : (image.encode ++ zero).size ≤ maxBytes := by decide +kernel
  have hfits : image.encode.size ≤ maxBytes := by decide +kernel
  have hother : image.magic ≠ Magic.program := by decide
  have hcount : [Instruction.push 7].length < (2 : UInt64).toNat := by decide
  exact ⟨hcut image cut missing hsize hmissing hwhole, htrailing image zero hroom hzero,
    hmagic image hfits hother, hunknown image.magic 2 _ 13 _ hcount (by decide), hwhole⟩

end Image

end StackMachine
