import StackMachine.Proofs.Image.Validation
import StackMachine.Proofs.Machine.Reference

/-!
# Which files are accepted

`Files.Holds` says what a program file is, without saying how it is read, and `Files.Refuses` says
for every other file why it is refused. A file can be wrong in more than one way, so each reason
asks that none of those before it applies: the file cannot be read, it is too large whatever is in
it, it is not one image and nothing else, its magic is another one, it has no code, one of its jumps
leaves the code.

Loading decides between the two (`ReferenceMachine.load_decides`).
-/

namespace StackMachine

/-! ### Files with a program, and files without -/

namespace Files

variable {files : Files} {path : String}

/-- A file with a valid program in it. -/
structure Holds (files : Files) (path : String) (image : Image) : Prop where
  read : files.read path = .ok image.encode
  size : image.encode.size ≤ Image.maxBytes
  magic : image.magic = Magic.program
  code : image.code ≠ #[]
  inside : Image.StaysInside image.code

/-- Why there is no valid program in a file: the first reason that applies. -/
inductive Refuses (files : Files) (path : String) : Failure → Prop
  | io {cause : OsError} (read : files.read path = .error cause) : Refuses files path (.io path cause)
  | tooLarge {bytes : ByteArray} (read : files.read path = .ok bytes)
      (size : Image.maxBytes < bytes.size) : Refuses files path (.tooLarge Image.maxBytes)
  | codec {bytes : ByteArray} {cause : CodecError} (read : files.read path = .ok bytes)
      (size : bytes.size ≤ Image.maxBytes) (none : ∀ image : Image, image.encode ≠ bytes)
      (parse : Image.parse bytes = .error cause) : Refuses files path (.codec cause)
  | badMagic {image : Image} (read : files.read path = .ok image.encode)
      (size : image.encode.size ≤ Image.maxBytes) (magic : image.magic ≠ Magic.program) :
      Refuses files path (.badMagic image.magic)
  | emptyProgram {image : Image} (read : files.read path = .ok image.encode)
      (size : image.encode.size ≤ Image.maxBytes) (magic : image.magic = Magic.program)
      (code : image.code = #[]) : Refuses files path .emptyProgram
  | invalidJump {image : Image} {pc : Nat} {target : UInt64}
      (read : files.read path = .ok image.encode) (size : image.encode.size ≤ Image.maxBytes)
      (magic : image.magic = Magic.program) (code : image.code ≠ #[])
      (escape : Image.FirstEscape image.code pc target) :
      Refuses files path (.invalidJump pc target)

end Files

/-! ### Reading -/

namespace Image

variable {b : ByteArray} {image : Image}

/-- What fits into a file is parsed exactly if it is what is written for an image. -/
theorem parse_eq_ok_iff_encode_eq (hb : b.size ≤ maxBytes) :
    parse b = .ok image ↔ image.encode = b := by
  rw [parse_eq_ok_iff, encode_eq_iff]
  exact ⟨And.right, fun h => ⟨code_size_lt h hb, h⟩⟩

/-- An image of another magic is refused for it, once all of it has been read. -/
theorem decode_of_parse (h : parse b = .ok image) :
    decode b = if image.magic = Magic.program then .ok image else .error (.badMagic image.magic) := by
  simp only [decode, h]

end Image

namespace Files

variable {files : Files} {path : String} {image : Image} {bytes : ByteArray}

theorem image_of_error {cause : OsError} (h : files.read path = .error cause) :
    files.image path = .error (.io path cause) := by
  simp only [Files.image, h]

theorem image_of_large (h : files.read path = .ok bytes) (hsize : Image.maxBytes < bytes.size) :
    files.image path = .error (.tooLarge Image.maxBytes) := by
  simp only [Files.image, h, if_pos hsize]

theorem image_of_malformed {cause : CodecError} (h : files.read path = .ok bytes)
    (hsize : bytes.size ≤ Image.maxBytes) (hparse : Image.parse bytes = .error cause) :
    files.image path = .error (.codec cause) := by
  simp only [Files.image, h, if_neg (Nat.not_lt.mpr hsize), Image.decode, hparse]

/-- Bytes that are those of an image leave only the magic to be asked for. -/
theorem image_of_encode (h : files.read path = .ok image.encode)
    (hsize : image.encode.size ≤ Image.maxBytes) :
    files.image path =
      if image.magic = Magic.program then .ok image else .error (.badMagic image.magic) := by
  have hparse : Image.parse image.encode = .ok image :=
    (Image.parse_eq_ok_iff_encode_eq hsize).mpr rfl
  simp only [Files.image, h, if_neg (Nat.not_lt.mpr hsize), Image.decode_of_parse hparse]

/-- What a file is found to hold is there, and what it is refused for is wrong with it. -/
theorem program_sound (files : Files) (path : String) :
    match files.program path with
    | .ok (image, findings) => files.Holds path image ∧ findings = Image.findings image.code
    | .error cause => files.Refuses path cause := by
  -- The cases are those of the reading, in the order in which it looks at the file.
  cases hread : files.read path with
  | error cause =>
    simp only [program, image_of_error hread]
    exact .io hread
  | ok bytes =>
    rcases Nat.lt_or_ge Image.maxBytes bytes.size with hlarge | hsize
    · simp only [program, image_of_large hread hlarge]
      exact .tooLarge hread hlarge
    · cases hparse : Image.parse bytes with
      | error cause =>
        simp only [program, image_of_malformed hread hsize hparse]
        refine .codec hread hsize ?_ hparse
        -- If the bytes were those of an image, they would be parsed.
        intro image hencode
        rw [(Image.parse_eq_ok_iff_encode_eq hsize).mpr hencode] at hparse
        cases hparse
      | ok image =>
        -- From here on, the bytes are those of the image.
        obtain rfl := (Image.parse_eq_ok_iff_encode_eq hsize).mp hparse
        by_cases hmagic : image.magic = Magic.program
        · simp only [program, image_of_encode hread hsize, if_pos hmagic]
          cases hvalid : image.validate with
          | ok findings =>
            obtain ⟨hcode, hinside, hfindings⟩ := Image.validate_eq_ok_iff.mp hvalid
            exact ⟨⟨hread, hsize, hmagic, hcode, hinside⟩, hfindings⟩
          | error cause =>
            by_cases hcode : image.code = #[]
            · cases (Image.validate_eq_emptyProgram_iff.mpr hcode).symm.trans hvalid
              exact .emptyProgram hread hsize hmagic hcode
            · -- With code, the only thing left to be wrong is a jump.
              rcases Image.validate_eq_error hvalid with rfl | ⟨pc, target, rfl⟩
              · exact absurd (Image.validate_eq_emptyProgram_iff.mp hvalid) hcode
              · exact .invalidJump hread hsize hmagic hcode
                  (Image.validate_eq_invalidJump_iff.mp hvalid)
        · simp only [program, image_of_encode hread hsize, if_neg hmagic]
          exact .badMagic hread hsize hmagic

/-- A file that holds a program is found to hold it. -/
theorem Holds.program (h : files.Holds path image) :
    files.program path = .ok (image, Image.findings image.code) := by
  have hvalid : image.validate = .ok (Image.findings image.code) :=
    Image.validate_eq_ok_iff.mpr ⟨h.code, h.inside, rfl⟩
  simp only [Files.program, image_of_encode h.read h.size, if_pos h.magic, hvalid]
  rfl

/-- A file is refused for the reason that applies to it. -/
theorem Refuses.program {cause : Failure} (h : files.Refuses path cause) :
    files.program path = .error cause := by
  cases h with
  | io hread => simp only [Files.program, image_of_error hread]
  | tooLarge hread hsize => simp only [Files.program, image_of_large hread hsize]
  | codec hread hsize _ hparse => simp only [Files.program, image_of_malformed hread hsize hparse]
  | badMagic hread hsize hmagic =>
    simp only [Files.program, image_of_encode hread hsize, if_neg hmagic]
  | emptyProgram hread hsize hmagic hcode =>
    simp only [Files.program, image_of_encode hread hsize, if_pos hmagic,
      Image.validate_eq_emptyProgram_iff.mpr hcode]
    rfl
  | invalidJump hread hsize hmagic _ hescape =>
    simp only [Files.program, image_of_encode hread hsize, if_pos hmagic,
      Image.validate_eq_invalidJump_iff.mpr hescape]
    rfl

end Files

/-! ### Loading -/

/-- **Loading accepts the files that hold a program, and refuses the others for the first reason
that applies.** A machine that is made is at the start of that program. -/
theorem ReferenceMachine.load_decides (mw : Meanwhile) (path : String) (warn : Bool) (w : World) :
    (∀ machine, ((load path warn).carryOut mw w).1 = .ok machine ↔
      ∃ image, w.files.Holds path image ∧
        machine = {
          path, warn
          core := {
            code := image.code
            codeDigest := Sha256.hash (Core.codeBytes image.code.toList)
            pc := 0
            stack := #[]
            status := .extensive } }) ∧
    ∀ cause, ((load path warn).carryOut mw w).1 = .error cause ↔ w.files.Refuses path cause := by
  have hsound := w.files.program_sound path
  rw [load_carryOut]
  -- A file is either found to hold a program or refused, so one of the two contradicts the other.
  rcases hprogram : w.files.program path with cause | ⟨image, findings⟩
  · rw [hprogram] at hsound
    refine ⟨fun machine => ⟨?_, ?_⟩, fun other => ⟨?_, ?_⟩⟩
    · intro h
      cases h
    · rintro ⟨image, hholds, -⟩
      cases hholds.program.symm.trans hprogram
    · intro h
      cases h
      exact hsound
    · intro hrefuses
      cases hrefuses.program.symm.trans hprogram
      rfl
  · rw [hprogram] at hsound
    refine ⟨fun machine => ⟨?_, ?_⟩, fun other => ⟨?_, ?_⟩⟩
    · intro h
      cases h
      exact ⟨image, hsound.1, rfl⟩
    · rintro ⟨held, hholds, rfl⟩
      cases hholds.program.symm.trans hprogram
      rfl
    · intro h
      cases h
    · intro hrefuses
      cases hrefuses.program.symm.trans hprogram

end StackMachine
