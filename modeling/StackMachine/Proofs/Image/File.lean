import StackMachine.Machine.Attempt
import StackMachine.Proofs.Image.Codec
import StackMachine.Proofs.Machine.Attempt

/-!
# What a file holds

Reading an image, and checking it, as functions of the files alone: `Files.image` and
`Files.program`. `Image.load` comes to the first of them and leaves the world as it is, so a
machine that is loaded twice from the same files gets the same program twice.
-/

namespace StackMachine

namespace Files

/-- The image that a file holds, valid or not. -/
def image (files : Files) (path : String) : Except Failure Image :=
  match files.read path with
  | .error cause => .error (.io path cause)
  | .ok bytes =>
    if Image.maxBytes < bytes.size then .error (.tooLarge Image.maxBytes) else Image.decode bytes

/-- The valid program that a file holds, and what is odd about it. -/
def program (files : Files) (path : String) : Except Failure (Image × List Finding) :=
  match files.image path with
  | .error cause => .error cause
  | .ok image => image.validate.map (image, ·)

/-- Nothing but the bytes of a file decides what program it holds. -/
theorem program_congr {files others : Files} {path : String}
    (h : files.read path = others.read path) : files.program path = others.program path := by
  simp only [program, image, h]

/-- A file that holds what is written for a valid program holds that program. -/
theorem program_of_encode {files : Files} {path : String} {image : Image} {findings : List Finding}
    (hread : files.read path = .ok image.encode) (hsize : image.encode.size ≤ Image.maxBytes)
    (hmagic : image.magic = Magic.program) (hvalid : image.validate = .ok findings) :
    files.program path = .ok (image, findings) := by
  have hbytes : image.encode.data.toList = image.bytes := Image.encode_eq_iff.mp rfl
  have hdecode : Image.decode image.encode = .ok image := by
    rw [Image.decode_eq_ok_iff, Image.parse_eq_ok_iff]
    exact ⟨hmagic, Image.code_size_lt hbytes hsize, hbytes⟩
  simp only [program, Files.image, hread, if_neg (Nat.not_lt.mpr hsize), hdecode, hvalid]
  rfl

end Files

/-- A world with one file in it, in the directory where paths start. -/
def World.withFile (name : String) (bytes : ByteArray) : World :=
  { World.empty with files := Files.empty.put (name :: Files.empty.start) (.file bytes) }

namespace Image

variable {mw : Meanwhile}

/-- One byte more than the limit is enough to see that a file is too large. -/
theorem fileBytes_carryOut (path : String) (w : World) :
    (fileBytes path).carryOut mw w =
      (match w.files.read path with
        | .error cause => .error (.io path cause)
        | .ok bytes => if maxBytes < bytes.size then .error (.tooLarge maxBytes) else .ok bytes,
        w) := by
  unfold fileBytes
  rw [Attempt.carryOut_bind, Attempt.carryOut_action]
  simp only [readFile, Action.perform, World.read]
  cases w.files.read path with
  | error cause => rfl
  | ok bytes =>
    by_cases hlarge : maxBytes < bytes.size
    · have hcut : maxBytes < (bytes.extract 0 (maxBytes + 1)).size := by
        rw [ByteArray.size_extract]
        omega
      simp only [if_pos hlarge, if_pos hcut]
      rfl
    · have hwhole : bytes.extract 0 (maxBytes + 1) = bytes := by
        rw [← Nat.max_eq_left (show bytes.size ≤ maxBytes + 1 by omega),
          ByteArray.extract_zero_max_size]
      simp only [hwhole, if_neg hlarge]
      rfl

/-- Loading reads what the file holds, and leaves the world as it is. -/
theorem load_carryOut (path : String) (w : World) :
    (load path).carryOut mw w = (w.files.image path, w) := by
  unfold load Files.image
  rw [Attempt.carryOut_bind, fileBytes_carryOut]
  cases w.files.read path with
  | error cause => rfl
  | ok bytes =>
    by_cases hlarge : maxBytes < bytes.size
    · simp only [if_pos hlarge]
    · simp only [if_neg hlarge]
      rfl

end Image

end StackMachine
