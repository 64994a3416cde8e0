import StackMachine.Proofs.Files.Writing
import StackMachine.Proofs.Machine.Acceptance
import StackMachine.Proofs.Machine.Agreement

/-!
# Stored programs can be loaded

A valid program that has been written to a file is what the file holds, as long as its image is no
larger than an image file may be (`Image.holds_of_store`). Machines of every kind can then be loaded
from it (`Image.store_then_load`).

The condition on the size is needed, because it is only asked for when an image is read. An image
takes twelve bytes, and four or twelve more for each instruction (`Image.size_encode`), so that 4194302
instructions without operand are too many (`Image.store_then_load_needs_size`).
-/

namespace StackMachine

variable {mw : Meanwhile}

/-! ### The size of an image -/

namespace Image

/-- Magic and count take twelve bytes. -/
theorem size_encode (image : Image) :
    image.encode.size = 12 + (image.code.toList.flatMap Instruction.bytes).length := by
  rw [encode, List.size_toByteArray, bytes, List.length_append, List.length_append,
    Vector.length_toList, LittleEndian.length_encode64]

theorem length_flatMap_bytes_replicate_nop (n : Nat) :
    ((List.replicate n Instruction.nop).flatMap Instruction.bytes).length = 4 * n := by
  induction n with
  | zero => rfl
  | succ n ih =>
    rw [List.replicate_succ, List.flatMap_cons, List.length_append, ih]
    show 4 + 4 * n = 4 * (n + 1)
    omega

/-! ### Storing -/

/-- Storing writes the bytes of an image, whatever their number. -/
theorem store_carryOut (image : Image) (path : String) (w : World) :
    (image.store path).carryOut mw w =
      match w.files.write path image.encode with
      | .error cause => (.error (.io path cause), w)
      | .ok files => (.ok (), { w with files }) := by
  unfold store
  rw [Attempt.carryOut_bind, Attempt.carryOut_action]
  simp only [writeFile, Action.perform, World.write]
  cases w.files.write path image.encode <;> rfl

/-- A valid program that has been stored is there, if it is not too large. -/
theorem holds_of_store {code : Array Instruction} {path : String} {findings : List Finding}
    {w w' : World} (hvalid : (ofCode code).validate = .ok findings)
    (hstore : ((ofCode code).store path).carryOut mw w = (.ok (), w'))
    (hsize : (ofCode code).encode.size ≤ maxBytes) : w'.files.Holds path (ofCode code) := by
  obtain ⟨hcode, hinside, -⟩ := validate_eq_ok_iff.mp hvalid
  rw [store_carryOut] at hstore
  cases hwrite : w.files.write path (ofCode code).encode with
  | error cause =>
    rw [hwrite] at hstore
    cases hstore
  | ok files =>
    rw [hwrite] at hstore
    cases hstore
    exact ⟨Files.read_of_write hwrite, hsize, rfl, hcode, hinside⟩

/-- **A valid program that has been stored, and is not too large, can be loaded.** Its image is read
back as it was, a machine of each kind is made of it, and replies what the program does. -/
theorem store_then_load {code : Array Instruction} {path : String} {findings : List Finding}
    {w w' : World} (hvalid : (ofCode code).validate = .ok findings)
    (hstore : ((ofCode code).store path).carryOut .nothing w = (.ok (), w'))
    (hsize : (ofCode code).encode.size ≤ maxBytes) :
    (Image.load path).carryOut .nothing w' = (.ok (ofCode code), w') ∧
      ∀ (warn : Bool) (kind : Backend), ∃ w'',
        (Loader.builtin.load path warn kind.name).run.perform .nothing w' =
          (.ok (.made path warn (.ofImage (ofCode code)) kind), w'') ∧
        ∀ query, ((Machine.reply query).carryOut .nothing
          (.made path warn (.ofImage (ofCode code)) kind) w'').1.1 =
            .ok ((Core.ofImage (ofCode code)).answer query).1 := by
  have hholds := holds_of_store hvalid hstore hsize
  constructor
  · rw [load_carryOut, Files.image_of_encode hholds.read hsize, if_pos hholds.magic]
  · intro warn kind
    obtain ⟨w'', hload, hfiles⟩ := Loader.builtin_carryOut_of_valid warn
      (w := Loader.requested .nothing path warn kind w') hholds.program kind
    refine ⟨w'', ?_, ?_⟩
    · rw [Loader.load_perform]
      unfold Attempt.carryOut at hload
      rw [hload]
      rfl
    · intro query
      have hstands := made_standsAt hholds.program warn kind
      rw [show w'.files = w''.files from hfiles.symm] at hstands
      obtain ⟨next, events, hreply, -⟩ := Machine.reply_of_standsAt .nothing hstands query
      rw [hreply]

end Image

/-! ### Programs that are stored in an empty directory -/

/-- The file of a name in the directory where paths start, and nothing else. -/
theorem World.store_in_empty (image : Image) :
    (image.store "p").carryOut mw .empty = (.ok (), .withFile "p" image.encode) := by
  rw [Image.store_carryOut]
  rfl

namespace Image

/-- Two instructions, stored where there was no file before. -/
theorem store_then_load_push_halt :
    let code : Array Instruction := #[.push 1, .halt]
    (ofCode code).validate = .ok (findings code) ∧
      ((ofCode code).store "p").carryOut .nothing .empty =
        (.ok (), .withFile "p" (ofCode code).encode) ∧
      (ofCode code).encode.size ≤ maxBytes ∧
      (Image.load "p").carryOut .nothing (.withFile "p" (ofCode code).encode) =
        (.ok (ofCode code), .withFile "p" (ofCode code).encode) := by
  intro code
  have hvalid : (ofCode code).validate = .ok (findings code) := rfl
  have hsize : (ofCode code).encode.size ≤ maxBytes := by
    rw [size_encode]
    decide
  have hstore : ((ofCode code).store "p").carryOut .nothing .empty = _ :=
    World.store_in_empty (ofCode code)
  exact ⟨hvalid, hstore, hsize, (store_then_load hvalid hstore hsize).1⟩

/-- One instruction more than fits: the program is valid and is stored, and cannot be loaded. -/
theorem store_then_load_needs_size :
    let image := ofCode (Array.replicate 4194302 .nop)
    ∃ findings w', image.validate = .ok findings ∧
      (image.store "p").carryOut .nothing .empty = (.ok (), w') ∧
      (Image.load "p").carryOut .nothing w' = (.error (.tooLarge maxBytes), w') ∧
      ∀ (warn : Bool) (kind : Backend), kind ≠ .native →
        ((Loader.builtin.load "p" warn kind.name).run.perform .nothing w').1 =
          .error (.backend (.tooLarge maxBytes)) := by
  intro image
  have hcode : image.code.toList = List.replicate 4194302 .nop := Array.toList_replicate
  have hsize : maxBytes < image.encode.size := by
    rw [size_encode, hcode, length_flatMap_bytes_replicate_nop, maxBytes]
    omega
  have hnonempty : image.code ≠ #[] := by
    intro h
    have hlength := congrArg Array.size h
    rw [show image.code.size = 4194302 from Array.size_replicate] at hlength
    cases hlength
  have hinside : StaysInside image.code := by
    -- A nop is no jump.
    intro i hi target htarget
    rw [hcode] at hi
    rw [List.eq_of_mem_replicate hi] at htarget
    cases htarget
  -- The bytes are there, all of them, and are refused for their number.
  have hread : (World.withFile "p" image.encode).files.read "p" = .ok image.encode := rfl
  have himage := Files.image_of_large hread hsize
  have hprogram : (World.withFile "p" image.encode).files.program "p" =
      .error (.tooLarge maxBytes) := (Files.Refuses.tooLarge hread hsize).program
  refine ⟨_, _, validate_eq_ok_iff.mpr ⟨hnonempty, hinside, rfl⟩, World.store_in_empty image,
    ?_, ?_⟩
  · rw [load_carryOut, himage]
  · intro warn kind hkind
    have hfails := Loader.builtin_carryOut_of_invalid warn
      (w := Loader.requested .nothing "p" warn kind (.withFile "p" image.encode)) hprogram hkind
    rw [Loader.load_perform]
    unfold Attempt.carryOut at hfails
    rw [hfails]
    rfl

end Image

end StackMachine
