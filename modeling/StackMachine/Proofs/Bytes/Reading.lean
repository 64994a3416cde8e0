import StackMachine.Bytes.LittleEndian

/-!
# Reading words, as a law of byte strings

A reader looks at a position of a byte array; a writer gives a list of bytes. Both meet in
`bytesFrom`, the bytes from a position on: a word can be read at a position exactly if the bytes
from there on begin with those of the word (`read32?_eq_some_iff`, `read64?_eq_some_iff`).
-/

namespace StackMachine

/-- The bytes of a byte string from a position on. -/
def bytesFrom (b : ByteArray) (pos : Nat) : List UInt8 := b.data.toList.drop pos

theorem bytesFrom_zero (b : ByteArray) : bytesFrom b 0 = b.data.toList := rfl

theorem length_bytesFrom (b : ByteArray) (pos : Nat) :
    (bytesFrom b pos).length = b.size - pos := by
  simp [bytesFrom]

/-- What follows a piece stands where the piece ends. -/
theorem bytesFrom_add_length {b : ByteArray} {pos : Nat} {piece rest : List UInt8}
    (h : bytesFrom b pos = piece ++ rest) : bytesFrom b (pos + piece.length) = rest := by
  unfold bytesFrom at h ⊢
  rw [← List.drop_drop, h, List.drop_left]

/-- Nothing is left exactly at the end and behind it. -/
theorem bytesFrom_eq_nil_iff {b : ByteArray} {pos : Nat} :
    bytesFrom b pos = [] ↔ b.size ≤ pos := by
  rw [← List.length_eq_zero_iff, length_bytesFrom]
  omega

theorem bytesFrom_eq_cons {b : ByteArray} {pos : Nat} (h : pos < b.size) :
    bytesFrom b pos = b[pos] :: bytesFrom b (pos + 1) :=
  List.drop_eq_getElem_cons (by simpa using h)

theorem bytesFrom_eq_four {b : ByteArray} {pos : Nat} (h0 : pos < b.size)
    (h1 : pos + 1 < b.size) (h2 : pos + 2 < b.size) (h3 : pos + 3 < b.size) :
    bytesFrom b pos =
      [b[pos], b[pos + 1], b[pos + 2], b[pos + 3]] ++ bytesFrom b (pos + 4) := by
  rw [bytesFrom_eq_cons h0, bytesFrom_eq_cons h1, bytesFrom_eq_cons h2, bytesFrom_eq_cons h3]
  rfl

namespace LittleEndian

variable {b : ByteArray} {pos : Nat}

/-- A word is missing exactly where too few bytes are left. -/
theorem read32?_eq_none_iff : read32? b pos = none ↔ b.size < pos + 4 := by
  unfold read32?
  split <;> simp <;> omega

theorem read64?_eq_none_iff : read64? b pos = none ↔ b.size < pos + 8 := by
  unfold read64?
  split <;> simp <;> omega

/-- A 32-bit word is read exactly where its bytes stand. -/
theorem read32?_eq_some_iff {x : UInt32} :
    read32? b pos = some x ↔ bytesFrom b pos = encode32 x ++ bytesFrom b (pos + 4) := by
  constructor
  · intro h
    unfold read32? at h
    split at h
    · next hsize =>
      obtain rfl := Option.some.inj h
      rw [encode32_decode32]
      exact bytesFrom_eq_four _ _ _ _
    · cases h
  · intro h
    -- The bytes of the word are part of what is left, so there are four of them.
    have hsize : pos + 4 ≤ b.size := by
      have := congrArg List.length h
      rw [List.length_append, length_bytesFrom, length_bytesFrom, length_encode32] at this
      omega
    rw [bytesFrom_eq_four (by omega) (by omega) (by omega) (by omega)] at h
    have hbytes := List.append_cancel_right h
    simp only [encode32, List.cons.injEq, and_true] at hbytes
    obtain ⟨h0, h1, h2, h3⟩ := hbytes
    rw [read32?, dif_pos hsize, h0, h1, h2, h3, decode32_encode32]

/-- A 64-bit word is read exactly where its bytes stand. -/
theorem read64?_eq_some_iff {x : UInt64} :
    read64? b pos = some x ↔ bytesFrom b pos = encode64 x ++ bytesFrom b (pos + 8) := by
  -- The array is looked at byte by byte, so its bytes are written out.
  have eight (hsize : pos + 8 ≤ b.size) : bytesFrom b pos =
      [b[pos], b[pos + 1], b[pos + 2], b[pos + 3], b[pos + 4], b[pos + 5], b[pos + 6],
        b[pos + 7]] ++ bytesFrom b (pos + 8) := by
    rw [bytesFrom_eq_four (by omega) (by omega) (by omega) (by omega),
      bytesFrom_eq_four (by omega) (by omega) (by omega) (by omega)]
    rfl
  constructor
  · intro h
    unfold read64? at h
    split at h
    · next hsize =>
      obtain rfl := Option.some.inj h
      rw [encode64_decode64]
      exact eight hsize
    · cases h
  · intro h
    have hsize : pos + 8 ≤ b.size := by
      have := congrArg List.length h
      rw [List.length_append, length_bytesFrom, length_bytesFrom, length_encode64] at this
      omega
    rw [eight hsize] at h
    have hbytes := List.append_cancel_right h
    simp only [encode64, List.cons.injEq, and_true] at hbytes
    obtain ⟨h0, h1, h2, h3, h4, h5, h6, h7⟩ := hbytes
    rw [read64?, dif_pos hsize, h0, h1, h2, h3, h4, h5, h6, h7, decode64_encode64]

end LittleEndian

end StackMachine
