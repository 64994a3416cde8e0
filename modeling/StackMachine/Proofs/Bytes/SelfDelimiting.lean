import StackMachine.Bytes.LittleEndian

/-!
# Writing without separators

Items are written one after the other, with nothing between them and no length in front. They can
still be told apart if the bytes of each item show where it ends, so that two strings which begin
with an item each begin with the same one (`SelfDelimiting`). Then no two lists of items are written
alike (`SelfDelimiting.flatMap_inj`).
-/

namespace StackMachine

/-- The bytes of an item are never the beginning of those of another item, whatever follows. -/
structure SelfDelimiting {α : Type} (write : α → List UInt8) : Prop where
  nonempty : ∀ a, write a ≠ []
  split : ∀ {a b : α} {rest other : List UInt8},
    write a ++ rest = write b ++ other → a = b ∧ rest = other

/-- Two lists of items with the same bytes are the same list. -/
theorem SelfDelimiting.flatMap_inj {α : Type} {write : α → List UInt8} (h : SelfDelimiting write)
    {items others : List α} : items.flatMap write = others.flatMap write ↔ items = others := by
  refine ⟨?_, fun heq => heq ▸ rfl⟩
  -- Both lists lose their first item together, so the other list is general.
  induction items generalizing others with
  | nil =>
    intro hbytes
    cases others with
    | nil => rfl
    | cons b others =>
      rw [List.flatMap_nil, List.flatMap_cons] at hbytes
      exact absurd (List.append_eq_nil_iff.mp hbytes.symm).1 (h.nonempty b)
  | cons a items ih =>
    intro hbytes
    cases others with
    | nil =>
      rw [List.flatMap_nil, List.flatMap_cons] at hbytes
      exact absurd (List.append_eq_nil_iff.mp hbytes).1 (h.nonempty a)
    | cons b others =>
      rw [List.flatMap_cons, List.flatMap_cons] at hbytes
      obtain ⟨rfl, hrest⟩ := h.split hbytes
      rw [ih hrest]

namespace LittleEndian

theorem encode64_inj {x y : UInt64} (h : encode64 x = encode64 y) : x = y := by
  simp only [encode64, List.cons.injEq, and_true] at h
  obtain ⟨h0, h1, h2, h3, h4, h5, h6, h7⟩ := h
  rw [← decode64_encode64 x, ← decode64_encode64 y, h0, h1, h2, h3, h4, h5, h6, h7]

/-- A word ends after eight bytes. -/
theorem selfDelimiting_encode64 : SelfDelimiting encode64 where
  nonempty := fun _ => List.cons_ne_nil _ _
  split := by
    intro x y rest other h
    -- Both words take eight bytes, so the rest begins at the same place.
    obtain ⟨hword, hrest⟩ := List.append_inj h rfl
    exact ⟨encode64_inj hword, hrest⟩

end LittleEndian

end StackMachine
