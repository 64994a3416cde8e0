import StackMachine.Reading.Reader

/-!
# What readers take

`Reader.Takes p s a rest` says that the reader `p` succeeds on the text `s`, gives `a` and leaves
`rest`. There is one law for each of the simple readers, and one for two readers after another
(`Takes.bind`), so that no proof about a reader that is made of them has to look into the type of
what is left.
-/

namespace StackMachine.Reader

variable {ε α β : Type} {p : Reader ε α} {f : α → Reader ε β} {s t u : List Char} {a : α} {b : β}

/-- The reader gives `a` for the front of `s` and leaves `rest`. -/
def Takes (p : Reader ε α) (s : List Char) (a : α) (rest : List Char) : Prop :=
  ∃ r, p s = .ok (a, r) ∧ r.1 = rest

theorem takes_pure (a : α) (s : List Char) : (pure a : Reader ε α).Takes s a s :=
  ⟨.all s, rfl, rfl⟩

theorem Takes.bind (hp : p.Takes s a t) (hf : (f a).Takes t b u) : (p >>= f).Takes s b u := by
  obtain ⟨r, hr, rfl⟩ := hp
  obtain ⟨r', hr', rfl⟩ := hf
  refine ⟨r.trans r', ?_, rfl⟩
  simp only [Bind.bind, hr, hr']

theorem takes_peek (s : List Char) : (peek : Reader ε _).Takes s s.head? s := ⟨.all s, rfl, rfl⟩

theorem takes_remaining (s : List Char) : (remaining : Reader ε _).Takes s s s :=
  ⟨.all s, rfl, rfl⟩

theorem takes_skip (c : Char) (s : List Char) : (skip : Reader ε _).Takes (c :: s) () s :=
  ⟨.tail (c :: s), rfl, rfl⟩

theorem takes_skipMany (cs s : List Char) :
    (skipMany cs.length : Reader ε _).Takes (cs ++ s) () s := by
  induction cs with
  | nil => exact takes_pure () s
  | cons c cs ih => exact (takes_skip c (cs ++ s)).bind ih

theorem takes_takeWhile (q : Char → Bool) (s : List Char) :
    (takeWhile q : Reader ε _).Takes s (s.takeWhile q) (s.dropWhile q) := ⟨.dropWhile q s, rfl, rfl⟩

theorem takes_skipWhile (q : Char → Bool) (s : List Char) :
    (skipWhile q : Reader ε _).Takes s () (s.dropWhile q) := ⟨.dropWhile q s, rfl, rfl⟩

/-- A reader that leaves nothing gives its value for all of a text. -/
theorem readAll_of_takes (h : p.Takes s a []) (trailing : ε) : readAll p trailing s = .ok a := by
  obtain ⟨r, hr, hrest⟩ := h
  rw [readAll, hr]
  simp only [hrest, List.isEmpty_nil, if_true]

end StackMachine.Reader
