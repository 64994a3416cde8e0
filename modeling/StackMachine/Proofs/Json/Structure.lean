import StackMachine.Json.Reading
import StackMachine.Proofs.Json.Words

/-!
# Reading lists and objects

`Reads read v a` says that a reader takes every text of the value `v` and gives `a`. From readers of
the items, this module has it for the readers of what is made of them: lists of any length
(`reads_list`), lists of fixed length, one element at a time (`takes_element_first`,
`takes_element_next`), and the members of objects (`takes_members`).
-/

namespace StackMachine.Json

open Reader

variable {α κ σ : Type} {w w' rest : List Char}

/-- The reader takes every text of a value, also after blanks, and gives `a` for it. -/
def Reads (read : Read α) (v : Value) (a : α) : Prop :=
  ∀ ⦃w cs rest : List Char⦄, Blanks w → Spelt v cs → EndsWord rest →
    read.Takes (w ++ (cs ++ rest)) a rest

/-! ### Where texts begin and end -/

theorem isBlank_eq_false_of_isDigit {c : Char} (hc : c.isDigit = true) : isBlank c = false := by
  simp only [isBlank, Bool.or_eq_false_iff, decide_eq_false_iff_not]
  refine ⟨⟨⟨?_, ?_⟩, ?_⟩, ?_⟩ <;> rintro rfl <;> cases hc

/-- A value begins with neither a blank nor a closing bracket. -/
theorem Spelt.opens {v : Value} {cs : List Char} (h : Spelt v cs) :
    ∃ c ds, cs = c :: ds ∧ isBlank c = false ∧ c ≠ ']' := by
  cases h with
  | string s => exact ⟨'"', _, rfl, rfl, by decide⟩
  | natural n =>
    obtain ⟨c, ds, hn, hc⟩ := number_eq_cons n
    refine ⟨c, ds, hn, isBlank_eq_false_of_isDigit hc, ?_⟩
    rintro rfl
    cases hc
  | list h => exact ⟨'[', _, rfl, rfl, by decide⟩
  | object h => exact ⟨'{', _, rfl, rfl, by decide⟩

theorem endsWord_nil : EndsWord [] := by
  intro c hc
  cases hc

theorem endsWord_cons {c : Char} (hc : isBlank c = true ∨ c = ',' ∨ c = ']' ∨ c = '}')
    (s : List Char) : EndsWord (c :: s) := by
  intro d hd
  obtain rfl := Option.some.inj hd
  exact hc

theorem endsWord_blanks (hw : Blanks w) (h : EndsWord rest) : EndsWord (w ++ rest) := by
  cases w with
  | nil => exact h
  | cons b w => exact endsWord_cons (.inl (hw b List.mem_cons_self)) _

/-- The comma or bracket behind an item ends the last word of it. -/
theorem After.endsWord {item : α → List Char → Prop} {close : Char} {as : List α} {cs : List Char}
    (hclose : close = ']' ∨ close = '}') (h : After item close as cs) (rest : List Char) :
    EndsWord (cs ++ rest) := by
  cases h with
  | close hw =>
    rw [List.append_assoc]
    exact endsWord_blanks hw (endsWord_cons (.inr (.inr hclose)) _)
  | comma hw hw' ha h =>
    rw [List.append_assoc]
    exact endsWord_blanks hw (endsWord_cons (.inr (.inl rfl)) _)

/-! ### Lists -/

section

variable {item : Read α} {v : Value} {a : α} {cs : List Char}

/-- After a comma comes an item, since a value does not begin with a bracket. -/
theorem takes_afterComma (hitem : Reads item v a) (hw : Blanks w) (hcs : Spelt v cs)
    (hrest : EndsWord rest) : (afterComma item).Takes (w ++ (cs ++ rest)) a rest := by
  have htakes := hitem blanks_nil hcs hrest
  obtain ⟨c, ds, rfl, hblank, hclose⟩ := hcs.opens
  apply (takes_peek hw hblank).bind
  rw [if_neg hclose]
  exact htakes

variable {before all : Array α} {s t : List Char}

theorem takes_elementsFrom_close (hw : Blanks w) :
    Takes (elementsFrom item before) (w ++ ']' :: rest) before rest := by
  have hnext : (Rest.dropWhile isBlank (w ++ ']' :: rest)).1 = ']' :: rest :=
    dropWhile_nonblank hw rfl
  -- The reader looks at the text through a proof about it, so the text is not rewritten; the cases
  -- of the match that this text does not come to are contradictions instead.
  generalize hresult : elementsFrom item before (w ++ ']' :: rest) = result
  show ∃ r, _
  rw [hresult]
  rw [elementsFrom] at hresult
  split at hresult
  case h_2 h =>
    obtain ⟨-, rfl⟩ := List.cons.inj (h.symm.trans hnext)
    exact ⟨_, hresult.symm, rfl⟩
  case h_4 hne _ => exact (hne rest hnext).elim
  all_goals
    rename_i h
    cases h.symm.trans hnext

/-- A comma and an item in front of texts that are read: the item is added, and reading goes on. -/
theorem takes_elementsFrom_comma (hw : Blanks w) (ha : (afterComma item).Takes s a t)
    (h : Takes (elementsFrom item (before.push a)) t all rest) :
    Takes (elementsFrom item before) (w ++ ',' :: s) all rest := by
  have hnext : (Rest.dropWhile isBlank (w ++ ',' :: s)).1 = ',' :: s := dropWhile_nonblank hw rfl
  obtain ⟨u, hu, rfl⟩ := ha
  obtain ⟨u', hu', rfl⟩ := h
  generalize hresult : elementsFrom item before (w ++ ',' :: s) = result
  show ∃ r, _
  rw [hresult]
  rw [elementsFrom] at hresult
  split at hresult
  case h_3 h =>
    obtain ⟨-, rfl⟩ := List.cons.inj (h.symm.trans hnext)
    simp only [hu, hu'] at hresult
    exact ⟨_, hresult.symm, rfl⟩
  case h_4 hne => exact (hne s hnext).elim
  all_goals
    rename_i h
    cases h.symm.trans hnext

end

section

variable {item : Read α} {toValue : α → Value}

/-- What follows the items already read is read up to the closing bracket. -/
theorem takes_elementsFrom (hitem : ∀ a, Reads item (toValue a) a) (as : List α) {cs : List Char}
    (h : After Spelt ']' (as.map toValue) cs) (before : Array α) (rest : List Char) :
    Takes (elementsFrom item before) (cs ++ rest) (before ++ as) rest := by
  -- The text gets shorter with each item, and the items already read grow.
  induction as generalizing cs before with
  | nil =>
    cases h with
    | close hw =>
      rw [List.append_assoc]
      simpa using takes_elementsFrom_close hw
  | cons a as ih =>
    cases h with
    | comma hw hw' ha h =>
      -- What follows the item, a comma or the bracket, also ends its last word.
      have htakes := takes_afterComma (hitem a) hw' ha (h.endsWord (.inl rfl) rest)
      simpa using takes_elementsFrom_comma hw htakes (ih h (before.push a))

/-- All that follows the opening bracket of a list is read, whether there are items or none. -/
theorem takes_elements (hitem : ∀ a, Reads item (toValue a) a) (as : List α) {cs : List Char}
    (h : Sequence Spelt ']' (as.map toValue) cs) :
    (elements item).Takes (cs ++ rest) as.toArray rest := by
  cases as with
  | nil =>
    cases h with
    | empty hw =>
      rw [List.append_assoc]
      apply (takes_peek hw rfl).bind
      exact (takes_skip ']' rest).bind (takes_pure #[] rest)
  | cons a as =>
    cases h with
    | first hw ha h =>
      have htakes := hitem a blanks_nil ha (h.endsWord (.inl rfl) rest)
      have hall := takes_elementsFrom hitem as h #[a] rest
      obtain ⟨c, ds, rfl, hblank, hclose⟩ := ha.opens
      rw [List.append_assoc, List.append_assoc]
      apply (takes_peek hw hblank).bind
      rw [if_neg hclose]
      apply htakes.bind
      simpa using hall

/-- From a reader of the items, a reader of lists of any length. -/
theorem reads_list (hitem : ∀ a, Reads item (toValue a) a) (as : Array α) :
    Reads (list item) (.list (as.toList.map toValue)) as := by
  intro w cs rest hw hcs hrest
  cases hcs with
  | list h =>
    apply (takes_peek hw rfl).bind
    apply (takes_skip '[' _).bind
    exact takes_elements hitem as.toList h

end

/-! ### Lists of fixed length -/

section

variable {item : Read α} {v : Value} {vs : List Value} {a : α} {cs : List Char}

/-- In a list of fixed length, the first element is not preceded by a comma. -/
theorem takes_element_first (hitem : Reads item v a) (h : Sequence Spelt ']' (v :: vs) cs)
    (expected : String) (rest : List Char) :
    ∃ ds, After Spelt ']' vs ds ∧
      (element 0 expected item).Takes (cs ++ rest) a (ds ++ rest) := by
  cases h with
  | @first _ _ w cs ds hw hcs h =>
    refine ⟨ds, h, ?_⟩
    have htakes := hitem blanks_nil hcs (h.endsWord (.inl rfl) rest)
    obtain ⟨c, cs, rfl, hblank, hclose⟩ := hcs.opens
    rw [List.append_assoc, List.append_assoc]
    have hfirst : (element? true item).Takes (w ++ (c :: cs ++ (ds ++ rest))) (some a)
        (ds ++ rest) := by
      apply (takes_peek hw hblank).bind
      rw [if_neg hclose, if_pos rfl]
      exact htakes.bind (takes_pure _ _)
    exact hfirst.bind (takes_pure a _)

/-- Any later element is preceded by one. -/
theorem takes_element_next (hitem : Reads item v a) (h : After Spelt ']' (v :: vs) cs) (n : Nat)
    (expected : String) (rest : List Char) :
    ∃ ds, After Spelt ']' vs ds ∧
      (element (n + 1) expected item).Takes (cs ++ rest) a (ds ++ rest) := by
  cases h with
  | @comma _ _ w w' cs ds hw hw' hcs h =>
    refine ⟨ds, h, ?_⟩
    have htakes := takes_afterComma hitem hw' hcs (h.endsWord (.inl rfl) rest)
    have hnext : (element? false item).Takes (w ++ ',' :: (w' ++ (cs ++ (ds ++ rest)))) (some a)
        (ds ++ rest) := by
      apply (takes_peek hw rfl).bind
      apply (takes_skip ',' _).bind
      exact htakes.bind (takes_pure _ _)
    have hnext' : (element (n + 1) expected item).Takes _ a _ := hnext.bind (takes_pure a _)
    simpa using hnext'

theorem takes_endList (h : After Spelt ']' [] cs) (rest : List Char) :
    endList.Takes (cs ++ rest) () rest := by
  cases h with
  | close hw =>
    rw [List.append_assoc]
    exact takes_expect hw rfl

end

/-! ### Objects -/

theorem takes_memberComma_close (hw : Blanks w) (isFirst : Bool) :
    (memberComma isFirst).Takes (w ++ '}' :: rest) () ('}' :: rest) := by
  apply (takes_peek hw rfl).bind
  exact takes_pure () _

theorem takes_memberComma_first (hw : Blanks w) :
    (memberComma true).Takes (w ++ '"' :: rest) () ('"' :: rest) := by
  apply (takes_peek hw rfl).bind
  exact takes_pure () _

theorem takes_memberComma_next (hw : Blanks w) (hw' : Blanks w') :
    (memberComma false).Takes (w ++ ',' :: (w' ++ '"' :: rest)) () ('"' :: rest) := by
  apply (takes_peek hw rfl).bind
  apply (takes_skip ',' _).bind
  apply (takes_peek hw' rfl).bind
  exact takes_pure () _

section

variable {key : Read κ} {onKey : σ → κ → Read σ} {isFirst : Bool} {before next all : σ}
  {s r t : List Char}

theorem takes_membersFrom_close (hcomma : (memberComma isFirst).Takes s () ('}' :: rest)) :
    Takes (membersFrom key onKey isFirst before) s before rest := by
  -- As for lists, the text is not rewritten under the proof about it.
  obtain ⟨b, hb, hrest⟩ := hcomma
  generalize hresult : membersFrom key onKey isFirst before s = result
  show ∃ r, _
  rw [hresult]
  rw [membersFrom, hb] at hresult
  dsimp only at hresult
  split at hresult
  case h_2 h =>
    obtain ⟨-, rfl⟩ := List.cons.inj (h.symm.trans hrest)
    exact ⟨_, hresult.symm, rfl⟩
  case h_4 hne _ => exact (hne rest hrest).elim
  all_goals
    rename_i h
    cases h.symm.trans hrest

/-- A member in front of texts that are read: the state becomes that after the member, and reading
goes on. -/
theorem takes_membersFrom_member (hcomma : (memberComma isFirst).Takes s () ('"' :: r))
    (hmember : (memberAfterQuote key onKey before).Takes r next t)
    (h : Takes (membersFrom key onKey false next) t all rest) :
    Takes (membersFrom key onKey isFirst before) s all rest := by
  obtain ⟨b, hb, hrest⟩ := hcomma
  obtain ⟨u, hu, rfl⟩ := hmember
  obtain ⟨u', hu', rfl⟩ := h
  generalize hresult : membersFrom key onKey isFirst before s = result
  show ∃ r, _
  rw [hresult]
  rw [membersFrom, hb] at hresult
  dsimp only at hresult
  split at hresult
  case h_3 h =>
    obtain ⟨-, rfl⟩ := List.cons.inj (h.symm.trans hrest)
    simp only [hu, hu'] at hresult
    exact ⟨_, hresult.symm, rfl⟩
  case h_4 hne => exact (hne r hrest).elim
  all_goals
    rename_i h
    cases h.symm.trans hrest

end

/-- After a key, `onKey` takes a colon and every text of the value, and goes to the state `next`. -/
def ReadsMember (onKey : σ → String → Read σ) (before : σ) (m : String × Value) (next : σ) : Prop :=
  ∀ ⦃w w' cs rest : List Char⦄, Blanks w → Blanks w' → Spelt m.2 cs → EndsWord rest →
    (onKey before m.1).Takes (w ++ ':' :: (w' ++ (cs ++ rest))) next rest

/-- One member after the other takes `onKey` from the first state to the last one. -/
inductive Collects (onKey : σ → String → Read σ) : σ → List (String × Value) → σ → Prop
  | done (s : σ) : Collects onKey s [] s
  | member {before next all : σ} {m : String × Value} {ms : List (String × Value)}
      (hm : ReadsMember onKey before m next) (h : Collects onKey next ms all) :
      Collects onKey before (m :: ms) all

section

variable {onKey : σ → String → Read σ} {before next all : σ} {m : String × Value}
  {ms : List (String × Value)} {cs : List Char}

/-- A member begins with the quote of its key, and is taken after it. -/
theorem takes_memberAfterQuote (hm : ReadsMember onKey before m next)
    (hcs : Member Spelt m cs) (hrest : EndsWord rest) :
    ∃ ds, cs = '"' :: ds ∧
      (memberAfterQuote stringBody onKey before).Takes (ds ++ rest) next rest := by
  cases hcs with
  | @colon k v w w' cs hw hw' hcs =>
    refine ⟨_, quote_append k _, ?_⟩
    have htakes : (memberAfterQuote stringBody onKey before).Takes _ next rest :=
      (takes_stringBody k _).bind (hm hw hw' hcs hrest)
    simpa using htakes

theorem takes_membersFrom (h : Collects onKey before ms all)
    (hcs : After (Member Spelt) '}' ms cs) :
    Takes (membersFrom stringBody onKey false before) (cs ++ rest) all rest := by
  -- The induction is on how the states follow each other; the text goes along, member by member.
  induction h generalizing cs with
  | done s =>
    cases hcs with
    | close hw =>
      rw [List.append_assoc]
      exact takes_membersFrom_close (takes_memberComma_close hw false)
  | member hm h ih =>
    cases hcs with
    | comma hw hw' ha hds =>
      obtain ⟨ds, rfl, htakes⟩ := takes_memberAfterQuote hm ha (hds.endsWord (.inr rfl) rest)
      have := takes_membersFrom_member (takes_memberComma_next hw hw') htakes (ih hds)
      simpa using this

/-- All that follows the opening brace of an object is read, if each member is taken in the state
that those before it have led to. -/
theorem takes_members (h : Collects onKey before ms all)
    (hcs : Sequence (Member Spelt) '}' ms cs) :
    (members stringBody onKey before).Takes (cs ++ rest) all rest := by
  cases h with
  | done s =>
    cases hcs with
    | empty hw =>
      rw [List.append_assoc]
      exact takes_membersFrom_close (takes_memberComma_close hw true)
  | member hm h =>
    cases hcs with
    | first hw ha hds =>
      obtain ⟨ds, rfl, htakes⟩ := takes_memberAfterQuote hm ha (hds.endsWord (.inr rfl) rest)
      have := takes_membersFrom_member (takes_memberComma_first hw) htakes (takes_membersFrom h hds)
      rw [List.append_assoc, List.append_assoc]
      exact this

end

end StackMachine.Json
