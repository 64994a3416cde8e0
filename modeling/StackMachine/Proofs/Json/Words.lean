import Mathlib.Data.List.Basic
import StackMachine.Proofs.Json.Spelling
import StackMachine.Proofs.Reading.Taking

/-!
# Reading words

What the readers of single words take: a character after blanks, a string as it is written
(`takes_stringBody`), a whole number below `2 ^ 64` as it is written (`takes_number`).

A number does not say where it ends. It is read as far as the next character can go on with it, so
what comes after it has to begin with another character (`EndsWord`), as everything does that can
follow a value.
-/

namespace StackMachine.Json

open Reader

variable {w rest : List Char}

/-! ### Blanks -/

theorem dropWhile_blanks (hw : Blanks w) (s : List Char) :
    (w ++ s).dropWhile isBlank = s.dropWhile isBlank :=
  List.dropWhile_append_of_pos hw

theorem dropWhile_nonblank (hw : Blanks w) {c : Char} (hc : isBlank c = false) :
    (w ++ c :: rest).dropWhile isBlank = c :: rest := by
  rw [dropWhile_blanks hw, List.dropWhile_cons_of_neg]
  simp [hc]

/-- To peek is to go past the blanks and no further. -/
theorem takes_peek (hw : Blanks w) {c : Char} (hc : isBlank c = false) :
    peek.Takes (w ++ c :: rest) c (c :: rest) := by
  have hskip : (skipWhile isBlank : Read Unit).Takes (w ++ c :: rest) () (c :: rest) := by
    have := takes_skipWhile (ε := Fault) isBlank (w ++ c :: rest)
    rwa [dropWhile_nonblank hw hc] at this
  have hpeek : peek?.Takes (w ++ c :: rest) (some c) (c :: rest) := hskip.bind (Reader.takes_peek _)
  exact hpeek.bind (takes_pure c _)

/-- The character expected is taken, with the blanks before it. -/
theorem takes_expect (hw : Blanks w) {c : Char} (hc : isBlank c = false) :
    (expect c).Takes (w ++ c :: rest) () rest := by
  apply (takes_peek hw hc).bind
  rw [if_pos rfl]
  exact takes_skip c rest

/-! ### Strings -/

/-- A backslash has been taken already; the letter after it tells the character. -/
theorem takes_escape_letter {c d : Char} (h : letterEscape? c = some d) (s : List Char) :
    escape.Takes (c :: s) d s := by
  apply (Reader.takes_peek _).bind
  rw [List.head?_cons]
  split
  case h_1 heq => cases heq
  case h_2 heq =>
    obtain rfl := Option.some.inj heq
    cases h
  case h_3 heq =>
    obtain rfl := Option.some.inj heq
    rw [h]
    exact (takes_skip c s).bind (takes_pure d s)

theorem hexDigit_eq : ∀ n < 16,
    Digit.value? 16 (Value.hexDigit n) = some n ∧ (Value.hexDigit n).utf8Size = 1 := by
  decide

/-- Four digits in a row are a number in base 16. They are one byte each, which the reader makes
sure of. -/
theorem takes_hexQuad {ds : List Char} {a b c d : Nat} (hlength : ds.length = 4)
    (hsize : ds.foldl (fun n c => n + c.utf8Size) 0 = 4)
    (hvalues : ds.mapM (Digit.value? 16) = some [a, b, c, d]) (s : List Char) :
    hexQuad.Takes (ds ++ s) (((a * 16 + b) * 16 + c) * 16 + d) s := by
  apply (takes_remaining _).bind
  rw [List.take_left' hlength]
  dsimp only
  rw [hsize, hvalues, if_neg (Nat.lt_irrefl 4)]
  have hskip := takes_skipMany (ε := Fault) ds s
  rw [hlength] at hskip
  exact hskip.bind (takes_pure _ s)

/-- Two zeros and two digits are read as the character whose code they are. -/
theorem takes_unicodeEscape {c : Char} (hc : c.toNat < 256) (s : List Char) :
    unicodeEscape.Takes
      ('0' :: '0' :: Value.hexDigit (c.toNat / 16) :: Value.hexDigit (c.toNat % 16) :: s) c s := by
  obtain ⟨hhigh, hhighsize⟩ := hexDigit_eq (c.toNat / 16) (by omega)
  obtain ⟨hlow, hlowsize⟩ := hexDigit_eq (c.toNat % 16) (by omega)
  have hzero : Digit.value? 16 '0' = some 0 := by decide
  have hzerosize : '0'.utf8Size = 1 := by decide
  have hsize : ['0', '0', Value.hexDigit (c.toNat / 16), Value.hexDigit (c.toNat % 16)].foldl
      (fun n c => n + c.utf8Size) 0 = 4 := by
    simp [hhighsize, hlowsize, hzerosize]
  have hvalues : ['0', '0', Value.hexDigit (c.toNat / 16), Value.hexDigit (c.toNat % 16)].mapM
      (Digit.value? 16) = some [0, 0, c.toNat / 16, c.toNat % 16] := by
    simp [hhigh, hlow, hzero]
  have hquad := takes_hexQuad rfl hsize hvalues s
  have hcode : ((0 * 16 + 0) * 16 + c.toNat / 16) * 16 + c.toNat % 16 = c.toNat := by omega
  rw [hcode] at hquad
  -- So small a code is no half of a pair.
  have htrailing : isTrailing c.toNat = false := by
    simp only [isTrailing, Bool.and_eq_false_iff, decide_eq_false_iff_not]
    omega
  have hleading : isLeading c.toNat = false := by
    simp only [isLeading, Bool.and_eq_false_iff, decide_eq_false_iff_not]
    omega
  apply hquad.bind
  rw [htrailing, hleading]
  simp only [Bool.false_eq_true, if_false, Char.ofNat_toNat]
  exact takes_pure c s

/-- A character is written as itself, or as an escape of it. -/
theorem escape_cases (c : Char) :
    (∃ r, Value.escape c = '\\' :: r ∧ ∀ s, escape.Takes (r ++ s) c s) ∨
      Value.escape c = [c] ∧ c ≠ '"' ∧ c ≠ '\\' ∧ 0x20 ≤ c.toNat := by
  have letter {d : Char} (hd : letterEscape? d = some c) :
      ∃ r, ['\\', d] = '\\' :: r ∧ ∀ s, escape.Takes (r ++ s) c s :=
    ⟨[d], rfl, takes_escape_letter hd⟩
  rw [Value.escape]
  -- Seven characters have a letter of their own, other control characters a code.
  split_ifs with hquote hbackslash hb hf hn hr ht hcontrol
  · subst hquote
    exact .inl (letter rfl)
  · subst hbackslash
    exact .inl (letter rfl)
  · subst hb
    exact .inl (letter rfl)
  · subst hf
    exact .inl (letter rfl)
  · subst hn
    exact .inl (letter rfl)
  · subst hr
    exact .inl (letter rfl)
  · subst ht
    exact .inl (letter rfl)
  · apply Or.inl
    refine ⟨_, rfl, ?_⟩
    intro s
    apply (Reader.takes_peek _).bind
    exact (takes_skip 'u' _).bind (takes_unicodeEscape (by omega) s)
  · exact .inr ⟨rfl, hquote, hbackslash, by omega⟩

theorem takes_stringFrom_quote (before r : List Char) :
    Reader.Takes (stringFrom before) ('"' :: r) (String.ofList before.reverse) r := by
  refine ⟨(Rest.all r).cons _, ?_, rfl⟩
  rw [stringFrom]

section

variable {before r s : List Char} {c : Char} {text : String}

theorem takes_stringFrom_escape (hc : escape.Takes r c s)
    (h : Reader.Takes (stringFrom (c :: before)) s text rest) :
    Reader.Takes (stringFrom before) ('\\' :: r) text rest := by
  obtain ⟨t, ht, rfl⟩ := hc
  obtain ⟨u, hu, rfl⟩ := h
  refine ⟨(t.trans u).cons _, ?_, rfl⟩
  rw [stringFrom]
  simp only [ht, hu]

theorem takes_stringFrom_plain (hquote : c ≠ '"') (hbackslash : c ≠ '\\') (hc : 0x20 ≤ c.toNat)
    (h : Reader.Takes (stringFrom (c :: before)) r text rest) :
    Reader.Takes (stringFrom before) (c :: r) text rest := by
  obtain ⟨u, hu, rfl⟩ := h
  refine ⟨u.cons _, ?_, rfl⟩
  rw [stringFrom, if_neg (Nat.not_lt.mpr hc), hu]
  · exact hquote
  · exact hbackslash

end

/-- Character by character, what is written for the rest of a string is read up to the quote. -/
theorem takes_stringFrom (cs before rest : List Char) :
    Reader.Takes (stringFrom before) (cs.flatMap Value.escape ++ '"' :: rest)
      (String.ofList (before.reverse ++ cs)) rest := by
  -- The characters read so far are kept in reverse.
  induction cs generalizing before with
  | nil =>
    rw [List.append_nil]
    exact takes_stringFrom_quote before rest
  | cons c cs ih =>
    have htext : before.reverse ++ c :: cs = (c :: before).reverse ++ cs := by simp
    rw [List.flatMap_cons, List.append_assoc, htext]
    rcases escape_cases c with ⟨r, hr, hescape⟩ | ⟨hplain, hquote, hbackslash, hc⟩
    · rw [hr]
      exact takes_stringFrom_escape (hescape _) (ih (c :: before))
    · rw [hplain]
      exact takes_stringFrom_plain hquote hbackslash hc (ih (c :: before))

/-- What is written between the quotes of a string is read as this string. -/
theorem takes_stringBody (s : String) (rest : List Char) :
    stringBody.Takes (s.toList.flatMap Value.escape ++ '"' :: rest) s rest := by
  have := takes_stringFrom s.toList [] rest
  rwa [List.reverse_nil, List.nil_append, String.ofList_toList] at this

theorem quote_append (s : String) (rest : List Char) :
    Value.quote s ++ rest = '"' :: (s.toList.flatMap Value.escape ++ '"' :: rest) := by
  simp [Value.quote]

/-! ### Numbers -/

/-- A text that can follow a value: nothing, a blank, a comma or a closing bracket. -/
def EndsWord (s : List Char) : Prop :=
  ∀ c, s.head? = some c → isBlank c = true ∨ c = ',' ∨ c = ']' ∨ c = '}'

/-- Whether a number can go on with a character after some of its digits. -/
def goesOn (c : Char) : Bool := c.isDigit || c = '.' || c = 'e' || c = 'E'

/-- What can follow a value cannot go on with a number. -/
theorem EndsWord.goesOn_eq_false (h : EndsWord rest) {c : Char} (hc : rest.head? = some c) :
    goesOn c = false := by
  rcases h c hc with hblank | rfl | rfl | rfl
  · simp only [isBlank, Bool.or_eq_true, decide_eq_true_eq] at hblank
    rcases hblank with ((rfl | rfl) | rfl) | rfl <;> rfl
  · rfl
  · rfl
  · rfl

theorem isDigit_of_mem_number {n : Nat} {c : Char} (hc : c ∈ Value.number n) :
    c.isDigit = true :=
  Nat.isDigit_of_mem_toDigits (by decide) (by decide) hc

theorem number_eq_cons (n : Nat) : ∃ c ds, Value.number n = c :: ds ∧ c.isDigit = true := by
  obtain ⟨c, ds, hn⟩ := List.exists_cons_of_ne_nil (Nat.toDigits_ne_nil (n := n) (b := 10))
  refine ⟨c, ds, hn, isDigit_of_mem_number (n := n) ?_⟩
  rw [Value.number, hn]
  exact List.mem_cons_self

theorem EndsWord.takeWhile_isDigit (h : EndsWord rest) : rest.takeWhile Char.isDigit = [] := by
  cases rest with
  | nil => rfl
  | cons c rest =>
    have hc := h.goesOn_eq_false rfl
    simp only [goesOn, Bool.or_eq_false_iff] at hc
    apply List.takeWhile_cons_of_neg
    simp [hc]

theorem EndsWord.dropWhile_isDigit (h : EndsWord rest) : rest.dropWhile Char.isDigit = rest := by
  have := List.takeWhile_append_dropWhile (p := Char.isDigit) (l := rest)
  rwa [h.takeWhile_isDigit, List.nil_append] at this

theorem takes_digits (h : EndsWord rest) (n : Nat) :
    digits.Takes (Value.number n ++ rest) (Value.number n) rest := by
  have hall : ∀ c ∈ Value.number n, c.isDigit = true := fun c => isDigit_of_mem_number
  have htake := takes_takeWhile (ε := Fault) Char.isDigit (Value.number n ++ rest)
  rw [List.takeWhile_append_of_pos hall, List.dropWhile_append_of_pos hall, h.takeWhile_isDigit,
    h.dropWhile_isDigit, List.append_nil] at htake
  apply htake.bind
  rw [if_neg]
  · exact takes_pure _ rest
  · obtain ⟨c, ds, hn, -⟩ := number_eq_cons n
    rw [hn]
    exact Bool.false_ne_true

/-- No number but zero is written with a zero in front. -/
theorem number_of_head? (n : Nat) (h : (Value.number n).head? = some '0') :
    Value.number n = ['0'] := by
  induction n using Nat.strongRecOn with
  | ind n ih =>
    rw [Value.number, Nat.toDigits_eq_if (by decide)] at h ⊢
    split at h
    case isTrue hn => rw [if_pos hn, Option.some.inj h]
    case isFalse hn =>
      rw [List.head?_append_of_ne_nil _ Nat.toDigits_ne_nil] at h
      have hzero : Nat.toDigits 10 (n / 10) = ['0'] := ih (n / 10) (by omega) h
      -- A zero in front of the other digits means that these are all of the number.
      have hvalue := Nat.ofDigitChars_ten_toDigits (n := n / 10)
      rw [hzero] at hvalue
      have : n / 10 = 0 := hvalue.symm
      omega

/-- Digits are accumulated to the end, if the number they make up fits a word. -/
theorem accumulate_digits (ds : List Char) (n : Nat) (h : Nat.ofDigitChars 10 ds n < UInt64.size) :
    accumulate n ds = (Nat.ofDigitChars 10 ds n, []) := by
  induction ds generalizing n with
  | nil => rfl
  | cons c ds ih =>
    have hnext : n * 10 + digitValue c = 10 * n + (c.toNat - '0'.toNat) := by
      rw [digitValue, Nat.mul_comm]
    rw [Nat.ofDigitChars_cons, ← hnext] at h ⊢
    -- Further digits make a number no smaller, so if all of it fits, so does each part.
    have hle : n * 10 + digitValue c ≤ Nat.ofDigitChars 10 ds (n * 10 + digitValue c) := by
      rw [Nat.ofDigitChars_eq_ofDigitChars_zero]
      apply Nat.le_add_right_of_le
      exact Nat.le_mul_of_pos_left _ (Nat.pow_pos (by decide))
    rw [accumulate, if_pos (Nat.lt_of_le_of_lt hle h), ih _ h]

theorem accumulate_number {n : Nat} (hn : n < UInt64.size) :
    accumulate 0 (Value.number n) = (n, []) := by
  have hvalue : Nat.ofDigitChars 10 (Value.number n) 0 = n := Nat.ofDigitChars_ten_toDigits
  rw [accumulate_digits _ 0 (by rwa [hvalue]), hvalue]

theorem takes_unsigned (h : EndsWord rest) {n : Nat} (hn : n < UInt64.size) :
    (unsigned false).Takes (Value.number n ++ rest) (.natural n.toUInt64) rest := by
  apply (takes_digits h n).bind
  rw [if_neg]
  · rw [accumulate_number hn]
    apply (Reader.takes_peek rest).bind
    split
    case h_1 hdot => exact absurd (h.goesOn_eq_false hdot) (by decide)
    case h_2 he => exact absurd (h.goesOn_eq_false he) (by decide)
    case h_3 he => exact absurd (h.goesOn_eq_false he) (by decide)
    case h_4 => exact takes_pure _ rest
  · -- A zero that more digits follow would be refused; but then it is not what is written.
    rintro ⟨hzero, hmore⟩
    exact hmore (number_of_head? n hzero)

/-- A whole number that fits 64 bits is read exactly. -/
theorem takes_number (h : EndsWord rest) {n : Nat} (hn : n < UInt64.size) :
    number.Takes (Value.number n ++ rest) (.natural n.toUInt64) rest := by
  apply (Reader.takes_peek _).bind
  rw [if_neg]
  · exact takes_unsigned h hn
  · obtain ⟨c, ds, hn, hc⟩ := number_eq_cons n
    rw [hn]
    intro hminus
    obtain rfl := Option.some.inj hminus
    cases hc

end StackMachine.Json
