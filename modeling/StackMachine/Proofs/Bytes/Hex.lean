import StackMachine.Bytes.Hex

/-!
# Reading hexadecimal text

What the bytes of a text come to when they are read as pairs of digits. If all of them are digits,
reading gives bytes whose digits are those of the text in lower case (`decodePairs_of_digits`). If
not, reading stops at the first byte that is none, wherever it stands in its pair
(`decodePairs_of_firstInvalid`). One of the two is the case (`digits_or_firstInvalid`).

Digits are ASCII, and in UTF-8 no other character has ASCII bytes. So a text whose bytes are digits
is a text whose characters are (`forall_digitByte_iff`).
-/

namespace StackMachine.Hex

/-! ### Digits -/

/-- A hexadecimal digit of either case. -/
def IsDigit (c : Char) : Prop := c ∈ "0123456789abcdefABCDEF".toList

instance (c : Char) : Decidable (IsDigit c) := inferInstanceAs (Decidable (c ∈ _))

def character (b : UInt8) : Char := Char.ofNat b.toNat

def IsDigitByte (b : UInt8) : Prop := IsDigit (character b)

instance (b : UInt8) : Decidable (IsDigitByte b) := inferInstanceAs (Decidable (IsDigit _))

/-- A byte has no value exactly if it is no digit. -/
theorem value?_eq_none_iff {b : UInt8} : value? b = none ↔ ¬ IsDigitByte b := by
  -- A statement about all bytes, so it can be computed.
  have hall : ∀ n < 256, value? (.ofNat n) = none ↔ ¬ IsDigitByte (.ofNat n) := by
    decide +kernel
  have hb := hall b.toNat b.toNat_lt
  rwa [UInt8.ofNat_toNat] at hb

/-- The value of a digit is a number whose digit is this one in lower case. -/
theorem digit_of_value? {b v : UInt8} (h : value? b = some v) :
    v.toNat < 16 ∧ digit v.toNat = (character b).toLower := by
  have hall : ∀ n < 256, ∀ v ∈ value? (.ofNat n),
      v.toNat < 16 ∧ digit v.toNat = (character (.ofNat n)).toLower := by
    decide +kernel
  have hb := hall b.toNat b.toNat_lt v
  rw [UInt8.ofNat_toNat] at hb
  exact hb h

/-- A digit has a value at any position. -/
theorem valueAt_of_digit {b : UInt8} (hb : IsDigitByte b) (position : Nat) :
    ∃ v, valueAt position b = .ok v ∧ v.toNat < 16 ∧ digit v.toNat = (character b).toLower := by
  cases hvalue : value? b with
  | none => exact absurd hb (value?_eq_none_iff.mp hvalue)
  | some v =>
    refine ⟨v, ?_, digit_of_value? hvalue⟩
    rw [valueAt, hvalue]

/-- Anything else is an error, which names the position. -/
theorem valueAt_of_not_digit {b : UInt8} (hb : ¬ IsDigitByte b) (position : Nat) :
    valueAt position b = .error (.invalidDigit b position) := by
  rw [valueAt, value?_eq_none_iff.mpr hb]

/-- Two halves make the byte with these two digits. -/
theorem encodeByte_halves {h l : UInt8} (hh : h.toNat < 16) (hl : l.toNat < 16) :
    encodeByte (h * 16 + l) = [digit h.toNat, digit l.toNat] := by
  have hbyte : (h * 16 + l).toNat = h.toNat * 16 + l.toNat := by
    rw [UInt8.toNat_add, UInt8.toNat_mul]
    show (h.toNat * 16 % 256 + l.toNat) % 256 = h.toNat * 16 + l.toNat
    omega
  rw [encodeByte, hbyte]
  congr 2
  · omega
  · congr 1
    omega

/-! ### Pairs of digits -/

variable {text : List UInt8} {b c : UInt8} {i : Nat}

/-- The first byte that is no digit, and where it stands. -/
def FirstInvalid (text : List UInt8) (i : Nat) (b : UInt8) : Prop :=
  text[i]? = some b ∧ ¬ IsDigitByte b ∧ ∀ c ∈ text.take i, IsDigitByte c

theorem firstInvalid_cons_zero : FirstInvalid (c :: text) 0 b ↔ c = b ∧ ¬ IsDigitByte b := by
  simp [FirstInvalid]

theorem firstInvalid_cons_succ :
    FirstInvalid (c :: text) (i + 1) b ↔ IsDigitByte c ∧ FirstInvalid text i b := by
  simp only [FirstInvalid, List.getElem?_cons_succ, List.take_succ_cons, List.forall_mem_cons]
  constructor
  · rintro ⟨hb, hinvalid, hc, hbefore⟩
    exact ⟨hc, hb, hinvalid, hbefore⟩
  · rintro ⟨hc, hb, hinvalid, hbefore⟩
    exact ⟨hb, hinvalid, hc, hbefore⟩

/-- Either all bytes are digits or there is a first one that is none. -/
theorem digits_or_firstInvalid (text : List UInt8) :
    (∀ b ∈ text, IsDigitByte b) ∨ ∃ i b, FirstInvalid text i b := by
  induction text with
  | nil => exact .inl nofun
  | cons c text ih =>
    by_cases hc : IsDigitByte c
    · rcases ih with hrest | ⟨i, b, hfirst⟩
      · left
        exact List.forall_mem_cons.mpr ⟨hc, hrest⟩
      · right
        exact ⟨i + 1, b, firstInvalid_cons_succ.mpr ⟨hc, hfirst⟩⟩
    · right
      exact ⟨0, c, firstInvalid_cons_zero.mpr ⟨rfl, hc⟩⟩

/-- Digits in pairs are read as bytes, half as many, whose digits they are in lower case. -/
theorem decodePairs_of_digits : ∀ (text : List UInt8) (position : Nat),
    text.length % 2 = 0 → (∀ b ∈ text, IsDigitByte b) →
    ∃ bytes, decodePairs position text = .ok bytes ∧ text.length = 2 * bytes.length ∧
      bytes.flatMap encodeByte = text.map fun b => (character b).toLower
  | [], position, _, _ => ⟨[], rfl, rfl, rfl⟩
  | [_], position, heven, _ => by cases heven
  | hi :: lo :: rest, position, heven, hdigits => by
    rw [List.forall_mem_cons, List.forall_mem_cons] at hdigits
    obtain ⟨hhi, hlo, hrest⟩ := hdigits
    obtain ⟨h, hh, hhalf, hdigit⟩ := valueAt_of_digit hhi position
    obtain ⟨l, hl, hhalf', hdigit'⟩ := valueAt_of_digit hlo (position + 1)
    rw [List.length_cons, List.length_cons] at heven
    obtain ⟨bytes, hbytes, hlength, hspelt⟩ :=
      decodePairs_of_digits rest (position + 2) (by omega) hrest
    refine ⟨(h * 16 + l) :: bytes, ?_, ?_, ?_⟩
    · rw [decodePairs, hh, hl, hbytes]
      rfl
    · rw [List.length_cons, List.length_cons, List.length_cons, hlength]
      omega
    · rw [List.flatMap_cons, encodeByte_halves hhalf hhalf', hspelt, hdigit, hdigit']
      rfl

/-- Of a pair the first digit is looked at before the second one, and both before the rest. -/
theorem decodePairs_of_firstInvalid : ∀ (text : List UInt8) (position i : Nat),
    text.length % 2 = 0 → FirstInvalid text i b →
    decodePairs position text = .error (.invalidDigit b (position + i))
  | [], position, i, _, h => by simp [FirstInvalid] at h
  | [_], position, i, heven, _ => by cases heven
  | hi :: lo :: rest, position, 0, _, h => by
    obtain ⟨rfl, hinvalid⟩ := firstInvalid_cons_zero.mp h
    -- The pair fails at its first digit, so the second one is not looked at.
    rw [decodePairs, valueAt_of_not_digit hinvalid]
    rfl
  | hi :: lo :: rest, position, 1, _, h => by
    obtain ⟨hhi, hsecond⟩ := firstInvalid_cons_succ.mp h
    obtain ⟨rfl, hinvalid⟩ := firstInvalid_cons_zero.mp hsecond
    obtain ⟨v, hv, -⟩ := valueAt_of_digit hhi position
    rw [decodePairs, hv, valueAt_of_not_digit hinvalid]
    rfl
  | hi :: lo :: rest, position, i + 2, heven, h => by
    obtain ⟨hhi, hsecond⟩ := firstInvalid_cons_succ.mp h
    obtain ⟨hlo, hrest⟩ := firstInvalid_cons_succ.mp hsecond
    obtain ⟨v, hv, -⟩ := valueAt_of_digit hhi position
    obtain ⟨w, hw, -⟩ := valueAt_of_digit hlo (position + 1)
    rw [List.length_cons, List.length_cons] at heven
    have hlater := decodePairs_of_firstInvalid rest (position + 2) i (by omega) hrest
    rw [decodePairs, hv, hw, hlater, Nat.add_right_comm, Nat.add_assoc]
    rfl

/-! ### Texts as bytes -/

def utf8 (s : String) : List UInt8 := s.toUTF8.data.toList

theorem utf8_eq_flatMap (s : String) : utf8 s = s.toList.flatMap String.utf8EncodeChar := by
  rw [utf8, String.toUTF8_eq_toByteArray, ← String.ofList_toList (s := s),
    String.toByteArray_ofList, String.toList_ofList]
  exact List.toList_data_toByteArray

theorem utf8EncodeChar_of_ascii {c : Char} (hc : c.toNat < 128) :
    String.utf8EncodeChar c = [.ofNat c.toNat] := by
  have hsize : c.utf8Size = 1 := by
    rw [Char.utf8Size_eq_one_iff, UInt32.le_iff_toNat_le]
    exact Nat.le_of_lt_succ hc
  rw [String.utf8EncodeChar_eq_singleton hsize]
  rfl

/-- A mark in the high bit keeps a byte out of ASCII. -/
theorem le_toNat_or (x : UInt8) {m : UInt8} (hm : 128 ≤ m.toNat) : 128 ≤ (x ||| m).toNat := by
  rw [UInt8.toNat_or]
  exact Nat.le_trans hm Nat.right_le_or

/-- The first byte of a character that is not ASCII is not ASCII either. -/
theorem exists_mem_utf8EncodeChar {c : Char} (hc : ¬ c.toNat < 128) :
    ∃ b ∈ String.utf8EncodeChar c, 128 ≤ b.toNat := by
  rcases Char.utf8Size_eq c with hsize | hsize | hsize | hsize
  · rw [Char.utf8Size_eq_one_iff, UInt32.le_iff_toNat_le] at hsize
    exact absurd (Nat.lt_succ_of_le hsize) hc
  · rw [String.utf8EncodeChar_eq_cons_cons hsize]
    exact ⟨_, List.mem_cons_self, le_toNat_or _ (by decide)⟩
  · rw [String.utf8EncodeChar_eq_cons_cons_cons hsize]
    exact ⟨_, List.mem_cons_self, le_toNat_or _ (by decide)⟩
  · rw [String.utf8EncodeChar_eq_cons_cons_cons_cons hsize]
    exact ⟨_, List.mem_cons_self, le_toNat_or _ (by decide)⟩

/-- Digits are ASCII. -/
theorem IsDigit.ascii {c : Char} (hc : IsDigit c) : c.toNat < 128 := by
  have hall : "0123456789abcdefABCDEF".toList.all (·.toNat < 128) = true := by
    decide +kernel
  exact of_decide_eq_true (List.all_eq_true.mp hall c hc)

theorem character_ofNat {c : Char} (hc : c.toNat < 128) : character (.ofNat c.toNat) = c := by
  rw [character, UInt8.toNat_ofNat_of_lt' (Nat.lt_trans hc (by decide)), Char.ofNat_toNat]

theorem IsDigitByte.ascii {b : UInt8} (hb : IsDigitByte b) : b.toNat < 128 := by
  have hall : ∀ n < 256, IsDigitByte (.ofNat n) → n < 128 := by
    decide +kernel
  apply hall b.toNat b.toNat_lt
  rwa [UInt8.ofNat_toNat]

/-- The bytes of a character are digits exactly if it is one. -/
theorem forall_utf8EncodeChar_iff {c : Char} :
    (∀ b ∈ String.utf8EncodeChar c, IsDigitByte b) ↔ IsDigit c := by
  -- An ASCII character is its only byte; any other has a byte that is not ASCII.
  by_cases hc : c.toNat < 128
  · rw [utf8EncodeChar_of_ascii hc, List.forall_mem_singleton, IsDigitByte, character_ofNat hc]
  · constructor
    · intro hdigits
      obtain ⟨b, hb, hhigh⟩ := exists_mem_utf8EncodeChar hc
      exact absurd (hdigits b hb).ascii (Nat.not_lt.mpr hhigh)
    · intro hdigit
      exact absurd hdigit.ascii hc

/-- The bytes of a text are digits exactly if its characters are. -/
theorem forall_digitByte_iff {s : String} :
    (∀ b ∈ utf8 s, IsDigitByte b) ↔ ∀ c ∈ s.toList, IsDigit c := by
  rw [utf8_eq_flatMap, List.forall_mem_flatMap]
  exact forall₂_congr fun c _ => forall_utf8EncodeChar_iff

/-- And then its bytes are its characters. -/
theorem map_character_utf8 {s : String} (hdigits : ∀ c ∈ s.toList, IsDigit c) :
    (utf8 s).map character = s.toList := by
  rw [utf8_eq_flatMap]
  -- The text itself plays no part any more, only its characters.
  generalize s.toList = cs at hdigits
  induction cs with
  | nil => rfl
  | cons c cs ih =>
    rw [List.forall_mem_cons] at hdigits
    have hc := hdigits.1.ascii
    rw [List.flatMap_cons, utf8EncodeChar_of_ascii hc, List.map_append, ih hdigits.2,
      List.map_singleton, character_ofNat hc, List.singleton_append]

/-! ### Writing -/

theorem digit_isDigit {n : Nat} (hn : n < 16) :
    IsDigit (digit n) ∧ (digit n).toLower = digit n := by
  have hall : ∀ n < 16, IsDigit (digit n) ∧ (digit n).toLower = digit n := by
    decide +kernel
  exact hall n hn

theorem digit_inj {m n : Nat} (hm : m < 16) (hn : n < 16) (h : digit m = digit n) : m = n := by
  have hall : ∀ m < 16, ∀ n < 16, digit m = digit n → m = n := by
    decide +kernel
  exact hall m hm n hn h

/-- What is written is made of digits in lower case. -/
theorem mem_flatMap_encodeByte {bytes : List UInt8} {c : Char}
    (hc : c ∈ bytes.flatMap encodeByte) : IsDigit c ∧ c.toLower = c := by
  obtain ⟨b, -, hb⟩ := List.mem_flatMap.mp hc
  have hbyte := b.toNat_lt
  simp only [encodeByte, List.mem_cons, List.not_mem_nil, or_false] at hb
  rcases hb with rfl | rfl
  · exact digit_isDigit (by omega)
  · exact digit_isDigit (by omega)

theorem length_flatMap_encodeByte (bytes : List UInt8) :
    (bytes.flatMap encodeByte).length = 2 * bytes.length := by
  induction bytes with
  | nil => rfl
  | cons b bytes ih =>
    rw [List.flatMap_cons, List.length_append, ih, List.length_cons, Nat.mul_succ, Nat.add_comm]
    rfl

/-- The digits of bytes tell which bytes they are. -/
theorem flatMap_encodeByte_inj : ∀ {bytes others : List UInt8},
    bytes.flatMap encodeByte = others.flatMap encodeByte → bytes = others
  | [], [], _ => rfl
  | [], _ :: _, h => by cases h
  | _ :: _, [], h => by cases h
  | b :: bytes, c :: others, h => by
    simp only [List.flatMap_cons, encodeByte, List.cons_append, List.nil_append,
      List.cons.injEq] at h
    obtain ⟨hhigh, hlow, hrest⟩ := h
    have hb := b.toNat_lt
    have hc := c.toNat_lt
    -- The two digits of a byte are its quotient and its remainder by sixteen.
    have hdiv := digit_inj (by omega) (by omega) hhigh
    have hmod := digit_inj (by omega) (by omega) hlow
    have hsame : b = c := UInt8.toNat_inj.mp (by omega)
    rw [hsame, flatMap_encodeByte_inj hrest]

end StackMachine.Hex
