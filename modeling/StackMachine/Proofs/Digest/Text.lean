import StackMachine.Digest.Text
import StackMachine.Proofs.Bytes.Hex

/-!
# Which texts are hashes

`Digest.Deciphered` says for each text what it is read as: a hash, if it consists of the 64 digits
of this hash, in either case; and else the first of three errors that applies. It counts characters
where the text is a hash and bytes where it is not, as the reader does for its errors.

Reading comes to just that (`Digest.ofHex_iff_deciphered`). In particular what is written for a hash
is read back.
-/

namespace StackMachine.Digest

open Hex (IsDigit IsDigitByte FirstInvalid utf8)

variable {s : String} {d : Digest}

/-- What a text is read as. -/
inductive Deciphered (s : String) : Except TextError Digest → Prop
  | hash {d : Digest} (hlength : s.toList.length = 64) (hdigits : ∀ c ∈ s.toList, IsDigit c)
    (hlower : s.toList.map Char.toLower = d.toHex.toList) : Deciphered s (.ok d)
  | oddLength (hodd : (utf8 s).length % 2 = 1) : Deciphered s (.error (.hex .oddLength))
  | invalidDigit {i : Nat} {b : UInt8} (heven : (utf8 s).length % 2 = 0)
    (hfirst : FirstInvalid (utf8 s) i b) : Deciphered s (.error (.hex (.invalidDigit b i)))
  | length {n : Nat} (hlength : (utf8 s).length = 2 * n) (hdigits : ∀ b ∈ utf8 s, IsDigitByte b)
    (hn : n ≠ 32) : Deciphered s (.error (.length n))

/-! ### The digits of a text -/

theorem decode_of_odd (hodd : (utf8 s).length % 2 = 1) : Hex.decode s = .error .oddLength := by
  rw [Hex.decode, Hex.decodeBytes]
  exact if_pos hodd

theorem decode_of_even (heven : (utf8 s).length % 2 = 0) :
    Hex.decode s = Hex.decodePairs 0 (utf8 s) := by
  rw [Hex.decode, Hex.decodeBytes]
  apply if_neg
  show (utf8 s).length % 2 ≠ 1
  omega

theorem decode_of_firstInvalid {i : Nat} {b : UInt8} (heven : (utf8 s).length % 2 = 0)
    (hfirst : FirstInvalid (utf8 s) i b) : Hex.decode s = .error (.invalidDigit b i) := by
  rw [decode_of_even heven, Hex.decodePairs_of_firstInvalid _ 0 i heven hfirst, Nat.zero_add]

/-- An even number of digits stands for half as many bytes, whose digits are these in lower case. -/
theorem decode_of_digits (heven : (utf8 s).length % 2 = 0)
    (hdigits : ∀ b ∈ utf8 s, IsDigitByte b) :
    ∃ bytes, Hex.decode s = .ok bytes ∧ (utf8 s).length = 2 * bytes.length ∧
      bytes.flatMap Hex.encodeByte = s.toList.map Char.toLower := by
  obtain ⟨bytes, hbytes, hlength, hspelt⟩ := Hex.decodePairs_of_digits _ 0 heven hdigits
  refine ⟨bytes, ?_, hlength, ?_⟩
  · rw [decode_of_even heven, hbytes]
  · rw [hspelt, ← Hex.map_character_utf8 (Hex.forall_digitByte_iff.mp hdigits), List.map_map]
    rfl

/-! ### Hashes -/

theorem toList_toHex (d : Digest) : d.toHex.toList = d.toList.flatMap Hex.encodeByte :=
  String.toList_ofList

/-- A digit is one byte long. -/
theorem length_utf8 (hdigits : ∀ c ∈ s.toList, IsDigit c) :
    (utf8 s).length = s.toList.length := by
  rw [← Hex.map_character_utf8 hdigits, List.length_map]

theorem ofHex_of_error {cause : Hex.DecodeError} (h : Hex.decode s = .error cause) :
    ofHex s = .error (.hex cause) := by
  rw [ofHex, h]

theorem ofHex_of_ok {bytes : List UInt8} (h : Hex.decode s = .ok bytes)
    (hbytes : bytes.length = 32) : ofHex s = .ok ⟨bytes.toArray, hbytes⟩ := by
  rw [ofHex, h]
  exact dif_pos hbytes

theorem ofHex_of_length_ne {bytes : List UInt8} (h : Hex.decode s = .ok bytes)
    (hbytes : bytes.length ≠ 32) : ofHex s = .error (.length bytes.length) := by
  rw [ofHex, h]
  exact dif_neg hbytes

/-- A text is read as what it is. -/
theorem deciphered_ofHex (s : String) : Deciphered s (ofHex s) := by
  -- The order of the questions is that of the reader: the length, the digits, the number of bytes.
  by_cases hodd : (utf8 s).length % 2 = 1
  · rw [ofHex_of_error (decode_of_odd hodd)]
    exact .oddLength hodd
  have heven : (utf8 s).length % 2 = 0 := by omega
  rcases Hex.digits_or_firstInvalid (utf8 s) with hdigits | ⟨i, b, hfirst⟩
  · obtain ⟨bytes, hdecode, hlength, hspelt⟩ := decode_of_digits heven hdigits
    by_cases hbytes : bytes.length = 32
    · rw [ofHex_of_ok hdecode hbytes]
      have hcharacters := Hex.forall_digitByte_iff.mp hdigits
      apply Deciphered.hash
      · rw [← length_utf8 hcharacters, hlength, hbytes]
      · exact hcharacters
      · rw [toList_toHex, ← hspelt]
        rfl
    · rw [ofHex_of_length_ne hdecode hbytes]
      exact .length hlength hdigits hbytes
  · rw [ofHex_of_error (decode_of_firstInvalid heven hfirst)]
    exact .invalidDigit heven hfirst

/-- A text is read as nothing else. -/
theorem Deciphered.ofHex_eq {r : Except TextError Digest} (h : Deciphered s r) : ofHex s = r := by
  cases h with
  | @hash d hlength hdigits hlower =>
    have hutf8 := length_utf8 hdigits
    obtain ⟨bytes, hdecode, hbytes, hspelt⟩ :=
      decode_of_digits (by omega) (Hex.forall_digitByte_iff.mpr hdigits)
    -- The digits in lower case are those of the hash, so the bytes are its bytes.
    rw [hlower, toList_toHex] at hspelt
    obtain rfl := Hex.flatMap_encodeByte_inj hspelt
    rw [ofHex_of_ok hdecode (by omega)]
    rfl
  | oddLength hodd => exact ofHex_of_error (decode_of_odd hodd)
  | invalidDigit heven hfirst => exact ofHex_of_error (decode_of_firstInvalid heven hfirst)
  | @length n hlength hdigits hn =>
    obtain ⟨bytes, hdecode, hbytes, -⟩ := decode_of_digits (by omega) hdigits
    -- Both are half the number of bytes of the text.
    obtain rfl : n = bytes.length := by omega
    exact ofHex_of_length_ne hdecode hn

/-- What is written for a hash. -/
theorem deciphered_toHex (d : Digest) : Deciphered d.toHex (.ok d) := by
  have hmem : ∀ c ∈ d.toHex.toList, IsDigit c ∧ c.toLower = c := by
    rw [toList_toHex]
    intro c hc
    exact Hex.mem_flatMap_encodeByte hc
  apply Deciphered.hash
  · rw [toList_toHex, Hex.length_flatMap_encodeByte, Vector.length_toList]
  · intro c hc
    exact (hmem c hc).1
  · rw [List.map_congr_left fun c hc => (hmem c hc).2, List.map_id']

/-- What is written for a hash is read back. -/
theorem ofHex_toHex (d : Digest) : ofHex d.toHex = .ok d := (deciphered_toHex d).ofHex_eq

/-- **A text is read as a hash exactly if it consists of 64 hexadecimal digits, and then as the hash
that is written with these digits in lower case.** So what is written for a hash is read back as
this hash. Any other text is reported for the number of its bytes, if this is odd; else for its
first byte that is no digit; else for the number of bytes that its digits stand for. -/
theorem ofHex_iff_deciphered :
    (∀ (s : String) (d : Digest), ofHex s = .ok d ↔
      s.toList.length = 64 ∧ (∀ c ∈ s.toList, IsDigit c) ∧
        s.toList.map Char.toLower = d.toHex.toList) ∧
    (∀ d : Digest, ofHex d.toHex = .ok d) ∧
    (∀ (s : String) (r : Except TextError Digest), ofHex s = r ↔ Deciphered s r) ∧
    TextError.message (.hex .oddLength) = "Odd number of digits" ∧
    (∀ (b : UInt8) (i : Nat), TextError.message (.hex (.invalidDigit b i)) =
      "Invalid character " ++ Quoted.char (Hex.character b) ++ " at position " ++ toString i) ∧
    ∀ n : Nat, TextError.message (.length n) = "expected 32 bytes, got " ++ toString n := by
  have hiff (s : String) (r : Except TextError Digest) : ofHex s = r ↔ Deciphered s r := by
    constructor
    · rintro rfl
      exact deciphered_ofHex s
    · exact Deciphered.ofHex_eq
  refine ⟨?_, ofHex_toHex, hiff, rfl, fun _ _ => rfl, fun _ => rfl⟩
  intro s d
  rw [hiff]
  constructor
  · rintro ⟨hlength, hdigits, hlower⟩
    exact ⟨hlength, hdigits, hlower⟩
  · rintro ⟨hlength, hdigits, hlower⟩
    exact .hash hlength hdigits hlower

/-- Two characters of three bytes each make the number of bytes even, and the first byte of them is
reported by its position. -/
example : ofHex "ab\u20ac\u20ac" = .error (.hex (.invalidDigit 0xe2 2)) := by
  rfl

end StackMachine.Digest
