import Mathlib
import StackMachine.Proofs.Machine.Dispatch

/-!
# The texts that select a kind

A text selects a kind exactly if folding each of its characters gives the name of the kind
(`Backend.ofText?_eq_some_iff`). Folding takes every character to one character, so a text that is
longer or shorter than a name does not select it; and no two names begin or end alike, so a text
selects one kind at most, in whichever order the kinds are tried.

`Backend.foldCase` says what folding is without asking whether a character folds onto ASCII at all,
which is what `Backend.fold?` has to decide. On names the two agree, because names are ASCII.
-/

namespace StackMachine

namespace Backend

/-! ### Folding -/

/-- Simple case folding onto ASCII. Besides the upper-case letters of ASCII only the long s and the
Kelvin sign are changed. -/
def foldCase (c : Char) : Char :=
  if c = '\u017f' then 's' else if c = '\u212a' then 'k' else c.toLower

theorem toLower_of_not_ascii {c : Char} (hc : ¬ c.toNat < 0x80) : c.toLower = c := by
  apply Char.toLower_eq_of_not_isUpper
  intro hupper
  simp [Char.isUpper, UInt32.le_iff_toNat_le] at hupper
  omega

/-- Onto characters of ASCII, the two ways of folding agree. -/
theorem fold?_eq_some_iff {c d : Char} (hd : d.toNat < 0x80) :
    fold? c = some d ↔ foldCase c = d := by
  unfold fold? foldCase
  -- The two characters that are not ASCII and fold onto it come first.
  by_cases hkelvin : c = '\u212a'
  · subst hkelvin
    rw [if_pos rfl, if_neg (by decide), if_pos rfl, Option.some_inj]
  rw [if_neg hkelvin, if_neg hkelvin]
  by_cases hlong : c = '\u017f'
  · rw [if_pos hlong, if_pos hlong, Option.some_inj]
  rw [if_neg hlong, if_neg hlong]
  by_cases hc : c.toNat < 0x80
  · rw [if_pos hc, Option.some_inj]
  · rw [if_neg hc, toLower_of_not_ascii hc]
    constructor
    · exact nofun
    · rintro rfl
      exact absurd hd hc

/-- Folding does not see the case of letters. -/
theorem foldCase_of_isAlpha {c : Char} (hc : c.isAlpha = true) : foldCase c = c.toLower := by
  unfold foldCase
  rw [if_neg, if_neg]
  · rintro rfl
    revert hc
    decide
  · rintro rfl
    revert hc
    decide

theorem foldCase_toLower (c : Char) : foldCase c.toLower = foldCase c := by
  by_cases hc : c.isAlpha = true
  · rw [foldCase_of_isAlpha hc, foldCase_of_isAlpha (by simpa using hc),
      Char.toLower_toLower_eq_toLower]
  · rw [Char.toLower_eq_of_not_isUpper]
    intro hupper
    exact hc (by simp [Char.isAlpha, hupper])

theorem foldCase_toUpper (c : Char) : foldCase c.toUpper = foldCase c := by
  by_cases hc : c.isAlpha = true
  · rw [foldCase_of_isAlpha hc, foldCase_of_isAlpha (by simpa using hc),
      Char.toLower_toUpper_eq_toLower]
  · rw [Char.toUpper_eq_of_not_isLower]
    intro hlower
    exact hc (by simp [Char.isAlpha, hlower])

/-- A letter of ASCII in the same or in the other case, and else the same character. -/
def SameLetter (c d : Char) : Prop := d = c ∨ d = c.toLower ∨ d = c.toUpper

instance (c d : Char) : Decidable (SameLetter c d) :=
  inferInstanceAs (Decidable (_ ∨ _ ∨ _))

theorem SameLetter.foldCase_eq {c d : Char} (h : SameLetter c d) : foldCase d = foldCase c := by
  rcases h with rfl | rfl | rfl
  · rfl
  · exact foldCase_toLower c
  · exact foldCase_toUpper c

theorem map_foldCase_eq {cs ds : List Char} (h : List.Forall₂ SameLetter cs ds) :
    ds.map foldCase = cs.map foldCase := by
  induction h with
  | nil => rfl
  | cons hsame _ ih => rw [List.map_cons, List.map_cons, hsame.foldCase_eq, ih]

/-! ### Names -/

/-- Names are ASCII. -/
theorem ascii_of_mem_name (kind : Backend) : ∀ d ∈ kind.name.toList, d.toNat < 0x80 := by
  cases kind <;> simp [name]

/-- No two names begin alike. -/
theorem eq_of_head? {a b : Backend} (h : a.name.toList.head? = b.name.toList.head?) : a = b := by
  cases a <;> cases b <;> first | rfl | exact absurd h (by decide)

/-- No two names end alike. -/
theorem eq_of_getLast? {a b : Backend}
    (h : a.name.toList.getLast? = b.name.toList.getLast?) : a = b := by
  cases a <;> cases b <;> first | rfl | exact absurd h (by decide)

theorem name_ne_nil (kind : Backend) : kind.name.toList ≠ [] := by
  cases kind <;> decide

/-- Character by character, a text folds onto a name of ASCII in both ways or in neither. -/
theorem map_fold?_eq_iff {text name : List Char} (hname : ∀ d ∈ name, d.toNat < 0x80) :
    text.map fold? = name.map some ↔ text.map foldCase = name := by
  induction text generalizing name with
  | nil => cases name <;> simp
  | cons c text ih =>
    cases name with
    | nil => simp
    | cons d name =>
      rw [List.forall_mem_cons] at hname
      simp only [List.map_cons, List.cons.injEq, fold?_eq_some_iff hname.1, ih hname.2]

theorem matchesName_iff {text : String} {kind : Backend} :
    matchesName text kind.name = true ↔ text.toList.map foldCase = kind.name.toList := by
  unfold matchesName
  rw [decide_eq_true_iff]
  exact map_fold?_eq_iff kind.ascii_of_mem_name

/-- A text that matches two names would begin like both. -/
theorem eq_of_matchesName {text : String} {a b : Backend} (ha : matchesName text a.name = true)
    (hb : matchesName text b.name = true) : a = b := by
  rw [matchesName_iff] at ha hb
  apply eq_of_head?
  rw [← ha, ← hb]

/-! ### Selection -/

/-- The first of some kinds that a text matches the name of. -/
def firstMatch (kinds : List Backend) (text : String) : Option Backend :=
  kinds.find? fun kind => matchesName text kind.name

/-- Trying the kinds in any order finds the one whose name the text folds to. -/
theorem firstMatch_eq_some_iff {kinds : List Backend} (hkinds : ∀ kind, kind ∈ kinds)
    {text : String} {kind : Backend} :
    firstMatch kinds text = some kind ↔ text.toList.map foldCase = kind.name.toList := by
  have hmatches {found : Backend} (hfound : firstMatch kinds text = some found) :
      matchesName text found.name = true :=
    List.find?_some (p := fun kind : Backend => matchesName text kind.name) hfound
  rw [← matchesName_iff]
  constructor
  · exact hmatches
  · intro hkind
    cases hfound : firstMatch kinds text with
    | none => exact absurd hkind (List.find?_eq_none.mp hfound kind (hkinds kind))
    | some found => rw [eq_of_matchesName hkind (hmatches hfound)]

theorem mem_all (kind : Backend) : kind ∈ all := by
  cases kind <;> decide

theorem ofText?_eq_some_iff {text : String} {kind : Backend} :
    ofText? text = some kind ↔ text.toList.map foldCase = kind.name.toList :=
  firstMatch_eq_some_iff mem_all

/-- A text is refused exactly if it folds to no name. -/
theorem ofText?_eq_none_iff {text : String} :
    ofText? text = none ↔ ∀ kind : Backend, text.toList.map foldCase ≠ kind.name.toList := by
  rw [Option.eq_none_iff_forall_ne_some]
  exact forall_congr' fun kind => not_congr ofText?_eq_some_iff

/-- More characters at either end of a text that selects a kind make it one that selects none. -/
theorem ofText?_append {text more : String} {kind : Backend} (h : ofText? text = some kind)
    (hmore : more ≠ "") : ofText? (text ++ more) = none ∧ ofText? (more ++ text) = none := by
  rw [ofText?_eq_some_iff] at h
  have hlength : more.toList.length ≠ 0 := by simpa using hmore
  constructor
  · rw [ofText?_eq_none_iff]
    intro other hother
    rw [String.toList_append, List.map_append, h] at hother
    -- No name is empty, so what comes after one leaves its first character in front.
    have hhead := congrArg List.head? hother
    rw [List.head?_append_of_ne_nil _ kind.name_ne_nil] at hhead
    obtain rfl := eq_of_head? hhead
    have hsame := congrArg List.length hother
    rw [List.length_append, List.length_map] at hsame
    omega
  · rw [ofText?_eq_none_iff]
    intro other hother
    rw [String.toList_append, List.map_append, h] at hother
    -- With the characters in front, the same from the other end.
    have hlast := congrArg List.getLast? hother
    rw [List.getLast?_append_of_ne_nil _ kind.name_ne_nil] at hlast
    obtain rfl := eq_of_getLast? hlast
    have hsame := congrArg List.length hother
    rw [List.length_append, List.length_map] at hsame
    omega

end Backend

namespace Loader

variable {σ μ : Type} {mw : Meanwhile}

/-- What a constructor fails with is told apart from a text that is refused. -/
theorem mapError_backend_ne (outcome : Except Failure μ) (text : String) :
    outcome.mapError LoaderFailure.backend ≠ .error (.unrecognized text) := by
  cases outcome <;> simp [Except.mapError]

/-- A request is refused for its text only if the text selects no kind, and then with this text. -/
theorem load_eq_unrecognized_iff (loader : Loader (StateT σ Action) μ) (s : σ) (w : World)
    (path : String) (warn : Bool) {text refused : String} :
    (((loader.load path warn text).run.run s).perform mw w).1.1 =
        .error (.unrecognized refused) ↔
      refused = text ∧ Backend.ofText? text = none := by
  show (((loader.serve (.byText path warn text)).run.run s).perform mw w).1.1 = _ ↔ _
  cases hkind : Backend.ofText? text with
  | none =>
    rw [serve_perform_of_none loader s w path warn hkind]
    simp [eq_comm]
  | some kind =>
    have hrequest : (Request.byText path warn text).kind? = some kind := hkind
    rw [serve_perform_of_some loader s w hrequest]
    constructor
    · intro hrefused
      exact absurd hrefused (mapError_backend_ne _ refused)
    · rintro ⟨-, hnone⟩
      cases hnone

end Loader

namespace Backend

/-- **A text selects a kind exactly if it folds to the name of the kind.** No text matches two
names, so the order in which the kinds are tried does not matter. Any loader refuses every other
text, with this text as it is, and refuses no text that folds to a name; among the texts that it
refuses are those with a character too many, before or behind a text that it accepts. And a text
with some of its letters in the other case selects what the text itself selects. -/
theorem selected_by_folding :
    (∀ (text : String) (kind : Backend),
      ofText? text = some kind ↔ text.toList.map foldCase = kind.name.toList) ∧
    (∀ (text : String) (a b : Backend),
      matchesName text a.name = true → matchesName text b.name = true → a = b) ∧
    (∀ kinds : List Backend, (∀ kind, kind ∈ kinds) →
      ∀ text, firstMatch kinds text = ofText? text) ∧
    (∀ (σ μ : Type) (loader : Loader (StateT σ Action) μ) (mw : Meanwhile) (s : σ) (w : World)
      (path : String) (warn : Bool) (text refused : String),
      (((loader.load path warn text).run.run s).perform mw w).1.1 =
          .error (.unrecognized refused) ↔
        refused = text ∧ ∀ kind : Backend, text.toList.map foldCase ≠ kind.name.toList) ∧
    (∀ (text more : String) (kind : Backend), ofText? text = some kind → more ≠ "" →
      ofText? (text ++ more) = none ∧ ofText? (more ++ text) = none) ∧
    ∀ text other : String, List.Forall₂ SameLetter text.toList other.toList →
      ofText? other = ofText? text := by
  refine ⟨fun _ _ => ofText?_eq_some_iff, fun _ _ _ => eq_of_matchesName, ?_, ?_,
    fun _ _ _ => ofText?_append, ?_⟩
  · intro kinds hkinds text
    apply Option.ext
    intro kind
    rw [firstMatch_eq_some_iff hkinds, ofText?_eq_some_iff]
  · intro σ μ loader mw s w path warn text refused
    rw [Loader.load_eq_unrecognized_iff, ofText?_eq_none_iff]
  · intro text other hsame
    apply Option.ext
    intro kind
    rw [ofText?_eq_some_iff, ofText?_eq_some_iff, map_foldCase_eq hsame]

/-- A long s in the middle of a name: in either case around it, with one letter more at the end, and
with the kinds tried in the opposite order. -/
theorem selected_by_folding_long_s :
    let text := "te\u017ft"
    let other := "TE\u017fT"
    let kinds : List Backend := [instrumented, native, reference]
    ofText? text = some instrumented ∧ ofText? other = some instrumented ∧
      ofText? (text ++ "s") = none ∧ firstMatch kinds text = some instrumented ∧
      matchesName text instrumented.name = true ∧
      ∀ kind : Backend, matchesName text kind.name = true → kind = instrumented := by
  intro text other kinds
  obtain ⟨hselects, hone, horder, -, hmore, hcase⟩ := selected_by_folding
  have htext : ofText? text = some instrumented := (hselects text instrumented).mpr (by decide)
  have hsame : List.Forall₂ SameLetter text.toList other.toList := by decide
  have hkinds : ∀ kind, kind ∈ kinds := by
    intro kind
    cases kind <;> decide
  have hmatches : matchesName text instrumented.name = true := by decide
  refine ⟨htext, (hcase text other hsame).trans htext, (hmore text "s" _ htext (by decide)).1,
    (horder kinds hkinds text).trans htext, hmatches, ?_⟩
  intro kind hkind
  exact hone text kind instrumented hkind hmatches

end Backend

end StackMachine
