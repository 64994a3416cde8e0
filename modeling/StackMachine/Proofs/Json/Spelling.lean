import StackMachine.Json.Lexis
import StackMachine.Json.Value

/-!
# The texts of a JSON value

`Spelt v cs` says that `cs` is a text of the value `v`: its words in order, with any blanks between
them. Strings and numbers have one text each, the one that is written for them.

Both layouts write texts of their value (`Value.spelt_compactChars`, `Value.spelt_prettyChars`), so
what a reader makes of a layout follows from what it makes of every text.
-/

namespace StackMachine.Json

def Blanks (w : List Char) : Prop := ∀ c ∈ w, isBlank c = true

section

variable {α : Type}

/-- The rest of a list or an object after one of its items: its closing bracket, or a comma and one
more item. -/
inductive After (item : α → List Char → Prop) (close : Char) : List α → List Char → Prop
  | close {w : List Char} (hw : Blanks w) : After item close [] (w ++ [close])
  | comma {a : α} {as : List α} {w w' cs ds : List Char} (hw : Blanks w) (hw' : Blanks w')
      (ha : item a cs) (h : After item close as ds) :
      After item close (a :: as) (w ++ ',' :: (w' ++ (cs ++ ds)))

/-- The items of a list or an object after its opening bracket. -/
inductive Sequence (item : α → List Char → Prop) (close : Char) : List α → List Char → Prop
  | empty {w : List Char} (hw : Blanks w) : Sequence item close [] (w ++ [close])
  | first {a : α} {as : List α} {w cs ds : List Char} (hw : Blanks w) (ha : item a cs)
      (h : After item close as ds) : Sequence item close (a :: as) (w ++ (cs ++ ds))

inductive Member (value : α → List Char → Prop) : String × α → List Char → Prop
  | colon {k : String} {a : α} {w w' cs : List Char} (hw : Blanks w) (hw' : Blanks w')
      (ha : value a cs) : Member value (k, a) (Value.quote k ++ (w ++ ':' :: (w' ++ cs)))

end

inductive Spelt : Value → List Char → Prop
  | string (s : String) : Spelt (.string s) (Value.quote s)
  | natural (n : Nat) : Spelt (.natural n) (Value.number n)
  | list {items : List Value} {cs : List Char} (h : Sequence Spelt ']' items cs) :
      Spelt (.list items) ('[' :: cs)
  | object {members : List (String × Value)} {cs : List Char}
      (h : Sequence (Member Spelt) '}' members cs) : Spelt (.object members) ('{' :: cs)

/-! ### Blanks -/

theorem blanks_nil : Blanks [] := by
  intro c hc
  cases hc

theorem blanks_blank : Blanks [' '] := by
  simp [Blanks, isBlank]

theorem blanks_newline (depth : Nat) : Blanks (Value.newline depth) := by
  intro c hc
  rw [Value.newline, List.mem_cons] at hc
  rcases hc with rfl | hc
  · rfl
  · obtain rfl := List.eq_of_mem_replicate hc
    rfl

/-! ### Items with the same blanks around each of them -/

section

variable {α : Type} {item : α → List Char → Prop} {text : α → List Char} {w w' : List Char}

/-- Items with a comma before each of them are what follows a first item. -/
theorem after_flatMap (close : Char) (hw : Blanks w) (hw' : Blanks w') (as : List α)
    (has : ∀ a ∈ as, item a (text a)) :
    After item close as (as.flatMap (fun a => ',' :: (w ++ text a)) ++ (w' ++ [close])) := by
  induction as with
  | nil => exact .close hw'
  | cons a as ih =>
    have := After.comma blanks_nil hw (has a List.mem_cons_self)
      (ih fun b hb => has b (List.mem_cons_of_mem a hb))
    simpa using this

/-- With one item in front, the same is all that stands between the brackets. -/
theorem sequence_flatMap (close : Char) (hw : Blanks w) (hw' : Blanks w') {a : α} {as : List α}
    (has : ∀ b ∈ a :: as, item b (text b)) :
    Sequence item close (a :: as)
      (w ++ (text a ++ (as.flatMap (fun a => ',' :: (w ++ text a)) ++ (w' ++ [close])))) := by
  apply Sequence.first hw (has a List.mem_cons_self)
  exact after_flatMap close hw hw' as fun b hb => has b (List.mem_cons_of_mem a hb)

end

/-! ### Layouts -/

namespace Value

/-- What holds of strings and numbers, and of lists and objects if it holds of all that is inside
them, holds of every value. -/
theorem induction {P : Value → Prop} (string : ∀ s, P (.string s)) (natural : ∀ n, P (.natural n))
    (list : ∀ items, (∀ v ∈ items, P v) → P (.list items))
    (object : ∀ members, (∀ m ∈ members, P m.2) → P (.object members)) : ∀ v, P v
  | .string s => string s
  | .natural n => natural n
  | .list items => list items fun v _ => induction string natural list object v
  | .object members => object members fun m _ => induction string natural list object m.2
termination_by v => sizeOf v
decreasing_by
  · -- An item is smaller than its list, and a value in an object smaller than the object.
    have := List.sizeOf_lt_of_mem ‹v ∈ items›
    simp only [Value.list.sizeOf_spec]
    omega
  · have := List.sizeOf_lt_of_mem ‹m ∈ members›
    cases m
    simp only [Value.object.sizeOf_spec, Prod.mk.sizeOf_spec] at *
    omega

theorem compactItems_cons (v : Value) (items : List Value) :
    compactItems (v :: items) = v.compactChars ++ items.flatMap fun v => ',' :: v.compactChars := by
  induction items generalizing v with
  | nil => simp [compactItems]
  | cons u items ih => simp [compactItems, ih]

def compactMember (m : String × Value) : List Char := quote m.1 ++ ':' :: m.2.compactChars

theorem compactMembers_cons (m : String × Value) (members : List (String × Value)) :
    compactMembers (m :: members) =
      compactMember m ++ members.flatMap fun m => ',' :: compactMember m := by
  induction members generalizing m with
  | nil => simp [compactMembers, compactMember]
  | cons n members ih => simp [compactMembers, compactMember, ih]

def prettyMember (depth : Nat) (m : String × Value) : List Char :=
  quote m.1 ++ ':' :: ' ' :: m.2.prettyChars depth

theorem prettyItems_eq (depth : Nat) (items : List Value) :
    prettyItems depth items =
      items.flatMap fun v => ',' :: (newline depth ++ v.prettyChars depth) := by
  induction items with
  | nil => rfl
  | cons v items ih => simp [prettyItems, ih]

theorem prettyMembers_eq (depth : Nat) (members : List (String × Value)) :
    prettyMembers depth members =
      members.flatMap fun m => ',' :: (newline depth ++ prettyMember depth m) := by
  induction members with
  | nil => rfl
  | cons m members ih => simp [prettyMembers, prettyMember, ih]

/-- The compact layout is a text of its value, with nothing between the words. -/
theorem spelt_compactChars (v : Value) : Spelt v v.compactChars := by
  induction v using Value.induction with
  | string s => exact .string s
  | natural n => exact .natural n
  | list items ih =>
    rw [compactChars]
    apply Spelt.list
    cases items with
    | nil => exact .empty blanks_nil
    | cons v items =>
      have := sequence_flatMap ']' blanks_nil blanks_nil ih
      simpa [compactItems_cons] using this
  | object members ih =>
    rw [compactChars]
    apply Spelt.object
    cases members with
    | nil => exact .empty blanks_nil
    | cons m members =>
      have hmember (n : String × Value) (hn : n ∈ m :: members) :
          Member Spelt n (compactMember n) :=
        .colon blanks_nil blanks_nil (ih n hn)
      have := sequence_flatMap '}' blanks_nil blanks_nil hmember
      simpa [compactMembers_cons] using this

/-- So is the pretty layout, with line breaks around items and a blank after each colon. The depth is
that of the value in the whole text. -/
theorem spelt_prettyChars (v : Value) (depth : Nat) : Spelt v (v.prettyChars depth) := by
  -- Items are laid out one level deeper than what they are in.
  induction v using Value.induction generalizing depth with
  | string s => exact .string s
  | natural n => exact .natural n
  | list items ih =>
    cases items with
    | nil => exact .list (.empty blanks_nil)
    | cons v items =>
      rw [prettyChars]
      apply Spelt.list
      have := sequence_flatMap ']' (blanks_newline (depth + 1)) (blanks_newline depth)
        fun u hu => ih u hu (depth + 1)
      simpa [prettyItems_eq] using this
  | object members ih =>
    cases members with
    | nil => exact .object (.empty blanks_nil)
    | cons m members =>
      rw [prettyChars]
      apply Spelt.object
      -- Around the colon of a member there are blanks of their own.
      have hmember (n : String × Value) (hn : n ∈ m :: members) :
          Member Spelt n (prettyMember (depth + 1) n) :=
        .colon blanks_nil blanks_blank (ih n hn (depth + 1))
      have := sequence_flatMap '}' (blanks_newline (depth + 1)) (blanks_newline depth)
        hmember
      simpa [prettyMembers_eq, prettyMember] using this

end Value

end StackMachine.Json
