import Mathlib.Logic.Function.Basic
import StackMachine.Machine.Fleet
import StackMachine.Proofs.Machine.Attempt

/-!
# Histories of fleets

A *history* is what happens to machines once they are made: they are asked and copied, and between
that others change the files. `Scene.after` is the fleet and its world after a history.

Apart from the files, what a machine has become depends on the queries that it has been asked, it
and the machines it is a copy of. `Lineage` keeps account of them for each name. A relation between
machines and such queries that one reply keeps holds after every history (`Follows.after`): the
machines of a fleet do not get into each other's way.
-/

namespace StackMachine

/-! ### Scenes -/

structure Scene where
  fleet : Fleet
  world : World

/-- What is done with a machine that has been made. -/
inductive Use
  | ask (name : String) (query : Query)
  | copy (name copy : String)

def Use.deed : Use → Deed
  | .ask name query => .ask name query
  | .copy name other => .copy name other

/-- What a history consists of: uses, and changes that others make to the files. -/
inductive Moment
  | use (use : Use)
  | change (change : Files → Files)

namespace Scene

def start (w : World) : Scene := ⟨.empty, w⟩

def single (name : String) (machine : Machine) (w : World) : Scene where
  fleet := Fleet.empty.put name machine
  world := w

/-- Does a deed; gives its outcome and the scene after it. -/
def perform (s : Scene) (mw : Meanwhile) (deed : Deed) : Outcome × Scene :=
  let done := (s.fleet.perform deed).perform mw s.world
  (done.1.1, ⟨done.1.2, done.2⟩)

def live (mw : Meanwhile) (s : Scene) : Moment → Scene
  | .use use => (s.perform mw use.deed).2
  | .change change => { s with world := { s.world with files := change s.world.files } }

def after (s : Scene) (mw : Meanwhile) (history : List Moment) : Scene := history.foldl (live mw) s

end Scene

/-! ### Fleets under deeds -/

namespace Fleet

variable {name other : String}

theorem get?_put_self (fleet : Fleet) (name : String) (machine : Machine) :
    (fleet.put name machine).get? name = some machine := by
  simp [get?, put]

theorem get?_put_of_ne (fleet : Fleet) (machine : Machine) (h : other ≠ name) :
    (fleet.put name machine).get? other = fleet.get? other := by
  simp only [get?, put, List.lookup_cons, beq_false_of_ne h]
  exact lookup_filter_ne h fleet.machines

/-- What relates the machine of each name to an entry of the name does so still when both are put
under a name at the same time. -/
theorem rel_put {β : Type} {R : Option Machine → Option β → Prop} {fleet : Fleet}
    {entries : String → Option β} (h : ∀ other, R (fleet.get? other) (entries other))
    {machine : Machine} {entry : β} (hnew : R (some machine) (some entry)) (name other : String) :
    R ((fleet.put name machine).get? other) (Function.update entries name (some entry) other) := by
  by_cases hother : other = name
  · subst hother
    rw [get?_put_self, Function.update_self]
    exact hnew
  · rw [get?_put_of_ne fleet machine hother, Function.update_of_ne hother]
    exact h other

end Fleet

def Outcome.ofReply : Except Failure Reply → Outcome
  | .ok reply => .replied reply
  | .error cause => .failed cause

namespace Scene

variable {mw : Meanwhile} {s : Scene} {name : String}

theorem perform_ask_of_absent (h : s.fleet.get? name = none) (query : Query) :
    s.perform mw (.ask name query) = (.absent, s) := by
  simp only [perform, Fleet.perform, h]
  rfl

/-- A machine that is asked replies or fails, and nothing else in the fleet changes. -/
theorem perform_ask_of_present {machine : Machine} (h : s.fleet.get? name = some machine)
    (query : Query) :
    s.perform mw (.ask name query) =
      (.ofReply ((Machine.reply query).carryOut mw machine s.world).1.1,
        ⟨s.fleet.put name ((Machine.reply query).carryOut mw machine s.world).1.2,
          ((Machine.reply query).carryOut mw machine s.world).2⟩) := by
  simp only [perform, Fleet.perform, h, Action.perform_bind, Operation.carryOut]
  rcases ((Machine.reply query).on machine).perform mw s.world with ⟨⟨cause | reply, machine⟩, w⟩
  · rfl
  · rfl

theorem perform_copy_of_absent (h : s.fleet.get? name = none) (copy : String) :
    s.perform mw (.copy name copy) = (.absent, s) := by
  simp only [perform, Fleet.perform, h]
  rfl

/-- A copy is put under its name as it is, over a machine that may be there. -/
theorem perform_copy_of_present {machine : Machine} (h : s.fleet.get? name = some machine)
    (copy : String) :
    s.perform mw (.copy name copy) = (.copied, ⟨s.fleet.put copy machine, s.world⟩) := by
  simp only [perform, Fleet.perform, h]
  rfl

end Scene

/-! ### Lineages -/

/-- For each name, the queries that its machine has been asked, it and those it is a copy of, the
first one first. A name that stands for no machine has none. -/
abbrev Lineage := String → Option (List Query)

namespace Lineage

/-- One machine, which has not been asked anything. -/
def founder (name : String) : Lineage := Function.update (fun _ => none) name (some [])

def live (l : Lineage) : Moment → Lineage
  | .use (.ask name query) =>
    match l name with
    | none => l
    | some queries => Function.update l name (some (queries ++ [query]))
  | .use (.copy name copy) =>
    match l name with
    | none => l
    | some queries => Function.update l copy (some queries)
  | .change _ => l

def after (l : Lineage) (history : List Moment) : Lineage := history.foldl live l

end Lineage

/-- After its lineage each machine, if it is asked, ends as given; a name without lineage has no
machine. -/
def Scene.Answers (s : Scene) (mw : Meanwhile) (l : Lineage)
    (outcome : List Query → Query → Outcome) : Prop :=
  ∀ name,
    match l name with
    | none => s.fleet.get? name = none
    | some queries => ∀ query, (s.perform mw (.ask name query)).1 = outcome queries query

/-! ### What one reply keeps -/

variable {mw : Meanwhile} {kept : Files → Prop} {R : Machine → List Query → Prop}

/-- A reply keeps a relation between a machine and the queries that it has been asked, in a world
whose files stay as required. -/
def ReplyKeeps (mw : Meanwhile) (kept : Files → Prop) (R : Machine → List Query → Prop) : Prop :=
  ∀ query machine queries w, kept w.files → R machine queries →
    kept ((Machine.reply query).carryOut mw machine w).2.files ∧
      R ((Machine.reply query).carryOut mw machine w).1.2 (queries ++ [query])

/-- Every machine is related to its lineage, and the files are as required. -/
structure Follows (kept : Files → Prop) (R : Machine → List Query → Prop) (s : Scene)
    (l : Lineage) : Prop where
  files : kept s.world.files
  machines : ∀ name, Option.Rel R (s.fleet.get? name) (l name)

namespace Follows

variable {s : Scene} {l : Lineage}

/-- A machine under a name, and its lineage under the same name. -/
theorem put (h : Follows kept R s l) {w : World} (hw : kept w.files) {machine : Machine}
    {queries : List Query} (hR : R machine queries) (name : String) :
    Follows kept R ⟨s.fleet.put name machine, w⟩ (Function.update l name (some queries)) where
  files := hw
  machines := Fleet.rel_put h.machines (.some hR) name

/-- A fleet of one machine. -/
theorem founder {w : World} (hw : kept w.files) {machine : Machine} (hR : R machine [])
    (name : String) :
    Follows kept R (.single name machine w) (.founder name) :=
  put (s := .start w) ⟨hw, fun _ => .none⟩ hw hR name

/-- Under a name there is a machine with a lineage, or neither. -/
theorem found (h : Follows kept R s l) (name : String) :
    (s.fleet.get? name = none ∧ l name = none) ∨
      ∃ machine queries, s.fleet.get? name = some machine ∧ l name = some queries ∧
        R machine queries := by
  have hname := h.machines name
  generalize s.fleet.get? name = machine at hname ⊢
  generalize l name = queries at hname ⊢
  cases hname with
  | some hR => exact .inr ⟨_, _, rfl, rfl, hR⟩
  | none => exact .inl ⟨rfl, rfl⟩

/-- What one moment keeps. -/
theorem live (h : Follows kept R s l) (hkept : ReplyKeeps mw kept R) (moment : Moment)
    (hchange : ∀ change, moment = .change change → ∀ files, kept files → kept (change files)) :
    Follows kept R (s.live mw moment) (l.live moment) := by
  match moment with
  | .use (.ask name query) =>
    simp only [Scene.live, Use.deed, Lineage.live]
    rcases h.found name with ⟨habsent, hl⟩ | ⟨machine, queries, hpresent, hl, hR⟩
    · rw [Scene.perform_ask_of_absent habsent, hl]
      exact h
    · obtain ⟨hw, hnext⟩ := hkept query machine queries s.world h.files hR
      rw [Scene.perform_ask_of_present hpresent, hl]
      exact h.put hw hnext name
  | .use (.copy name copy) =>
    simp only [Scene.live, Use.deed, Lineage.live]
    rcases h.found name with ⟨habsent, hl⟩ | ⟨machine, queries, hpresent, hl, hR⟩
    · rw [Scene.perform_copy_of_absent habsent, hl]
      exact h
    · rw [Scene.perform_copy_of_present hpresent, hl]
      exact h.put h.files hR copy
  | .change change => exact ⟨hchange change rfl s.world.files h.files, h.machines⟩

/-- **What every reply keeps, every history keeps.** -/
theorem after (h : Follows kept R s l) (hkept : ReplyKeeps mw kept R) (history : List Moment)
    (hchange : ∀ change, .change change ∈ history → ∀ files, kept files → kept (change files)) :
    Follows kept R (s.after mw history) (l.after history) := by
  -- Scene and lineages change together from moment to moment, so both are general.
  induction history generalizing s l with
  | nil => exact h
  | cons moment history ih =>
    refine ih (h.live hkept moment ?_) ?_
    · rintro change rfl
      exact hchange change List.mem_cons_self
    · intro change hmem
      exact hchange change (List.mem_cons_of_mem moment hmem)

/-- One machine, and a history of uses alone. -/
theorem founder_after_uses (hkept : ReplyKeeps mw kept R) {w : World} (hw : kept w.files)
    {machine : Machine} (hR : R machine []) (name : String) (uses : List Use) :
    Follows kept R ((Scene.single name machine w).after mw (uses.map .use))
      ((Lineage.founder name).after (uses.map .use)) := by
  -- Nobody changes the files, so nothing is to be shown about changes.
  refine (founder hw hR name).after hkept (uses.map .use) ?_
  intro change hmem
  obtain ⟨use, -, huse⟩ := List.mem_map.mp hmem
  cases huse

/-- What a machine replies, if its relation to its lineage decides it. -/
theorem answers (h : Follows kept R s l) {outcome : List Query → Query → Outcome}
    (hreply : ∀ query machine queries w, kept w.files → R machine queries →
      .ofReply ((Machine.reply query).carryOut mw machine w).1.1 = outcome queries query) :
    s.Answers mw l outcome := by
  intro name
  rcases h.found name with ⟨habsent, hl⟩ | ⟨machine, queries, hpresent, hl, hR⟩
  · rw [hl]
    exact habsent
  · rw [hl]
    intro query
    rw [Scene.perform_ask_of_present hpresent]
    exact hreply query machine queries s.world h.files hR

end Follows

end StackMachine
