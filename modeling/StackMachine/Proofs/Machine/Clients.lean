import Mathlib.Algebra.BigOperators.Group.Finset.Piecewise
import Mathlib.Data.UInt
import StackMachine.Proofs.Image.File
import StackMachine.Proofs.Machine.History
import StackMachine.Proofs.Machine.Reporting

/-!
# Clients of one fleet

Several clients use one fleet in one world, each with names of its own, and nobody else is at work.
A deed looks at one machine and leaves at most one (`Deed.act`), and it writes nothing, so a client
cannot tell the fleet it shares from one that it has for itself (`Alike`). What a deed counts is the
same in either, so the counters of the shared world grow by what the clients count alone.
-/

namespace StackMachine

/-! ### What a deed looks at and leaves -/

namespace Deed

def source : Deed → String
  | load name _ _ _ => name
  | make name _ _ _ => name
  | ask name _ => name
  | copy name _ => name

def target : Deed → String
  | load name _ _ _ => name
  | make name _ _ _ => name
  | ask name _ => name
  | copy _ other => other

/-- How a deed ends, if the machine it looks at is the given one, and the machine that it leaves. -/
def act : Deed → Option Machine → Action (Outcome × Option Machine)
  | load _ path warn text, _ => do
    match ← (Loader.builtin.load path warn text).run with
    | .ok machine => return (.made machine.backend, some machine)
    | .error cause => return (.refused cause, none)
  | make _ path warn kind, _ => do
    match ← (Loader.builtin.constructor kind path warn).run with
    | .ok machine => return (.made machine.backend, some machine)
    | .error cause => return (.failed cause, none)
  | ask _ query, some machine => do
    let (result, machine) ← (Machine.reply query).on machine
    return (.ofReply result, some machine)
  | copy _ _, some machine => return (.copied, some machine)
  | _, none => return (.absent, none)

/-- Deeds read files, but none writes any. -/
theorem act_writesNothing (deed : Deed) (machine : Option Machine) :
    (deed.act machine).WritesNothing := by
  cases deed with
  | load name path warn text =>
    refine .bind (Loader.load_writesNothing Loader.builtin_writesNothing path warn text) ?_
    rintro (cause | machine)
    · exact .done _
    · exact .done _
  | make name path warn kind =>
    refine .bind (Loader.builtin_writesNothing kind path warn) ?_
    rintro (cause | machine)
    · exact .done _
    · exact .done _
  | ask name query =>
    cases machine with
    | none => exact .done _
    | some machine => exact .bind (Machine.reply_writesNothing query machine) fun _ => .done _
  | copy name copy =>
    cases machine with
    | none => exact .done _
    | some machine => exact .done _

end Deed

/-- A fleet with the machine that a deed leaves. -/
def Fleet.receive (fleet : Fleet) (name : String) : Option Machine → Fleet
  | some machine => fleet.put name machine
  | none => fleet

/-- A deed takes a machine from the fleet, acts on it, and puts back what it leaves. -/
theorem Fleet.perform_eq_act (fleet : Fleet) (deed : Deed) :
    fleet.perform deed =
      (fun r => (r.1, fleet.receive deed.target r.2)) <$> deed.act (fleet.get? deed.source) := by
  cases deed with
  | load name path warn text =>
    simp only [perform, Deed.act, map_bind]
    refine congrArg _ (funext fun r => ?_)
    cases r <;> rfl
  | make name path warn kind =>
    simp only [perform, Deed.act, map_bind]
    refine congrArg _ (funext fun r => ?_)
    cases r <;> rfl
  | ask name query =>
    simp only [perform, Deed.source]
    cases fleet.get? name with
    | none => rfl
    | some machine =>
      simp only [Deed.act, map_bind]
      refine congrArg _ (funext fun r => ?_)
      obtain ⟨cause | reply, machine⟩ := r <;> rfl
  | copy name copy =>
    simp only [perform, Deed.source]
    cases fleet.get? name <;> rfl

namespace Fleet

variable {name other : String}

/-- A deed leaves the machines under other names alone. -/
theorem get?_receive_of_ne (fleet : Fleet) (made : Option Machine) (h : other ≠ name) :
    (fleet.receive name made).get? other = fleet.get? other := by
  cases made with
  | none => rfl
  | some machine => exact get?_put_of_ne fleet machine h

/-- Under a name that had the same machine in two fleets there is the same one after a deed. -/
theorem get?_receive_congr {fleet others : Fleet} (h : fleet.get? other = others.get? other)
    (made : Option Machine) :
    (fleet.receive name made).get? other = (others.receive name made).get? other := by
  cases made with
  | none => exact h
  | some machine =>
    by_cases hname : other = name
    · subst hname
      exact (get?_put_self fleet other machine).trans (get?_put_self others other machine).symm
    · exact (get?_put_of_ne fleet machine hname).trans
        (h.trans (get?_put_of_ne others machine hname).symm)

end Fleet

/-! ### Scenes that look alike -/

namespace Scene

variable {mine : String → Prop} {s t : Scene} {deed : Deed}

theorem perform_eq_act (s : Scene) (mw : Meanwhile) (deed : Deed) :
    s.perform mw deed =
      let done := (deed.act (s.fleet.get? deed.source)).perform mw s.world
      (done.1.1, ⟨s.fleet.receive deed.target done.1.2, done.2⟩) := by
  simp only [perform, Fleet.perform_eq_act, Action.perform_map]

/-- Two scenes with the same files and, under some names, the same machines. -/
structure Alike (mine : String → Prop) (s t : Scene) : Prop where
  files : s.world.files = t.world.files
  machines : ∀ name, mine name → s.fleet.get? name = t.fleet.get? name

theorem Alike.refl (mine : String → Prop) (s : Scene) : Alike mine s s := ⟨rfl, fun _ _ => rfl⟩

def growth (s t : Scene) (name : String) : UInt64 :=
  Counters.growth s.world.counters t.world.counters name

theorem growth_self (s : Scene) (name : String) : s.growth s name = 0 := UInt64.sub_self _

theorem growth_add_growth (s t u : Scene) (name : String) :
    s.growth t name + t.growth u name = s.growth u name :=
  sub_add_sub_cancel' _ _ _

/-- A deed of one's own ends in the same way in both scenes, which look alike after it. It counts
the same, too. -/
theorem Alike.perform (h : Alike mine s t) (hsource : mine deed.source) :
    (s.perform .nothing deed).1 = (t.perform .nothing deed).1 ∧
      Alike mine (s.perform .nothing deed).2 (t.perform .nothing deed).2 ∧
      ∀ name, s.growth (s.perform .nothing deed).2 name =
        t.growth (t.perform .nothing deed).2 name := by
  -- How a deed that writes nothing ends depends on the files and its machine only, which are the
  -- same.
  obtain ⟨x, names, hdecided⟩ :=
    (deed.act_writesNothing (s.fleet.get? deed.source)).decided s.world.files
  obtain ⟨ws, hs, hfiles, hcounters⟩ := hdecided s.world rfl
  obtain ⟨wt, ht, hfiles', hcounters'⟩ := hdecided t.world h.files.symm
  rw [h.machines _ hsource] at hs ht
  rw [perform_eq_act, perform_eq_act, h.machines _ hsource]
  simp only [hs, ht]
  refine ⟨trivial, ⟨hfiles.trans hfiles'.symm, ?_⟩, ?_⟩
  · intro name hname
    exact Fleet.get?_receive_congr (h.machines name hname) x.2
  · intro name
    show Counters.growth _ ws.counters name = Counters.growth _ wt.counters name
    rw [hcounters, hcounters', Counters.growth_incrementAll, Counters.growth_incrementAll]

/-- A deed of another, which leaves a machine under a name of its own, is not seen. -/
theorem Alike.perform_other (h : Alike mine s t) (htarget : ¬ mine deed.target) :
    Alike mine (s.perform .nothing deed).2 t := by
  obtain ⟨x, names, hdecided⟩ :=
    (deed.act_writesNothing (s.fleet.get? deed.source)).decided s.world.files
  obtain ⟨ws, hs, hfiles, -⟩ := hdecided s.world rfl
  rw [perform_eq_act]
  simp only [hs]
  refine ⟨hfiles.trans h.files, ?_⟩
  intro name hname
  have hne : name ≠ deed.target := fun heq => htarget (heq ▸ hname)
  exact (Fleet.get?_receive_of_ne s.fleet x.2 hne).trans (h.machines name hname)

/-- Deeds one after the other: how each of them ends, and the scene after them. -/
def performAll (s : Scene) (mw : Meanwhile) : List Deed → List Outcome × Scene
  | [] => ([], s)
  | deed :: rest =>
    let (outcome, s) := s.perform mw deed
    let (outcomes, s) := s.performAll mw rest
    (outcome :: outcomes, s)

end Scene

/-! ### Schedules -/

/-- The deeds of several clients, in the order in which they are done. -/
abbrev Schedule (ι : Type) := List (ι × Deed)

namespace Schedule

variable {ι : Type} [DecidableEq ι] {s t : Scene} {owner : String → ι}

def deeds (schedule : Schedule ι) : List Deed := schedule.map Prod.snd

def script (schedule : Schedule ι) (i : ι) : List Deed :=
  (schedule.filter (·.1 = i)).map Prod.snd

/-- What one client sees of how the deeds end. -/
def view (schedule : Schedule ι) (i : ι) (outcomes : List Outcome) : List Outcome :=
  ((schedule.zip outcomes).filter (·.1.1 = i)).map Prod.snd

/-- By how much the deeds of one client make a counter grow. -/
def due (i : ι) (name : String) : Scene → Schedule ι → UInt64
  | _, [] => 0
  | s, (j, deed) :: rest =>
    (if j = i then s.growth (s.perform .nothing deed).2 name else 0) +
      due i name (s.perform .nothing deed).2 rest

/-- The deeds are about names of the clients who do them. -/
def Apart (owner : String → ι) (schedule : Schedule ι) : Prop :=
  ∀ e ∈ schedule, owner e.2.source = e.1 ∧ owner e.2.target = e.1

theorem script_cons_self (i : ι) (deed : Deed) (rest : Schedule ι) :
    script ((i, deed) :: rest) i = deed :: script rest i := by
  simp [script]

theorem script_cons_of_ne {i j : ι} (h : j ≠ i) (deed : Deed) (rest : Schedule ι) :
    script ((j, deed) :: rest) i = script rest i := by
  simp [script, h]

theorem view_cons_self (i : ι) (deed : Deed) (rest : Schedule ι) (outcome : Outcome)
    (outcomes : List Outcome) :
    view ((i, deed) :: rest) i (outcome :: outcomes) = outcome :: view rest i outcomes := by
  simp [view]

theorem view_cons_of_ne {i j : ι} (h : j ≠ i) (deed : Deed) (rest : Schedule ι)
    (outcome : Outcome) (outcomes : List Outcome) :
    view ((j, deed) :: rest) i (outcome :: outcomes) = view rest i outcomes := by
  simp [view, h]

/-- A client sees what it would see alone, and alone it makes counters grow by its due. -/
theorem view_alike (schedule : Schedule ι) (hapart : schedule.Apart owner) {i : ι}
    (h : s.Alike (owner · = i) t) :
    let shared := s.performAll .nothing schedule.deeds
    let alone := t.performAll .nothing (schedule.script i)
    schedule.view i shared.1 = alone.1 ∧ shared.2.Alike (owner · = i) alone.2 ∧
      ∀ name, t.growth alone.2 name = schedule.due i name s := by
  -- The two scenes part with the first deed of another, but stay alike.
  induction schedule generalizing s t with
  | nil => exact ⟨rfl, h, t.growth_self⟩
  | cons e rest ih =>
    obtain ⟨j, deed⟩ := e
    obtain ⟨⟨hsource, htarget⟩, hrest⟩ := List.forall_mem_cons.mp hapart
    by_cases hj : j = i
    · -- A deed of the client: both scenes go on with it.
      subst hj
      obtain ⟨houtcome, halike, hgrowth⟩ := h.perform hsource
      obtain ⟨hview, hafter, hdue⟩ := ih hrest halike
      rw [script_cons_self]
      refine ⟨?_, hafter, ?_⟩
      · exact (view_cons_self j deed rest _ _).trans (congr (congrArg _ houtcome) hview)
      · intro name
        rw [due, if_pos rfl, hgrowth, ← hdue name]
        exact (t.growth_add_growth _ _ name).symm
    · -- A deed of another: the scene of the client alone stays where it is.
      have hother : (s.perform .nothing deed).2.Alike (owner · = i) t :=
        h.perform_other fun heq => hj (htarget.symm.trans heq)
      obtain ⟨hview, hafter, hdue⟩ := ih hrest hother
      rw [script_cons_of_ne hj]
      refine ⟨(view_cons_of_ne hj deed rest _ _).trans hview, hafter, ?_⟩
      intro name
      rw [due, if_neg hj, hdue name]
      exact (zero_add _).symm

/-- Nobody's part of a growth is lost. -/
theorem growth_eq_sum_due [Fintype ι] (schedule : Schedule ι) (s : Scene) (name : String) :
    s.growth (s.performAll .nothing schedule.deeds).2 name = ∑ i, schedule.due i name s := by
  induction schedule generalizing s with
  | nil => exact (s.growth_self name).trans Finset.sum_const_zero.symm
  | cons e rest ih =>
    obtain ⟨j, deed⟩ := e
    simp only [due]
    -- The deed in front is one client's, and all others owe nothing for it.
    rw [Finset.sum_add_distrib, Finset.sum_ite_eq, if_pos (Finset.mem_univ j), ← ih]
    exact (s.growth_add_growth _ _ name).symm

/-! ### Scripts -/

/-- The scripts of the clients, interleaved in some way. -/
def Interleaves (schedule : Schedule ι) (scripts : ι → List Deed) : Prop :=
  ∀ i, schedule.script i = scripts i

theorem Interleaves.mem_scripts {schedule : Schedule ι} {scripts : ι → List Deed}
    (h : schedule.Interleaves scripts) {e : ι × Deed} (he : e ∈ schedule) :
    e.2 ∈ scripts e.1 := by
  rw [← h e.1]
  exact List.mem_map_of_mem (List.mem_filter.mpr ⟨he, decide_eq_true rfl⟩)

/-- **Clients do not get into each other's way.** Each of any number of clients has a script of
deeds about machines under names of its own. In whatever way the scripts are interleaved, each
client sees the same outcomes as if it were alone with its script, and has the same machines in the
end. Each counter grows by the sum of what it grows by if each client is alone, so by the same in
all interleavings. -/
theorem clients_independent [Fintype ι] {scripts : ι → List Deed}
    (hown : ∀ i, ∀ deed ∈ scripts i, owner deed.source = i ∧ owner deed.target = i)
    {schedule : Schedule ι} (h : schedule.Interleaves scripts) (s : Scene) :
    let shared := s.performAll .nothing schedule.deeds
    let alone (i : ι) := s.performAll .nothing (scripts i)
    (∀ i, schedule.view i shared.1 = (alone i).1) ∧
    (∀ i name, owner name = i → shared.2.fleet.get? name = (alone i).2.fleet.get? name) ∧
    ∀ name, s.growth shared.2 name = ∑ i, s.growth (alone i).2 name := by
  intro shared alone
  have hapart : schedule.Apart owner := fun e he => hown e.1 e.2 (h.mem_scripts he)
  have hclient (i : ι) := view_alike schedule hapart (.refl (owner · = i) s)
  simp only [h _] at hclient
  refine ⟨fun i => (hclient i).1, fun i => (hclient i).2.1.machines, ?_⟩
  intro name
  rw [growth_eq_sum_due]
  exact Finset.sum_congr rfl fun i _ => ((hclient i).2.2 name).symm

/-- Two clients of one file, the second of them with a text that selects no kind. -/
theorem clients_independent_one_file :
    let s := Scene.start (.withFile "p" (Image.ofCode #[.push 1, .halt]).encode)
    let owner (name : String) : Bool := name = "c"
    let scripts (i : Bool) : List Deed :=
      if i then [.load "c" "p" false "wasm", .load "c" "p" true "CPP", .ask "c" .status]
      else [.load "a" "p" true "go", .copy "a" "b", .ask "a" (.execute 9)]
    let schedule : Schedule Bool :=
      [(true, .load "c" "p" false "wasm"), (false, .load "a" "p" true "go"),
        (true, .load "c" "p" true "CPP"), (false, .copy "a" "b"), (false, .ask "a" (.execute 9)),
        (true, .ask "c" .status)]
    let shared := s.performAll .nothing schedule.deeds
    let alone (i : Bool) := s.performAll .nothing (scripts i)
    (∀ i, ∀ deed ∈ scripts i, owner deed.source = i ∧ owner deed.target = i) ∧
    schedule.Interleaves scripts ∧
    (∀ i, schedule.view i shared.1 = (alone i).1) ∧
    (∀ i name, owner name = i → shared.2.fleet.get? name = (alone i).2.fleet.get? name) ∧
    ∀ name, s.growth shared.2 name = ∑ i, s.growth (alone i).2 name := by
  intro s owner scripts schedule shared alone
  have hown : ∀ i, ∀ deed ∈ scripts i, owner deed.source = i ∧ owner deed.target = i := by
    decide
  have hinterleaves : schedule.Interleaves scripts := by
    rintro (_ | _)
    · rfl
    · rfl
  exact ⟨hown, hinterleaves, clients_independent hown hinterleaves s⟩

end Schedule

end StackMachine
