import StackMachine.Proofs.Command.Procedure
import StackMachine.Proofs.Machine.Career
import StackMachine.Proofs.Machine.History

/-!
# Each warning once

Machines are made, asked and copied under names while nobody changes the files. A `Chronicle` keeps
the career of each machine, and the warnings that the log has got while it was made or asked. These
are at all times the ones that are due by its career (`Chronicle.Faithful.after`), and so is what
the next deed will add to them.
-/

namespace StackMachine

def Scene.warnings (s : Scene) (deed : Deed) : List Event :=
  Event.warnings (s.world.since (s.perform .nothing deed).2.world)

/-! ### Making machines -/

/-- A constructor gives the warnings of a load, and a machine, if any, that begins a career. -/
theorem Loader.builtin_begins (kind : Backend) (path : String) (warn : Bool) (w : World) :
    let done := Attempt.carryOut (builtin.constructor kind path warn) .nothing w
    (∃ events, done.2 = w.reportAll .nothing events ∧
      Event.warnings events = kind.loadWarnings w.files path warn) ∧
    ∀ machine, done.1 = .ok machine →
      machine.backend = kind ∧ (Career.made path warn kind).Describes w.files machine := by
  unfold Backend.loadWarnings
  -- Without a program nothing is warned of at a load: the failure is reported to the caller, or
  -- later.
  rcases hprogram : w.files.program path with cause | ⟨image, findings⟩
  · by_cases hkind : kind = .native
    · subst hkind
      refine ⟨⟨[], rfl, rfl⟩, ?_⟩
      rintro machine ⟨⟩
      exact ⟨rfl, Career.describes_new w.files path warn⟩
    · rw [builtin_carryOut_of_invalid warn hprogram hkind]
      refine ⟨⟨[], rfl, rfl⟩, ?_⟩
      rintro machine ⟨⟩
  · rw [builtin_carryOut_of_program warn hprogram kind]
    refine ⟨⟨_, rfl, warnings_makeEvents path warn image findings kind⟩, ?_⟩
    rintro machine ⟨⟩
    exact ⟨Machine.backend_made path warn _ kind, Career.describes_made hprogram warn kind⟩

namespace Scene

variable {s : Scene} {deed : Deed}

/-- The warnings are those of what is reported. -/
theorem warnings_of_append {events : List Event}
    (h : (s.perform .nothing deed).2.world.events.toList = s.world.events.toList ++ events) :
    s.warnings deed = Event.warnings events :=
  congrArg Event.warnings (World.since_of_append h)

/-- A constructor on its own gives the warnings of a load. -/
theorem warnings_make (s : Scene) (name path : String) (warn : Bool) (kind : Backend) :
    s.warnings (.make name path warn kind) = kind.loadWarnings s.world.files path warn := by
  obtain ⟨⟨events, hworld, hwarnings⟩, -⟩ := Loader.builtin_begins kind path warn s.world
  rw [← hwarnings]
  refine warnings_of_append ?_
  rw [perform_make]
  generalize Attempt.carryOut (Loader.builtin.constructor kind path warn) _ _ = done at hworld ⊢
  obtain ⟨cause | machine, w⟩ := done
  · obtain rfl := hworld
    exact World.reportAll_events s.world events
  · obtain rfl := hworld
    exact World.reportAll_events s.world events

/-- A request reports itself first, which is no warning. -/
theorem warnings_load (s : Scene) (name path : String) (warn : Bool) {text : String}
    {kind : Backend} (h : Backend.ofText? text = some kind) :
    s.warnings (.load name path warn text) = kind.loadWarnings s.world.files path warn := by
  obtain ⟨⟨events, hworld, hwarnings⟩, -⟩ := Loader.builtin_begins kind path warn
    (Loader.requested .nothing path warn kind s.world)
  have hrequest : Event.warnings (.loading kind path warn :: events) =
      kind.loadWarnings s.world.files path warn := hwarnings
  have hevents : ((Loader.requested .nothing path warn kind s.world).reportAll
      .nothing events).events.toList =
        s.world.events.toList ++ .loading kind path warn :: events := by
    rw [World.reportAll_events]
    show (s.world.events.push (.loading kind path warn)).toList ++ events = _
    rw [Array.toList_push, List.append_assoc, List.singleton_append]
  rw [← hrequest]
  refine warnings_of_append ?_
  rw [perform_load_of_some _ _ _ _ h]
  generalize Attempt.carryOut (Loader.builtin.constructor kind path warn) _ _ = done at hworld ⊢
  obtain ⟨cause | machine, w⟩ := done
  · obtain rfl := hworld
    exact hevents
  · obtain rfl := hworld
    exact hevents

/-- To copy a machine reports nothing. -/
theorem warnings_copy (s : Scene) (name copy : String) : s.warnings (.copy name copy) = [] := by
  have hworld : (s.perform .nothing (.copy name copy)).2.world = s.world := by
    cases hname : s.fleet.get? name with
    | none => rw [perform_copy_of_absent hname]
    | some machine => rw [perform_copy_of_present hname]
  have hnothing : (s.perform .nothing (.copy name copy)).2.world.events.toList =
      s.world.events.toList ++ [] := by
    rw [hworld, List.append_nil]
  exact warnings_of_append hnothing

end Scene

/-! ### Chronicles -/

/-- Machines under names, and for each name the career of its machine and the warnings so far. -/
structure Chronicle where
  scene : Scene
  records : String → Option (Career × List Event)

namespace Chronicle

def start (w : World) : Chronicle := ⟨.start w, fun _ => none⟩

/-- One more deed. The career goes on with the deed, and the warnings are read off the log. -/
def live (c : Chronicle) (deed : Deed) : Chronicle :=
  let done := c.scene.perform .nothing deed
  let seen := c.scene.warnings deed
  { scene := done.2
    records :=
      match deed, done.1 with
      | .load name path warn _, .made kind | .make name path warn _, .made kind =>
        Function.update c.records name (some (.made path warn kind, seen))
      | .ask name query, _ =>
        match c.records name with
        | none => c.records
        | some (career, before) =>
          Function.update c.records name (some (career.asked query, before ++ seen))
      | .copy name copy, _ =>
        match c.records name with
        | none => c.records
        | some (career, _) => Function.update c.records copy (some (career.copied, seen))
      | _, _ => c.records }

def after (c : Chronicle) (history : List Deed) : Chronicle := history.foldl live c

/-- Every machine has the career of its name, and has given the warnings that are due. -/
structure Faithful (files : Files) (c : Chronicle) : Prop where
  world : c.scene.world.files = files
  machines : ∀ name, Option.Rel
    (fun machine (record : Career × List Event) =>
      record.1.Describes files machine ∧ record.2 = record.1.warnings files)
    (c.scene.fleet.get? name) (c.records name)

namespace Faithful

variable {files : Files} {c : Chronicle}

theorem start (w : World) : Faithful w.files (.start w) := ⟨rfl, fun _ => .none⟩

/-- A machine under a name, and its career under the same name. -/
theorem put (h : Faithful files c) {w : World} (hw : w.files = files) {machine : Machine}
    {career : Career} {seen : List Event} (hmachine : career.Describes files machine)
    (hseen : seen = career.warnings files) (name : String) :
    Faithful files ⟨⟨c.scene.fleet.put name machine, w⟩,
      Function.update c.records name (some (career, seen))⟩ where
  world := hw
  machines := Fleet.rel_put h.machines (.some ⟨hmachine, hseen⟩) name

theorem found (h : Faithful files c) (name : String) :
    (c.scene.fleet.get? name = none ∧ c.records name = none) ∨
      ∃ machine career, c.scene.fleet.get? name = some machine ∧
        c.records name = some (career, career.warnings files) ∧
        career.Describes files machine := by
  have hname := h.machines name
  generalize c.scene.fleet.get? name = machine at hname ⊢
  generalize c.records name = record at hname ⊢
  cases hname with
  | @some machine record hrecord =>
    obtain ⟨career, seen⟩ := record
    obtain ⟨hmachine, hseen⟩ := hrecord
    simp only at hmachine hseen
    subst hseen
    exact .inr ⟨machine, career, rfl, rfl, hmachine⟩
  | none => exact .inl ⟨rfl, rfl⟩

/-- A constructor, in a world with the same files, and what it leaves under a name. -/
theorem begin (h : Faithful files c) {w : World} (hw : w.files = files) (name path : String)
    (warn : Bool) (kind : Backend) :
    let done := Attempt.carryOut (Loader.builtin.constructor kind path warn) .nothing w
    done.2.files = files ∧
      ∀ machine, done.1 = .ok machine → machine.backend = kind ∧
        Faithful files ⟨⟨c.scene.fleet.put name machine, done.2⟩,
          Function.update c.records name
            (some (.made path warn kind, kind.loadWarnings files path warn))⟩ := by
  intro done
  obtain ⟨⟨events, hworld, -⟩, hmachines⟩ := Loader.builtin_begins kind path warn w
  rw [hw] at hmachines
  have hfiles : done.2.files = files := by
    rw [show done.2 = _ from hworld, World.reportAll_nothing_files, hw]
  refine ⟨hfiles, ?_⟩
  intro machine hmachine
  obtain ⟨hkind, hdescribes⟩ := hmachines machine hmachine
  exact ⟨hkind, h.put hfiles hdescribes (Career.warnings_made files path warn kind).symm name⟩

/-- The warnings at a query are due by the career. -/
theorem ask (h : Faithful files c) {name : String} {machine : Machine} {career : Career}
    (hpresent : c.scene.fleet.get? name = some machine)
    (hmachine : career.Describes files machine) (query : Query) :
    c.scene.warnings (.ask name query) = career.warningsAt files query ∧
      ∃ next w, (c.scene.perform .nothing (.ask name query)).2 =
          ⟨c.scene.fleet.put name next, w⟩ ∧ w.files = files ∧
        (career.asked query).Describes files next := by
  obtain rfl := h.world
  obtain ⟨result, next, events, hreply, hnext, hwarnings⟩ := hmachine.reply query
  have hscene : (c.scene.perform .nothing (.ask name query)).2 =
      ⟨c.scene.fleet.put name next, c.scene.world.reportAll .nothing events⟩ := by
    rw [Scene.perform_ask_of_present hpresent, hreply]
  refine ⟨?_, next, _, hscene, World.reportAll_nothing_files _ events, hnext⟩
  rw [← hwarnings]
  refine Scene.warnings_of_append ?_
  rw [hscene]
  exact World.reportAll_events _ events

/-- One more deed. -/
theorem live (h : Faithful files c) (deed : Deed) : Faithful files (c.live deed) := by
  match deed with
  | .load name path warn text =>
    simp only [Chronicle.live]
    cases hkind : Backend.ofText? text with
    | none =>
      rw [Scene.perform_load_of_none _ _ _ _ hkind]
      exact ⟨h.world, h.machines⟩
    | some kind =>
      have hrequested : (Loader.requested .nothing path warn kind c.scene.world).files = files :=
        h.world
      obtain ⟨hfiles, hmachines⟩ := h.begin hrequested name path warn kind
      rw [c.scene.warnings_load name path warn hkind, h.world,
        Scene.perform_load_of_some _ _ _ _ hkind]
      generalize Attempt.carryOut (Loader.builtin.constructor kind path warn) _ _ = done
        at hfiles hmachines ⊢
      obtain ⟨cause | machine, w⟩ := done
      · exact ⟨hfiles, h.machines⟩
      · obtain ⟨rfl, hnext⟩ := hmachines machine rfl
        exact hnext
  | .make name path warn kind =>
    obtain ⟨hfiles, hmachines⟩ := h.begin h.world name path warn kind
    simp only [Chronicle.live]
    rw [c.scene.warnings_make, h.world, Scene.perform_make]
    generalize Attempt.carryOut (Loader.builtin.constructor kind path warn) _ _ = done
      at hfiles hmachines ⊢
    obtain ⟨cause | machine, w⟩ := done
    · exact ⟨hfiles, h.machines⟩
    · obtain ⟨rfl, hnext⟩ := hmachines machine rfl
      exact hnext
  | .ask name query =>
    simp only [Chronicle.live]
    rcases h.found name with ⟨habsent, hnone⟩ | ⟨machine, career, hpresent, hrecord, hmachine⟩
    · rw [hnone, Scene.perform_ask_of_absent habsent]
      exact h
    · obtain ⟨hseen, next, w, hscene, hw, hnext⟩ := h.ask hpresent hmachine query
      rw [hrecord, hscene, hseen]
      exact h.put hw hnext (career.warnings_asked query files).symm name
  | .copy name copy =>
    simp only [Chronicle.live]
    rcases h.found name with ⟨habsent, hnone⟩ | ⟨machine, career, hpresent, hrecord, hmachine⟩
    · rw [hnone, Scene.perform_copy_of_absent habsent]
      exact h
    · rw [hrecord, Scene.perform_copy_of_present hpresent, c.scene.warnings_copy]
      exact h.put h.world hmachine.copied (career.warnings_copied files).symm copy

/-- **Each machine has given the warnings that are due.** -/
theorem after (h : Faithful files c) (history : List Deed) : Faithful files (c.after history) := by
  induction history generalizing c with
  | nil => exact h
  | cons deed history ih => exact ih (h.live deed)

end Faithful

end Chronicle

end StackMachine
