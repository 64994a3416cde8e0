import StackMachine.Proofs.Machine.Silence

/-!
# Warn mode only diagnoses

A load with the warn flag and one without it are compared, and all that is done with the machine
afterwards. The scene without the flag stays the quieter one: a load leads to such a pair of scenes
(`Scene.Quieter.perform_load`), a use and a change of the files keep it (`perform_use`, `change`),
and so does a history (`after`).
-/

namespace StackMachine

/-! ### A scene and the quieter one -/

namespace Scene

/-- The same scene without the flag. -/
structure Quieter (loud quiet : Scene) : Prop where
  fleet : ∀ name, quiet.fleet.get? name = (loud.fleet.get? name).map Machine.silenced
  world : loud.world.Quieter quiet.world

/-- How the uses of a history end, the first one first. -/
def outcomes (s : Scene) (mw : Meanwhile) : List Moment → List Outcome
  | [] => []
  | .use use :: rest => (s.perform mw use.deed).1 :: (s.live mw (.use use)).outcomes mw rest
  | .change change :: rest => (s.live mw (.change change)).outcomes mw rest

namespace Quieter

variable {loud quiet : Scene}

theorem put (h : loud.Quieter quiet) {w w' : World} (hw : w.Quieter w') (name : String)
    (machine : Machine) :
    Quieter ⟨loud.fleet.put name machine, w⟩ ⟨quiet.fleet.put name machine.silenced, w'⟩ where
  fleet := by
    intro other
    by_cases hother : other = name
    · subst hother
      rw [Fleet.get?_put_self, Fleet.get?_put_self, Option.map_some]
    · rw [Fleet.get?_put_of_ne _ _ hother, Fleet.get?_put_of_ne _ _ hother, h.fleet other]
  world := hw

/-- The two loads end in the same way, and lead to such a pair of scenes again. -/
theorem perform_load (h : loud.Quieter quiet) (mw : Meanwhile) (name path : String) (warn : Bool)
    (text : String) :
    (quiet.perform mw.unaware (.load name path false text)).1 =
        (loud.perform mw.unaware (.load name path warn text)).1 ∧
      (loud.perform mw.unaware (.load name path warn text)).2.Quieter
        (quiet.perform mw.unaware (.load name path false text)).2 := by
  cases hkind : Backend.ofText? text with
  | none =>
    simp only [perform_load_of_none _ _ _ _ hkind]
    have hcounted := (h.world.count "loader.requests").count "loader.rejected"
    exact ⟨trivial, h.fleet, hcounted.report rfl⟩
  | some kind =>
    have hrequested : (Loader.requested mw.unaware path warn kind loud.world).Quieter
        (Loader.requested mw.unaware path false kind quiet.world) :=
      ((h.world.count _).report rfl).count _
    obtain ⟨hdone, hworld⟩ := Loader.builtin_mutes kind path warn _ _ hrequested
    simp only [perform_load_of_some _ _ _ _ hkind]
    generalize Attempt.carryOut (Loader.builtin.constructor kind path warn) _ _ = done
      at hdone hworld ⊢
    generalize Attempt.carryOut (Loader.builtin.constructor kind path false) _ _ = done'
      at hdone hworld ⊢
    obtain ⟨cause | machine, w⟩ := done
    · obtain ⟨done', w'⟩ := done'
      cases hdone
      exact ⟨rfl, h.fleet, hworld⟩
    · obtain ⟨done', w'⟩ := done'
      cases hdone
      exact ⟨congrArg Outcome.made machine.backend_silenced, h.put hworld name machine⟩

/-- So do the queries to the two machines of a name, if there are any. -/
theorem perform_ask (h : loud.Quieter quiet) (mw : Meanwhile) (name : String) (query : Query) :
    (quiet.perform mw.unaware (.ask name query)).1 =
        (loud.perform mw.unaware (.ask name query)).1 ∧
      (loud.perform mw.unaware (.ask name query)).2.Quieter
        (quiet.perform mw.unaware (.ask name query)).2 := by
  have hname := h.fleet name
  cases hloud : loud.fleet.get? name with
  | none =>
    rw [hloud] at hname
    rw [perform_ask_of_absent hloud, perform_ask_of_absent hname]
    exact ⟨rfl, h⟩
  | some machine =>
    rw [hloud] at hname
    -- The machine of the name in the quieter scene is the silenced one.
    obtain ⟨hdone, hworld⟩ := machine.reply_mutes query loud.world quiet.world h.world
    rw [perform_ask_of_present hloud, perform_ask_of_present hname, hdone]
    exact ⟨rfl, h.put hworld name _⟩

theorem perform_copy (h : loud.Quieter quiet) (mw : Meanwhile) (name copy : String) :
    (quiet.perform mw.unaware (.copy name copy)).1 =
        (loud.perform mw.unaware (.copy name copy)).1 ∧
      (loud.perform mw.unaware (.copy name copy)).2.Quieter
        (quiet.perform mw.unaware (.copy name copy)).2 := by
  have hname := h.fleet name
  cases hloud : loud.fleet.get? name with
  | none =>
    rw [hloud] at hname
    rw [perform_copy_of_absent hloud, perform_copy_of_absent hname]
    exact ⟨rfl, h⟩
  | some machine =>
    rw [hloud] at hname
    rw [perform_copy_of_present hloud, perform_copy_of_present hname]
    exact ⟨rfl, h.put h.world copy machine⟩

/-- Uses keep the pair, and end in the same way. -/
theorem perform_use (h : loud.Quieter quiet) (mw : Meanwhile) (use : Use) :
    (quiet.perform mw.unaware use.deed).1 = (loud.perform mw.unaware use.deed).1 ∧
      (loud.perform mw.unaware use.deed).2.Quieter (quiet.perform mw.unaware use.deed).2 := by
  cases use with
  | ask name query => exact h.perform_ask mw name query
  | copy name copy => exact h.perform_copy mw name copy

/-- A change of the files is the same in both scenes. -/
theorem change (h : loud.Quieter quiet) (mw : Meanwhile) (change : Files → Files) :
    (loud.live mw.unaware (.change change)).Quieter (quiet.live mw.unaware (.change change)) :=
  ⟨h.fleet, congrArg change h.world.files, h.world.counters, h.world.events⟩

/-- After any history the scene without the flag is still the quieter one, and all uses have ended
in the same way. -/
theorem after (h : loud.Quieter quiet) (mw : Meanwhile) (history : List Moment) :
    quiet.outcomes mw.unaware history = loud.outcomes mw.unaware history ∧
      (loud.after mw.unaware history).Quieter (quiet.after mw.unaware history) := by
  -- Both scenes go on from moment to moment, so they are general.
  induction history generalizing loud quiet with
  | nil => exact ⟨rfl, h⟩
  | cons moment history ih =>
    cases moment with
    | use use =>
      obtain ⟨houtcome, hnext⟩ := h.perform_use mw use
      obtain ⟨houtcomes, hafter⟩ := ih hnext
      refine ⟨?_, hafter⟩
      simp only [outcomes, houtcome]
      exact congrArg _ houtcomes
    | change change => exact ih (h.change mw change)

end Quieter

/-! ### Native machines alone -/

/-- There are only native machines, and all that has been reported is reported without the flag,
too. -/
structure Flagless (s : Scene) : Prop where
  native : ∀ name machine, s.fleet.get? name = some machine →
    ∃ native : NativeMachine, machine = .native native
  events : ∀ e ∈ s.world.events.toList, e.silenced? ≠ none

namespace Flagless

variable {s : Scene}

theorem put (h : s.Flagless) {w : World} (hw : ∀ e ∈ w.events.toList, e.silenced? ≠ none)
    (name : String) (machine : NativeMachine) :
    Flagless ⟨s.fleet.put name (.native machine), w⟩ where
  native := by
    intro other found hfound
    by_cases hother : other = name
    · subst hother
      rw [Fleet.get?_put_self] at hfound
      cases hfound
      exact ⟨machine, rfl⟩
    · rw [Fleet.get?_put_of_ne _ _ hother] at hfound
      exact h.native other found hfound
  events := hw

theorem live (h : s.Flagless) (mw : Meanwhile) (moment : Moment) : (s.live mw moment).Flagless := by
  match moment with
  | .use (.ask name query) =>
    simp only [Scene.live, Use.deed]
    cases hname : s.fleet.get? name with
    | none =>
      rw [perform_ask_of_absent hname]
      exact h
    | some machine =>
      obtain ⟨machine, rfl⟩ := h.native name machine hname
      rw [perform_ask_of_present hname, Machine.reply_native]
      have hevents : ∀ e ∈ (s.world.reportAll mw (machine.fillEvents s.world.files)).events.toList,
          e.silenced? ≠ none := by
        intro e he
        rw [World.reportAll_events, List.mem_append] at he
        rcases he with he | he
        · exact h.events e he
        · -- What fills the slot is reported in either mode.
          rw [← machine.filterMap_fillEvents, List.mem_filterMap] at he
          obtain ⟨before, -, hbefore⟩ := he
          rw [Event.silenced?_unflagged hbefore]
          exact Option.some_ne_none e
      cases machine.content s.world.files with
      | ok core => exact h.put hevents name _
      | error cause => exact h.put hevents name _
  | .use (.copy name copy) =>
    simp only [Scene.live, Use.deed]
    cases hname : s.fleet.get? name with
    | none =>
      rw [perform_copy_of_absent hname]
      exact h
    | some machine =>
      obtain ⟨machine, rfl⟩ := h.native name machine hname
      rw [perform_copy_of_present hname]
      exact h.put h.events copy machine
  | .change change => exact ⟨h.native, h.events⟩

theorem after (h : s.Flagless) (mw : Meanwhile) (history : List Moment) :
    (s.after mw history).Flagless := by
  induction history generalizing s with
  | nil => exact h
  | cons moment history ih => exact ih (h.live mw moment)

end Flagless

/-! ### The result -/

/-- **The warn flag decides on diagnostics and on nothing else.** A machine is loaded with the flag
and without it, and the same history follows. Both loads end in the same way, and so do all uses of
the machine and its copies. The counters are the same. Of the reports, those that are no warnings
differ in the flag alone; of the warnings, the ones that are made without the flag are some of those
that are made with it, in the same order, and for a native machine they are all of them. -/
theorem warn_decides_diagnostics (mw : Meanwhile) (files : Files) (counters : Counters)
    (name path text : String) (history : List Moment) :
    let loaded (warn : Bool) :=
      (Scene.start ⟨files, #[], counters⟩).perform mw.unaware (.load name path warn text)
    let final (warn : Bool) := (loaded warn).2.after mw.unaware history
    let others (warn : Bool) := (final warn).world.events.toList.filter (·.level ≠ .warn)
    let warnings (warn : Bool) := (final warn).world.events.toList.filter (·.level = .warn)
    (loaded true).1 = (loaded false).1 ∧
    (loaded true).2.outcomes mw.unaware history = (loaded false).2.outcomes mw.unaware history ∧
    (final true).world.counters = (final false).world.counters ∧
    others false = (others true).map Event.unflagged ∧
    match Backend.ofText? text with
    | some .native => warnings false = warnings true
    | _ => (warnings false).Sublist (warnings true) := by
  intro loaded final others warnings
  have hstart : (Scene.start ⟨files, #[], counters⟩).Quieter (.start ⟨files, #[], counters⟩) :=
    ⟨fun _ => rfl, rfl, rfl, rfl⟩
  obtain ⟨hloaded, hquieter⟩ := hstart.perform_load mw name path true text
  obtain ⟨houtcomes, hfinal⟩ := hquieter.after mw history
  have hwarnings : (warnings false).Sublist (warnings true) := by
    show (List.filter _ _).Sublist _
    rw [hfinal.world.events]
    exact Event.sublist_silenced _
  refine ⟨hloaded.symm, houtcomes.symm, hfinal.world.counters.symm, ?_, ?_⟩
  · show List.filter _ _ = _
    rw [hfinal.world.events]
    exact Event.filter_silenced _
  · split
    · next hkind =>
      -- With the flag, too, nothing is reported that would be left out without it.
      have hflagless : (loaded true).2.Flagless := by
        have hnone : (Scene.start ⟨files, #[], counters⟩).Flagless :=
          ⟨fun _ _ h => (nomatch h), fun _ h => (nomatch h)⟩
        have hmade : (loaded true).2 = ⟨Fleet.empty.put name (.native (.new path)),
            Loader.requested mw.unaware path true .native ⟨files, #[], counters⟩⟩ :=
          congrArg Prod.snd (perform_load_of_some _ _ _ _ hkind)
        rw [hmade]
        refine hnone.put ?_ name (.new path)
        intro e he
        cases List.mem_singleton.mp he
        exact Option.some_ne_none _
      have hevents := (hflagless.after mw.unaware history).events
      show List.filter _ _ = _
      rw [hfinal.world.events]
      exact Event.warnings_silenced hevents
    · exact hwarnings

end Scene

end StackMachine
