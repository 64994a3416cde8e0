import StackMachine.Proofs.Command.Procedure
import StackMachine.Proofs.Counting
import StackMachine.Proofs.Machine.Reporting

/-!
# What commands leave unchanged

A command that looks at a machine or runs one changes no file and makes one request for a machine,
whether it succeeds or not. The command that writes an image changes one file, and none if it fails;
it makes no request. No command does anything if its settings cannot be read.
-/

namespace StackMachine

variable {w : World} {α β σ : Type}

/-! ### One request -/

def World.requests (before after : World) : UInt64 :=
  Counters.growth before.counters after.counters "loader.requests"

/-- The same files, and one more request. -/
structure World.AskedFor (before after : World) : Prop where
  files : after.files = before.files
  requests : before.requests after = 1

namespace World.AskedFor

/-- Whatever is counted with the request, and reported after it. -/
theorem of_counts {before after : World} {name : String} (hname : "loader.requests" ≠ name)
    (hfiles : after.files = before.files)
    (hcounters : after.counters = (before.counters.increment "loader.requests").increment name) :
    before.AskedFor after where
  files := hfiles
  requests := by
    unfold World.requests Counters.growth
    rw [hcounters, Counters.get_increment_of_ne _ hname, Counters.get_increment_self,
      UInt64.add_comm, UInt64.add_sub_cancel]

/-- Reports change neither. -/
theorem reportAll {before after : World} (h : before.AskedFor after) (events : List Event) :
    before.AskedFor (after.reportAll .nothing events) where
  files := (World.reportAll_nothing_files after events).trans h.files
  requests := by
    have hrequests := h.requests
    unfold World.requests at hrequests ⊢
    rwa [World.reportAll_counters]

end World.AskedFor

theorem Backend.counter_ne_requests (kind : Backend) : "loader.requests" ≠ kind.counter := by
  cases kind <;> decide

namespace Procedure

/-- Whether a machine is made or not, one has been asked for. -/
theorem loadMachine_askedFor (settings : Settings) (program : String) (options : MachineOptions) :
    w.AskedFor ((loadMachine settings program options).carryOut .nothing w).2 := by
  unfold loadMachine
  rw [carryOut_adapt]
  generalize options.vmType.getD settings.vmType = text
  cases hkind : Backend.ofText? text with
  | none =>
    rw [Loader.load_perform_of_none _ _ _ hkind]
    exact .of_counts (by decide) rfl rfl
  | some kind =>
    rw [Loader.load_perform_of_some _ _ _ hkind]
    -- The flag has no part in what is counted.
    generalize (options.warn || settings.warnMode) = warn
    have hcounted : w.AskedFor (Loader.requested .nothing program warn kind w) :=
      .of_counts kind.counter_ne_requests rfl rfl
    obtain ⟨events, hevents⟩ := Loader.builtin_obeys .onlyReports kind program warn .nothing
      (Loader.requested .nothing program warn kind w)
    show w.AskedFor (Action.perform _ (ExceptT.run _) _).2
    rw [hevents]
    exact hcounted.reportAll events

/-- A part of a command that asks a machine obeys the law of the operation. -/
theorem ofOperation_obeys {law : Law} {op : Operation σ α} (hop : op.Obeys law) (machine : σ) :
    Attempt.Obeys law (ofOperation op machine) := by
  refine .bind (.action (hop machine)) ?_
  rintro ⟨cause | a, after⟩
  · exact .of_done ⟨_, rfl⟩
  · exact .of_done ⟨_, rfl⟩

/-- What follows after a machine has been asked for only reports. -/
theorem AskedFor.bind {p : Procedure α} {f : α → Procedure β}
    (hp : w.AskedFor (p.carryOut .nothing w).2) (hf : ∀ a, Attempt.Obeys .onlyReports (f a)) :
    w.AskedFor ((p >>= f).carryOut .nothing w).2 := by
  rw [carryOut_bind]
  generalize p.carryOut .nothing w = done at hp
  obtain ⟨cause | a, w'⟩ := done
  · exact hp
  · obtain ⟨events, hevents⟩ := hf a .nothing w'
    show w.AskedFor (Action.perform _ (ExceptT.run _) _).2
    rw [hevents]
    exact hp.reportAll events

/-- To look at a machine asks for it once, and for no other. -/
theorem inspection_askedFor (settings : Settings) (program : String) (options : MachineOptions) :
    w.AskedFor ((inspection settings program options).carryOut .nothing w).2 := by
  refine AskedFor.bind (loadMachine_askedFor settings program options) fun machine => ?_
  refine .bind (ofOperation_obeys (Machine.status_obeys _) machine) ?_
  rintro ⟨status, machine⟩
  refine .bind (ofOperation_obeys (Machine.hash_obeys _) machine) fun _ => ?_
  exact .of_done ⟨_, rfl⟩

/-- So does a run, with its status or without. -/
theorem execution_askedFor (settings : Settings) (program : String) (options : MachineOptions)
    (maxSteps : Option UInt64) (json : Bool) :
    w.AskedFor ((execution settings program options maxSteps json).carryOut .nothing w).2 := by
  refine AskedFor.bind (loadMachine_askedFor settings program options) fun machine => ?_
  refine .bind (ofOperation_obeys (Machine.execute_obeys _ _) machine) ?_
  rintro ⟨assertion, machine⟩
  cases json with
  | true => exact .of_done ⟨_, rfl⟩
  | false =>
    refine .bind (ofOperation_obeys (Machine.status_obeys _) machine) fun _ => ?_
    exact .of_done ⟨_, rfl⟩

end Procedure

/-! ### Commands -/

namespace Invocation

/-- The settings come first, and are all that a command reads before it begins. -/
theorem dispatch_carryOut (invocation : Invocation) (mw : Meanwhile) (w : World) :
    invocation.dispatch.carryOut mw w =
      match invocation.settingsIn w.files with
      | .error cause => (.error cause, w)
      | .ok settings =>
        match invocation.command with
        | .inspect program options => (Procedure.inspection settings program options).carryOut mw w
        | .run program options maxSteps json =>
          (Procedure.execution settings program options maxSteps json).carryOut mw w
        | .assemble input output => (Procedure.assembly input output).carryOut mw w := by
  unfold dispatch settingsIn
  cases invocation.settings with
  | none =>
    simp only [Procedure.carryOut_bind, Procedure.carryOut_pure]
    cases invocation.command <;> rfl
  | some path =>
    simp only [Procedure.carryOut_bind, Settings.load, Procedure.readParsed_carryOut]
    cases w.files.parsed Settings.parse path with
    | error cause => rfl
    | ok settings => cases invocation.command <;> rfl

/-- **A command that fails leaves the files as they were.** If the settings cannot be read, nothing
is done at all. To look at a machine or to run one changes no file, and makes one request. To write
an image makes no request. It fails, and changes nothing, if the listing cannot be read, is no valid
program or cannot be written; else the image of the code in the listing is what the output path
holds, and what is at all other locations has not changed. The two paths may be the same. -/
theorem dispatch_frame (invocation : Invocation) (w : World) :
    let done := invocation.dispatch.run.performAlone w
    match invocation.settingsIn w.files with
    | .error cause => done = (.error cause, w)
    | .ok _ =>
      match invocation.command with
      | .inspect _ _ | .run _ _ _ _ => done.2.files = w.files ∧ w.requests done.2 = 1
      | .assemble input output =>
        w.requests done.2 = 0 ∧
          match w.files.parsed Listing.parse input with
          | .error cause => done = (.error cause, w)
          | .ok code =>
            let image := Image.ofCode code
            match image.validate, w.files.write output image.encode with
            | .error cause, _ => done = (.error (.machine cause), w)
            | .ok _, .error cause => done = (.error (.machine (.io output cause)), w)
            | .ok _, .ok _ =>
              (∃ answer, done.1 = .ok answer) ∧
              done.2.files.read output = .ok image.encode ∧
              ∃ location, w.files.locate output = some location ∧
                done.2.files.find? location = some (.file image.encode) ∧
                ∀ other, other ≠ location → done.2.files.find? other = w.files.find? other := by
  intro done
  -- The stages are those of the command in their order; each that fails ends it.
  have hdone : done = _ := invocation.dispatch_carryOut .nothing w
  rw [hdone]
  cases invocation.settingsIn w.files with
  | error cause => rfl
  | ok settings =>
    cases invocation.command with
    | inspect program options =>
      obtain ⟨hfiles, hrequests⟩ :=
        Procedure.inspection_askedFor (w := w) settings program options
      exact ⟨hfiles, hrequests⟩
    | run program options maxSteps json =>
      obtain ⟨hfiles, hrequests⟩ :=
        Procedure.execution_askedFor (w := w) settings program options maxSteps json
      exact ⟨hfiles, hrequests⟩
    | assemble input output =>
      have hnone : w.requests w = 0 := UInt64.sub_self _
      simp only [Procedure.assembly_carryOut]
      cases w.files.parsed Listing.parse input with
      | error cause => exact ⟨hnone, rfl⟩
      | ok code =>
        simp only
        cases (Image.ofCode code).validate with
        | error cause => exact ⟨hnone, rfl⟩
        | ok findings =>
          simp only
          cases hwrite : w.files.write output (Image.ofCode code).encode with
          | error cause => exact ⟨hnone, rfl⟩
          | ok files =>
            refine ⟨hnone, ⟨_, rfl⟩, ?_, ?_⟩
            · exact Files.read_of_write hwrite
            · exact Files.find?_of_write hwrite

end Invocation

end StackMachine
