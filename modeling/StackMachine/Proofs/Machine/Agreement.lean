import Mathlib.Tactic.Choose
import StackMachine.Proofs.Machine.Loading
import StackMachine.Proofs.Machine.Reply

/-!
# Agreement of the backends

If nobody changes the files, machines of the three kinds that are loaded from the same path cannot
be told apart by what they reply: each replies what the core of the program does. If there is no
valid program, a native machine is made nevertheless, and fails whenever it is asked, for the
reason for which the others are refused.
-/

namespace StackMachine

variable {w : World} {path : String}

/-! ### Machines of a valid program -/

/-- A reply leaves a machine at the core after the queries. -/
theorem replyKeeps_standsAt (files : Files) (core : Core) :
    ReplyKeeps .nothing (· = files)
      (fun machine queries => machine.StandsAt files (core.asked queries)) := by
  rintro query machine queries w rfl hstands
  obtain ⟨next, events, hreply, -, hnext⟩ := Machine.reply_of_standsAt .nothing hstands query
  rw [hreply]
  refine ⟨World.reportAll_nothing_files w events, ?_⟩
  show next.StandsAt w.files (core.asked (queries ++ [query]))
  rw [Core.asked_concat]
  exact hnext w.files

/-- A machine that is made of the program stands at its start. -/
theorem made_standsAt {image : Image} {findings : List Finding}
    (h : w.files.program path = .ok (image, findings)) (warn : Bool) (kind : Backend) :
    (Machine.made path warn (.ofImage image) kind).StandsAt w.files (.ofImage image) := by
  cases kind with
  | reference => rfl
  | native =>
    show (NativeMachine.new path).content w.files = .ok (.ofImage image)
    rw [NativeMachine.content_new, h]
    rfl
  | instrumented => exact ⟨rfl, rfl⟩

/-- Whatever kind is requested, the machine and its copies reply what the core of the program
does. -/
theorem load_of_valid {image : Image} {findings : List Finding}
    (h : w.files.program path = .ok (image, findings)) (name : String) (warn : Bool)
    (kind : Backend) :
    ∃ s, (Scene.start w).perform .nothing (.load name path warn kind.name) = (.made kind, s) ∧
      ∀ uses : List Use,
        (s.after .nothing (uses.map .use)).Answers .nothing
          ((Lineage.founder name).after (uses.map .use))
          fun queries query => .replied (((Core.ofImage image).asked queries).answer query).1 := by
  obtain ⟨w', hload, hfiles⟩ := Loader.builtin_carryOut_of_valid warn
    (w := Loader.requested .nothing path warn kind w) h kind
  refine ⟨.single name (.made path warn (.ofImage image) kind) w', ?_, ?_⟩
  · rw [Scene.perform_load, Scene.start, hload]
    simp only [Machine.backend_made]
    rfl
  · intro uses
    have hfollows := Follows.founder_after_uses (replyKeeps_standsAt w.files (.ofImage image))
      hfiles (made_standsAt h warn kind) name uses
    refine hfollows.answers ?_
    intro query machine queries w₁ hw₁ hstands
    -- No history of uses has changed the files, so the machine stands there in the world as it is
    -- now.
    rw [← hw₁] at hstands
    obtain ⟨next, events, hreply, -⟩ := Machine.reply_of_standsAt .nothing hstands query
    rw [hreply]
    rfl

/-! ### Machines of no valid program -/

/-- A native machine that fails for a given reason, as long as the files are as given. -/
def FailsFor (path : String) (cause : Failure) (files : Files) (machine : Machine) : Prop :=
  ∃ native : NativeMachine, machine = .native native ∧ native.path = path ∧
    native.content files = .error cause

theorem FailsFor.reply {cause : Failure} {machine : Machine}
    (h : FailsFor path cause w.files machine) (query : Query) :
    ∃ next events, (Machine.reply query).carryOut .nothing machine w =
        ((.error (.loadFailed path cause), next), w.reportAll .nothing events) ∧
      FailsFor path cause w.files next := by
  obtain ⟨native, rfl, rfl, hcontent⟩ := h
  have hreply := Machine.reply_native .nothing query native w
  rw [hcontent] at hreply
  exact ⟨_, _, hreply, native.holding (.error cause), rfl, rfl, rfl⟩

/-- A reply leaves it at that. -/
theorem replyKeeps_failsFor (path : String) (cause : Failure) (files : Files) :
    ReplyKeeps .nothing (· = files) (fun machine _ => FailsFor path cause files machine) := by
  rintro query machine queries w rfl hfails
  obtain ⟨next, events, hreply, hnext⟩ := hfails.reply query
  rw [hreply]
  exact ⟨World.reportAll_nothing_files w events, hnext⟩

/-- The native machine that is made nevertheless, and its copies, fail for that reason. -/
theorem load_native_of_invalid {cause : Failure} (h : w.files.program path = .error cause)
    (name : String) (warn : Bool) :
    ∃ s, (Scene.start w).perform .nothing (.load name path warn Backend.native.name) =
        (.made .native, s) ∧
      ∀ uses : List Use,
        (s.after .nothing (uses.map .use)).Answers .nothing
          ((Lineage.founder name).after (uses.map .use))
          fun _ _ => .failed (.loadFailed path cause) := by
  refine ⟨.single name (.native (.new path)) (Loader.requested .nothing path warn .native w),
    ?_, ?_⟩
  · rw [Scene.perform_load]
    rfl
  · intro uses
    have hnew : FailsFor path cause w.files (.native (.new path)) := by
      refine ⟨.new path, rfl, rfl, ?_⟩
      rw [NativeMachine.content_new, h]
      rfl
    have hfollows := Follows.founder_after_uses (replyKeeps_failsFor path cause w.files)
      (w := Loader.requested .nothing path warn .native w) rfl hnew name uses
    refine hfollows.answers ?_
    intro query machine queries w₁ hw₁ hfails
    -- Nor has the file been mended since.
    rw [← hw₁] at hfails
    obtain ⟨next, events, hreply, -⟩ := hfails.reply query
    rw [hreply]
    rfl

/-- The other kinds are refused for that reason. -/
theorem load_of_invalid {cause : Failure} (h : w.files.program path = .error cause)
    (name : String) (warn : Bool) {kind : Backend} (hkind : kind ≠ .native) :
    ((Scene.start w).perform .nothing (.load name path warn kind.name)).1 =
      .refused (.backend cause) := by
  have hfails := Loader.builtin_carryOut_of_invalid warn
    (w := Loader.requested .nothing path warn kind w) h hkind
  rw [Scene.perform_load, Scene.start, hfails]

/-! ### Agreement -/

/-- **Machines of the three kinds agree, and fail for the same reason.** -/
theorem backends_agree (w : World) (name path : String) (warn : Bool) :
    match ((ReferenceMachine.load path warn).carryOut .nothing w).1 with
    | .ok machine =>
      ∃ s : Backend → Scene,
        (∀ kind, (Scene.start w).perform .nothing (.load name path warn kind.name) =
          (.made kind, s kind)) ∧
        ∀ kind (uses : List Use),
          ((s kind).after .nothing (uses.map .use)).Answers .nothing
            ((Lineage.founder name).after (uses.map .use))
            fun queries query => .replied ((machine.core.asked queries).answer query).1
    | .error cause =>
      (∀ kind : Backend, kind ≠ .native →
        ((Scene.start w).perform .nothing (.load name path warn kind.name)).1 =
          .refused (.backend cause)) ∧
      (LoaderFailure.backend cause).message = cause.message ∧
      (LoaderFailure.backend cause).causes = cause.causes ∧
      (∃ s, (Scene.start w).perform .nothing (.load name path warn Backend.native.name) =
          (.made .native, s) ∧
        ∀ uses : List Use,
          (s.after .nothing (uses.map .use)).Answers .nothing
            ((Lineage.founder name).after (uses.map .use))
            fun _ _ => .failed (.loadFailed path cause)) ∧
      (Failure.loadFailed path cause).causes = cause.message :: cause.causes := by
  rw [ReferenceMachine.load_carryOut]
  rcases hprogram : w.files.program path with cause | ⟨image, findings⟩
  · exact ⟨fun kind hkind => load_of_invalid hprogram name warn hkind, rfl, rfl,
      load_native_of_invalid hprogram name warn, Failure.causes_loadFailed path cause⟩
  · choose s hload hanswers using load_of_valid hprogram name warn
    exact ⟨s, hload, hanswers⟩

end StackMachine
