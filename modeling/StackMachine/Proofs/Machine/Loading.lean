import StackMachine.Proofs.Machine.History
import StackMachine.Proofs.Machine.Instrumented

/-!
# Loading into a fleet

A request for a kind by its name runs the constructor of that kind, after a report and two counts
(`Loader.load_perform`), and puts the machine into the fleet (`Scene.perform_load`).
-/

namespace StackMachine

variable {mw : Meanwhile}

@[simp] theorem Backend.ofText?_name (kind : Backend) : ofText? kind.name = some kind := by
  cases kind <;> decide

namespace Loader

def requested (mw : Meanwhile) (path : String) (warn : Bool) (kind : Backend) (w : World) : World :=
  ((w.count "loader.requests").report mw (.loading kind path warn)).count kind.counter

/-- A text that selects a kind runs the constructor of this kind. -/
theorem load_perform_of_some (loader : Loader Action) (path : String) (warn : Bool) {text : String}
    {kind : Backend} (h : Backend.ofText? text = some kind) (w : World) :
    (loader.load path warn text).run.perform mw w =
      let made := (loader.constructor kind path warn).run.perform mw
        (requested mw path warn kind w)
      (made.1.mapError .backend, made.2) := by
  unfold load
  rw [h]
  -- The counts and the report come first; what is left is the constructor.
  show (Except.mapError LoaderFailure.backend <$> (loader.constructor kind path warn).run).perform
    mw (requested mw path warn kind w) = _
  exact Action.perform_map mw _ _ _

/-- A text that selects no kind is counted and reported. -/
theorem load_perform_of_none (loader : Loader Action) (path : String) (warn : Bool) {text : String}
    (h : Backend.ofText? text = none) (w : World) :
    (loader.load path warn text).run.perform mw w =
      (.error (.unrecognized text),
        ((w.count "loader.requests").count "loader.rejected").report mw (.rejectedKind text)) := by
  unfold load
  rw [h]
  rfl

/-- To ask for a kind by its name. -/
theorem load_perform (loader : Loader Action) (path : String) (warn : Bool) (kind : Backend)
    (w : World) :
    (loader.load path warn kind.name).run.perform mw w =
      let made := (loader.constructor kind path warn).run.perform mw
        (requested mw path warn kind w)
      (made.1.mapError .backend, made.2) :=
  loader.load_perform_of_some path warn kind.ofText?_name w

end Loader

namespace Scene

theorem perform_load_of_some (s : Scene) (name path : String) (warn : Bool) {text : String}
    {kind : Backend} (h : Backend.ofText? text = some kind) :
    s.perform mw (.load name path warn text) =
      match Attempt.carryOut (Loader.builtin.constructor kind path warn) mw
        (Loader.requested mw path warn kind s.world) with
      | (.ok machine, w) => (.made machine.backend, ⟨s.fleet.put name machine, w⟩)
      | (.error cause, w) => (.refused (.backend cause), ⟨s.fleet, w⟩) := by
  simp only [perform, Fleet.perform, Action.perform_bind, Loader.load_perform_of_some _ _ _ h,
    Attempt.carryOut]
  -- Either the constructor has failed, or there is a machine to be put.
  rcases (Loader.builtin.constructor kind path warn).run.perform mw _ with ⟨cause | machine, w⟩
  · rfl
  · rfl

/-- A text that selects no kind leaves the fleet as it is. -/
theorem perform_load_of_none (s : Scene) (name path : String) (warn : Bool) {text : String}
    (h : Backend.ofText? text = none) :
    s.perform mw (.load name path warn text) =
      (.refused (.unrecognized text),
        ⟨s.fleet, ((s.world.count "loader.requests").count "loader.rejected").report mw
          (.rejectedKind text)⟩) := by
  simp only [perform, Fleet.perform, Action.perform_bind, Loader.load_perform_of_none _ _ _ h]
  rfl

theorem perform_load (s : Scene) (name path : String) (warn : Bool) (kind : Backend) :
    s.perform mw (.load name path warn kind.name) =
      match Attempt.carryOut (Loader.builtin.constructor kind path warn) mw
        (Loader.requested mw path warn kind s.world) with
      | (.ok machine, w) => (.made machine.backend, ⟨s.fleet.put name machine, w⟩)
      | (.error cause, w) => (.refused (.backend cause), ⟨s.fleet, w⟩) :=
  s.perform_load_of_some name path warn kind.ofText?_name

theorem perform_make (s : Scene) (name path : String) (warn : Bool) (kind : Backend) :
    s.perform mw (.make name path warn kind) =
      match Attempt.carryOut (Loader.builtin.constructor kind path warn) mw s.world with
      | (.ok machine, w) => (.made machine.backend, ⟨s.fleet.put name machine, w⟩)
      | (.error cause, w) => (.failed cause, ⟨s.fleet, w⟩) := by
  simp only [perform, Fleet.perform, Action.perform_bind, Attempt.carryOut]
  rcases (Loader.builtin.constructor kind path warn).run.perform mw s.world with
    ⟨cause | machine, w⟩
  · rfl
  · rfl

end Scene

/-! ### Loading while nobody else is at work -/

/-- The machine of a kind that a valid program file gives. -/
def Machine.made (path : String) (warn : Bool) (core : Core) : Backend → Machine
  | .reference => .reference ⟨path, warn, core⟩
  | .native => .native (.new path)
  | .instrumented => .instrumented (.paired path warn core)

theorem Machine.backend_made (path : String) (warn : Bool) (core : Core) (kind : Backend) :
    (made path warn core kind).backend = kind := by
  cases kind <;> rfl

namespace Loader

variable {path : String} (warn : Bool) {w : World}

/-- The reports of a constructor that makes a machine of a valid program. -/
def makeEvents (path : String) (warn : Bool) (image : Image) (findings : List Finding) :
    Backend → List Event
  | .reference => ReferenceMachine.loadEvents path warn image findings
  | .native => []
  | .instrumented => InstrumentedMachine.loadEvents path warn image findings

/-- From a valid program every constructor makes a machine, and reports what is to be reported about
it. -/
theorem builtin_carryOut_of_program {image : Image} {findings : List Finding}
    (h : w.files.program path = .ok (image, findings)) (kind : Backend) :
    Attempt.carryOut (builtin.constructor kind path warn) .nothing w =
      (.ok (.made path warn (.ofImage image) kind),
        w.reportAll .nothing (makeEvents path warn image findings kind)) := by
  cases kind with
  | reference =>
    simp only [constructor, builtin, Attempt.carryOut_bind, ReferenceMachine.load_carryOut, h]
    rfl
  | native => rfl
  | instrumented =>
    simp only [constructor, builtin, Attempt.carryOut_bind,
      InstrumentedMachine.load_of_unchanged (ReferenceMachine.load_nothing_read path warn w), h]
    rfl

/-- A valid program file gives a machine of every kind. -/
theorem builtin_carryOut_of_valid {image : Image} {findings : List Finding}
    (h : w.files.program path = .ok (image, findings)) (kind : Backend) :
    ∃ w', Attempt.carryOut (builtin.constructor kind path warn) .nothing w =
      (.ok (.made path warn (.ofImage image) kind), w') ∧ w'.files = w.files :=
  ⟨_, builtin_carryOut_of_program warn h kind, World.reportAll_nothing_files w _⟩

/-- From any other file only a native machine is made. -/
theorem builtin_carryOut_of_invalid {cause : Failure} (h : w.files.program path = .error cause)
    {kind : Backend} (hkind : kind ≠ .native) :
    Attempt.carryOut (builtin.constructor kind path warn) .nothing w = (.error cause, w) := by
  cases kind with
  | reference =>
    simp only [constructor, builtin, Attempt.carryOut_bind, ReferenceMachine.load_carryOut, h]
  | native => exact absurd rfl hkind
  | instrumented =>
    simp only [constructor, builtin, Attempt.carryOut_bind,
      InstrumentedMachine.load_of_unchanged (ReferenceMachine.load_nothing_read path warn w), h]

end Loader

end StackMachine
