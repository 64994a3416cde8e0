import StackMachine.Machine.Fleet
import StackMachine.Proofs.Machine.Instrumented

/-!
# What machines reply

Whatever its kind, a machine replies what a core replies: `Core.answer` is the reply of a core to a
query and the core after it, and each kind of machine finds its core in its own way. So the
equations here (`reply_reference`, `reply_native`, `reply_instrumented`) differ in where the core
is found and in what is reported, not in the reply.
-/

namespace StackMachine

/-- The reply of a core to a query, and the core after it. -/
def Core.answer (core : Core) : Query → Reply × Core
  | .hash => (.hash core.hash, core)
  | .status => (.status core.status, core)
  | .execute maxSteps => (.execution (core.run maxSteps).2, (core.run maxSteps).1)

def Core.asked (core : Core) (queries : List Query) : Core :=
  queries.foldl (fun core query => (core.answer query).2) core

theorem Core.asked_append (core : Core) (first second : List Query) :
    core.asked (first ++ second) = (core.asked first).asked second :=
  List.foldl_append

/-- The last query of a sequence is put to the core after the others. -/
theorem Core.asked_concat (core : Core) (queries : List Query) (query : Query) :
    core.asked (queries ++ [query]) = ((core.asked queries).answer query).2 :=
  core.asked_append queries [query]

def ReferenceMachine.replyEvents (machine : ReferenceMachine) : Query → List Event
  | .execute maxSteps => machine.runEvents maxSteps
  | _ => []

/-- A machine in lockstep after its reply to a query. -/
def InstrumentedMachine.answered (machine : InstrumentedMachine) : Query → InstrumentedMachine
  | .execute maxSteps => machine.ran (machine.reference.core.run maxSteps).1
  | _ => machine

namespace InstrumentedMachine

theorem lockstep_answered {machine : InstrumentedMachine} (h : machine.Lockstep) (query : Query) :
    (machine.answered query).Lockstep := by
  cases query with
  | hash => exact h
  | status => exact h
  | execute maxSteps => exact lockstep_ran machine _

@[simp] theorem reference_core_answered (machine : InstrumentedMachine) (query : Query) :
    (machine.answered query).reference.core = (machine.reference.core.answer query).2 := by
  cases query <;> rfl

end InstrumentedMachine

namespace Machine

variable (mw : Meanwhile)

/-- A reference machine replies from the core that it has. -/
theorem reply_reference (query : Query) (machine : ReferenceMachine) (w : World) :
    (reply query).carryOut mw (.reference machine) w =
      ((.ok (machine.core.answer query).1,
        .reference { machine with core := (machine.core.answer query).2 }),
        w.reportAll mw (machine.replyEvents query)) := by
  cases query with
  | hash => rfl
  | status => rfl
  | execute maxSteps =>
    simp only [reply, execute, Operation.carryOut_bind, Operation.carryOut_get,
      Operation.carryOut_within, ReferenceMachine.execute_carryOut]
    rfl

/-- A native machine replies from its content, or fails as often as it is asked. -/
theorem reply_native (query : Query) (machine : NativeMachine) (w : World) :
    (reply query).carryOut mw (.native machine) w =
      (match machine.content w.files with
        | .ok core =>
          (.ok (core.answer query).1, .native (machine.holding (.ok (core.answer query).2)))
        | .error cause =>
          (.error (.loadFailed machine.path cause), .native (machine.holding (.error cause))),
        w.reportAll mw (machine.fillEvents w.files)) := by
  cases query
  -- For each query the same operation on the core, with another use of it.
  all_goals
    simp only [reply, hash, status, execute, NativeMachine.hash, NativeMachine.status,
      NativeMachine.execute, Operation.carryOut_bind, Operation.carryOut_get,
      Operation.carryOut_within, NativeMachine.withCore_carryOut]
    cases machine.content w.files <;> rfl

/-- In lockstep the reply is that of either half. -/
theorem reply_instrumented (query : Query) {machine : InstrumentedMachine}
    (h : machine.Lockstep) (w : World) :
    (reply query).carryOut mw (.instrumented machine) w =
      ((.ok (machine.reference.core.answer query).1, .instrumented (machine.answered query)),
        w.reportAll mw (machine.reference.replyEvents query)) := by
  cases query with
  | hash =>
    simp only [reply, hash, InstrumentedMachine.hash, Operation.carryOut_bind,
      Operation.carryOut_get, Operation.carryOut_within,
      InstrumentedMachine.check_of_lockstep h]
    rfl
  | status =>
    simp only [reply, status, Operation.carryOut_bind, Operation.carryOut_get,
      Operation.carryOut_within, InstrumentedMachine.status_of_lockstep h]
    rfl
  | execute maxSteps =>
    simp only [reply, execute, Operation.carryOut_bind, Operation.carryOut_get,
      Operation.carryOut_within, InstrumentedMachine.execute_of_lockstep h]
    rfl

/-- What a machine of any kind replies from, as long as the files are as given. -/
def StandsAt (files : Files) (core : Core) : Machine → Prop
  | reference machine => machine.core = core
  | native machine => machine.content files = .ok core
  | instrumented machine => machine.Lockstep ∧ machine.reference.core = core

/-- A machine replies what its core replies, and then stands at the core after that. The world is
the same but for reports. -/
theorem reply_of_standsAt {w : World} {core : Core} {machine : Machine}
    (h : machine.StandsAt w.files core) (query : Query) :
    ∃ next events, (reply query).carryOut mw machine w =
        ((.ok (core.answer query).1, next), w.reportAll mw events) ∧
      next.backend = machine.backend ∧ ∀ files, next.StandsAt files (core.answer query).2 := by
  cases machine with
  | reference machine =>
    subst h
    exact ⟨_, _, reply_reference mw query machine w, rfl, fun _ => rfl⟩
  | native machine =>
    have hreply := reply_native mw query machine w
    rw [show machine.content w.files = .ok core from h] at hreply
    -- The slot is filled now, so from here on the files do not matter.
    exact ⟨_, _, hreply, rfl, fun files => NativeMachine.content_of_slot rfl files⟩
  | instrumented machine =>
    obtain ⟨hlockstep, rfl⟩ := h
    have hnext := InstrumentedMachine.lockstep_answered hlockstep query
    exact ⟨_, _, reply_instrumented mw query hlockstep w, rfl, fun _ =>
      ⟨hnext, machine.reference_core_answered query⟩⟩

end Machine

end StackMachine
