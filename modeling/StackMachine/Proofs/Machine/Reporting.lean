import StackMachine.Proofs.Counting
import StackMachine.Proofs.Machine.Attempt
import StackMachine.Proofs.Machine.Law

/-!
# Machines report and write nothing

Two laws that machines obey. To make a machine and to ask one does nothing to the world but report,
whatever the machine, the files and the others who are at work. Which events these are depends on
the machine; here it only matters that there is nothing else. A loader counts before it makes a
machine, and not after that.

An action may read files, report and count without writing. While nobody else is at work, the files
alone decide what such an action gives and what it counts (`Action.WritesNothing.decided`): neither
the counters nor the reports of others have a part in it. That holds of making a machine of any kind
and of asking one, and of a loader, which counts and writes nothing either.
-/

namespace StackMachine

variable {α β σ ε : Type}

/-! ### Nothing but reports -/

/-- The action leaves the world as it is but for reports. -/
def Action.OnlyReports (a : Action α) : Prop :=
  ∀ (mw : Meanwhile) (w : World), ∃ events, (a.perform mw w).2 = w.reportAll mw events

theorem Action.OnlyReports.bind {a : Action α} {f : α → Action β} (ha : a.OnlyReports)
    (hf : ∀ x, (f x).OnlyReports) : (a >>= f).OnlyReports := by
  intro mw w
  obtain ⟨first, hfirst⟩ := ha mw w
  -- The second part begins in the world after the reports of the first.
  obtain ⟨second, hsecond⟩ := hf (a.perform mw w).1 mw (w.reportAll mw first)
  refine ⟨first ++ second, ?_⟩
  rw [perform_bind, hfirst, hsecond, World.reportAll_append]

/-- To report and nothing else is a law, since a read leaves the world as it is. -/
def Law.onlyReports : Law where
  Holds := Action.OnlyReports
  done _ _ _ := ⟨[], rfl⟩
  readFile _ _ _ _ := ⟨[], rfl⟩
  report e _ _ := ⟨[e], rfl⟩
  bind := .bind

/-! ### Nothing written -/

namespace Action

/-- No path through the action comes to a write. -/
inductive WritesNothing : Action α → Prop
  | done (a : α) : WritesNothing (done a)
  | read {path : String} {limit : Option Nat} {next : Except OsError ByteArray → Action α}
      (h : ∀ r, WritesNothing (next r)) : WritesNothing (read path limit next)
  | report {e : Event} {next : Unit → Action α} (h : WritesNothing (next ())) :
      WritesNothing (report e next)
  | count {name : String} {next : Unit → Action α} (h : WritesNothing (next ())) :
      WritesNothing (count name next)

namespace WritesNothing

theorem bind {a : Action α} {f : α → Action β} (ha : a.WritesNothing)
    (hf : ∀ x, (f x).WritesNothing) : (a >>= f).WritesNothing := by
  show (a.bind f).WritesNothing
  induction ha with
  | done a => exact hf a
  | read _ ih => exact .read ih
  | report _ ih => exact .report ih
  | count _ ih => exact .count ih

theorem map {a : Action α} (ha : a.WritesNothing) (f : α → β) : (f <$> a).WritesNothing := by
  rw [← bind_pure_comp]
  exact ha.bind fun x => .done (f x)

/-- **The files decide what an action gives that writes nothing**, and what it counts. -/
theorem decided {a : Action α} (ha : a.WritesNothing) (files : Files) :
    ∃ x names, ∀ w : World, w.files = files →
      ∃ w', a.perform .nothing w = (x, w') ∧ w'.files = files ∧
        w'.counters = w.counters.incrementAll names := by
  induction ha with
  | done a => exact ⟨a, [], fun w hw => ⟨w, rfl, hw, rfl⟩⟩
  | @read path limit next _ ih =>
    -- What is read is the same in every world with these files.
    obtain ⟨x, names, hnext⟩ := ih (World.read ⟨files, #[], []⟩ path limit)
    refine ⟨x, names, fun w hw => ?_⟩
    obtain ⟨w', hperform, hafter⟩ := hnext w hw
    subst hw
    exact ⟨w', hperform, hafter⟩
  | @report e next _ ih =>
    obtain ⟨x, names, hnext⟩ := ih
    exact ⟨x, names, fun w hw => hnext (w.report .nothing e) hw⟩
  | @count name next _ ih =>
    obtain ⟨x, names, hnext⟩ := ih
    exact ⟨x, name :: names, fun w hw => hnext (w.count name) hw⟩

end WritesNothing

end Action

/-- To write nothing is a law: reads and reports do so. -/
def Law.writesNothing : Law where
  Holds := Action.WritesNothing
  done := .done
  readFile _ _ := .read fun r => .done r
  report _ := .report (.done ())
  bind := .bind

theorem count_writesNothing (name : String) : (count name).WritesNothing := .count (.done ())

/-- An attempt, whatever its failures, that writes nothing. -/
def Attempt.WritesNothing (a : ExceptT ε Action α) : Prop := (ExceptT.run a).WritesNothing

/-- An operation that writes nothing, whatever the machine. -/
def Operation.WritesNothing (op : Operation σ α) : Prop :=
  ∀ machine, (op.on machine).WritesNothing

/-- To ask a machine anything writes nothing. -/
theorem Machine.reply_writesNothing (query : Query) : (reply query).WritesNothing :=
  reply_obeys .writesNothing query

namespace Loader

/-- To make a machine of any kind writes nothing. -/
theorem builtin_writesNothing (kind : Backend) (path : String) (warn : Bool) :
    Attempt.WritesNothing (builtin.constructor kind path warn) :=
  builtin_obeys .writesNothing kind path warn

variable {loader : Loader Action}

/-- A loader writes nothing beyond what its constructors write. -/
theorem load_writesNothing
    (h : ∀ kind path warn, Attempt.WritesNothing (loader.constructor kind path warn))
    (path : String) (warn : Bool) (text : String) :
    Attempt.WritesNothing (loader.load path warn text) := by
  -- Up to the constructor, the loader is an attempt of reports and counts.
  show Attempt.Obeys .writesNothing _
  refine .bind (.action (count_writesNothing _)) fun _ => ?_
  cases hkind : Backend.ofText? text with
  | none =>
    refine .bind (.action (count_writesNothing _)) fun _ => ?_
    exact .bind (.action (Law.writesNothing.report _)) fun _ => .of_done ⟨_, rfl⟩
  | some kind =>
    refine .bind (.action (Law.writesNothing.report _)) fun _ => ?_
    refine .bind (.action (count_writesNothing _)) fun _ => ?_
    exact Action.WritesNothing.map (h kind path warn) _

end Loader

end StackMachine
