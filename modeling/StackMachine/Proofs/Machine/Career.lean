import StackMachine.Proofs.Core.Run
import StackMachine.Proofs.Machine.Loading
import StackMachine.Proofs.Machine.Reply

/-!
# Careers of machines

What is known about a machine from outside, while nobody changes the files: how it was made, what
had been asked of the machines it is a copy of, and what it has been asked itself. That is its
`Career`.

A career says which warnings a machine gives at a query (`Career.warningsAt`), and which it has
given so far (`Career.warnings`). The second is the sum of the first (`Career.warnings_asked`),
because a core that has stopped stays as it is: there is one query at which it stops, or none. A
machine with a career replies as the first one says (`Career.Describes.reply`).
-/

namespace StackMachine

/-! ### Warnings -/

def Event.warnings (events : List Event) : List Event := events.filter (·.level = .warn)

theorem Event.warnings_append (first second : List Event) :
    warnings (first ++ second) = warnings first ++ warnings second :=
  List.filter_append first second

/-- What has been reported in a world since an earlier one. -/
def World.since (before after : World) : List Event :=
  after.events.toList.drop before.events.size

theorem World.since_of_append {before after : World} {events : List Event}
    (h : after.events.toList = before.events.toList ++ events) : before.since after = events := by
  unfold since
  rw [h, ← Array.length_toList, List.drop_left]

/-! ### Cores that stop -/

namespace Core

variable {core : Core}

/-- A core that has stopped is left as it is, whatever it is asked. -/
theorem answer_of_stopped (h : core.status ≠ .extensive) (query : Query) :
    (core.answer query).2 = core := by
  cases query with
  | hash => rfl
  | status => rfl
  | execute maxSteps => exact congrArg Prod.fst (Core.run_of_stopped h maxSteps)

/-- So is it by any number of queries. -/
theorem asked_of_stopped (h : core.status ≠ .extensive) (queries : List Query) :
    core.asked queries = core := by
  induction queries with
  | nil => rfl
  | cons query queries ih =>
    show (core.answer query).2.asked queries = core
    rw [answer_of_stopped h, ih]

/-- That a program has stopped with an error, if it has done so between two cores. -/
def stopWarnings (path : String) (before after : Core) : List Event :=
  if before.status = .extensive ∧ after.status = .errorStop then
    [.stoppedWithError path after.pc]
  else []

theorem stopWarnings_of_stopped (h : core.status ≠ .extensive) (path : String) (after : Core) :
    stopWarnings path core after = [] :=
  if_neg fun hstops => h hstops.1

@[simp] theorem stopWarnings_self (path : String) (core : Core) :
    stopWarnings path core core = [] := by
  by_cases h : core.status = .extensive
  · refine if_neg ?_
    rintro ⟨-, hstopped⟩
    rw [h] at hstopped
    cases hstopped
  · exact stopWarnings_of_stopped h path core

/-- A program stops in one stretch of a sequence of queries, or in none. -/
theorem stopWarnings_concat (path : String) (core : Core) (queries : List Query) (query : Query) :
    stopWarnings path core (core.asked (queries ++ [query])) =
      stopWarnings path core (core.asked queries) ++
        stopWarnings path (core.asked queries) ((core.asked queries).answer query).2 := by
  rw [asked_concat]
  by_cases hnow : (core.asked queries).status = .extensive
  · -- So far nothing has stopped, so the core has been extensive from the beginning.
    have hcore : core.status = .extensive := by
      by_contra hstopped
      rw [asked_of_stopped hstopped] at hnow
      exact hstopped hnow
    have hgoing : stopWarnings path core (core.asked queries) = [] := by
      refine if_neg ?_
      rintro ⟨-, hstopped⟩
      rw [hnow] at hstopped
      cases hstopped
    rw [hgoing, List.nil_append]
    simp only [stopWarnings, hcore, hnow]
  · rw [answer_of_stopped hnow, stopWarnings_self, List.append_nil]

end Core

/-! ### Careers -/

/-- How a machine was made, what had been asked before that of the machines it is a copy of, and
what it has been asked itself, the first query first. -/
structure Career where
  kind : Backend
  path : String
  warn : Bool
  isCopy : Bool
  inherited : List Query
  own : List Query

/-- Whether a machine of a kind gives warnings about its program. A native machine never does. -/
def Backend.warns (kind : Backend) (warn : Bool) : Bool := warn && kind ≠ .native

def Backend.loadWarnings (kind : Backend) (files : Files) (path : String) (warn : Bool) :
    List Event :=
  match files.program path with
  | .ok (_, findings) => if kind.warns warn then findings.map (.oddity path) else []
  | .error _ => []

namespace Career

def made (path : String) (warn : Bool) (kind : Backend) : Career :=
  ⟨kind, path, warn, false, [], []⟩

def asked (career : Career) (query : Query) : Career :=
  { career with own := career.own ++ [query] }

def copied (career : Career) : Career :=
  { career with isCopy := true, inherited := career.inherited ++ career.own, own := [] }

def queries (career : Career) : List Query := career.inherited ++ career.own

/-- Where the queries have brought the program of the file, if there is one. -/
def core (career : Career) (files : Files) : Except Failure Core :=
  (files.program career.path).map fun found => (Core.ofImage found.1).asked career.queries

theorem queries_asked (career : Career) (query : Query) :
    (career.asked query).queries = career.queries ++ [query] :=
  (List.append_assoc career.inherited career.own [query]).symm

@[simp] theorem queries_copied (career : Career) : career.copied.queries = career.queries :=
  List.append_nil _

@[simp] theorem core_copied (career : Career) (files : Files) :
    career.copied.core files = career.core files := by
  simp only [core, queries_copied]
  rfl

/-- A query takes the core of a career one step on. -/
theorem core_asked (career : Career) (query : Query) (files : Files) :
    (career.asked query).core files =
      (career.core files).map fun core => (core.answer query).2 := by
  show Except.map _ (files.program career.path) = Except.map _ (Except.map _ _)
  rw [queries_asked]
  cases files.program career.path with
  | error cause => rfl
  | ok found => exact congrArg Except.ok (Core.asked_concat _ career.queries query)

/-! ### Warnings that are due -/

/-- The warnings of a machine at a query: that the program stops with an error in it, if the machine
is one that warns; or that there is no program, if it is the first query to a native machine. -/
def warningsAt (career : Career) (files : Files) (query : Query) : List Event :=
  match career.core files, query with
  | .ok core, .execute maxSteps =>
    if career.kind.warns career.warn then
      Core.stopWarnings career.path core (core.run maxSteps).1
    else []
  | .ok _, _ => []
  | .error cause, _ => if career.queries = [] then [.nativeFailed career.path cause] else []

/-- The warnings of a machine from its beginning on. A copy begins where it is copied. -/
def warnings (career : Career) (files : Files) : List Event :=
  match files.program career.path with
  | .ok (image, findings) =>
    let born := (Core.ofImage image).asked career.inherited
    if career.kind.warns career.warn then
      (if career.isCopy then [] else findings.map (.oddity career.path)) ++
        Core.stopWarnings career.path born (born.asked career.own)
    else []
  | .error cause =>
    if career.inherited = [] ∧ career.own ≠ [] then [.nativeFailed career.path cause] else []

theorem warnings_of_program {career : Career} {files : Files} {image : Image}
    {findings : List Finding} (h : files.program career.path = .ok (image, findings)) :
    career.warnings files =
      if career.kind.warns career.warn then
        (if career.isCopy then [] else findings.map (.oddity career.path)) ++
          Core.stopWarnings career.path ((Core.ofImage image).asked career.inherited)
            (((Core.ofImage image).asked career.inherited).asked career.own)
      else [] := by
  simp only [warnings, h]

/-- A career begins with the warnings of the load. -/
theorem warnings_made (files : Files) (path : String) (warn : Bool) (kind : Backend) :
    (made path warn kind).warnings files = kind.loadWarnings files path warn := by
  unfold Backend.loadWarnings
  rcases hprogram : files.program path with cause | ⟨image, findings⟩
  · simp only [warnings, made, hprogram]
    rfl
  · have hwarnings : (made path warn kind).warnings files =
        if kind.warns warn then
          findings.map (.oddity path) ++ Core.stopWarnings path (.ofImage image) (.ofImage image)
        else [] := warnings_of_program hprogram
    rw [hwarnings, Core.stopWarnings_self, List.append_nil]

/-- A copy begins without warnings: those of its model are not repeated. -/
theorem warnings_copied (career : Career) (files : Files) : career.copied.warnings files = [] := by
  rcases hprogram : files.program career.path with cause | ⟨image, findings⟩
  · simp only [warnings, copied, hprogram, ne_eq, not_true_eq_false, and_false, if_false]
  · -- A copy begins at the core where it is copied, and has not gone on from there.
    have hwarnings : career.copied.warnings files =
        if career.kind.warns career.warn then
          [] ++ Core.stopWarnings career.path ((Core.ofImage image).asked career.queries)
            ((Core.ofImage image).asked career.queries)
        else [] := warnings_of_program hprogram
    rw [hwarnings, Core.stopWarnings_self, List.append_nil, ite_self]

/-- To ask for anything but a run stops no program. -/
theorem warningsAt_of_core {career : Career} {files : Files} {core : Core}
    (h : career.core files = .ok core) (query : Query) :
    career.warningsAt files query =
      if career.kind.warns career.warn then
        Core.stopWarnings career.path core (core.answer query).2
      else [] := by
  unfold warningsAt
  rw [h]
  cases query with
  | hash => exact (ite_eq_right_iff.mpr fun _ => Core.stopWarnings_self _ core).symm
  | status => exact (ite_eq_right_iff.mpr fun _ => Core.stopWarnings_self _ core).symm
  | execute maxSteps => rfl

/-- **One more query adds its own warnings.** -/
theorem warnings_asked (career : Career) (query : Query) (files : Files) :
    (career.asked query).warnings files =
      career.warnings files ++ career.warningsAt files query := by
  rcases hprogram : files.program career.path with cause | ⟨image, findings⟩
  · have hcore : career.core files = .error cause := by
      rw [core, hprogram]
      rfl
    simp only [warnings, warningsAt, asked, queries, hcore, hprogram]
    -- Without a program, one warning is due in all, at the first query of a machine that has
    -- inherited none.
    by_cases hinherited : career.inherited = []
    · by_cases hown : career.own = []
      · simp [hinherited, hown]
      · simp [hinherited, hown]
    · simp [hinherited]
  · have hcore : career.core files =
        .ok (((Core.ofImage image).asked career.inherited).asked career.own) := by
      rw [← Core.asked_append, core, hprogram]
      rfl
    have hasked : (career.asked query).warnings files =
        if career.kind.warns career.warn then
          (if career.isCopy then [] else findings.map (.oddity career.path)) ++
            Core.stopWarnings career.path ((Core.ofImage image).asked career.inherited)
              (((Core.ofImage image).asked career.inherited).asked (career.own ++ [query]))
        else [] := warnings_of_program hprogram
    -- Those of the load stay in front; the rest is one stretch more of the same queries.
    rw [hasked, warnings_of_program hprogram, warningsAt_of_core hcore, Core.stopWarnings_concat]
    cases career.kind.warns career.warn with
    | false => rfl
    | true => exact (List.append_assoc _ _ _).symm

/-- A program that runs off its end at the second query, and copies from before and after that. -/
example :
    let files := (World.withFile "p" (Image.ofCode #[.nop]).encode).files
    let career := (made "p" true .reference).asked (.execute 1)
    career.warnings files = [.oddity "p" .noHalt] ∧
      career.warningsAt files (.execute 1) = [.stoppedWithError "p" 1] ∧
      career.copied.warningsAt files (.execute 1) = [.stoppedWithError "p" 1] ∧
      (career.asked (.execute 1)).copied.warningsAt files (.execute 1) = [] := by
  decide +kernel

/-! ### The machine of a career -/

/-- The machine is of the kind, has the path and the flag, and its core is where the queries have
brought it. A native machine that has not been asked has not looked at its file. -/
def Describes (career : Career) (files : Files) : Machine → Prop
  | .reference machine =>
    career.kind = .reference ∧ machine.path = career.path ∧ machine.warn = career.warn ∧
      career.core files = .ok machine.core
  | .native machine =>
    career.kind = .native ∧ machine.path = career.path ∧
      machine.slot = if career.queries = [] then none else some (career.core files)
  | .instrumented machine =>
    career.kind = .instrumented ∧ machine.reference.path = career.path ∧
      machine.reference.warn = career.warn ∧ machine.Lockstep ∧
      career.core files = .ok machine.reference.core

end Career

/-! ### What machines report -/

/-- All that a reference machine has to warn of at a query is that its program stops with an error.
-/
theorem ReferenceMachine.warnings_replyEvents (machine : ReferenceMachine) (query : Query) :
    Event.warnings (machine.replyEvents query) =
      if machine.warn then
        Core.stopWarnings machine.path machine.core (machine.core.answer query).2
      else [] := by
  have hself : Core.stopWarnings machine.path machine.core machine.core = [] :=
    Core.stopWarnings_self machine.path machine.core
  cases query with
  | hash =>
    show [] = if machine.warn then Core.stopWarnings machine.path machine.core machine.core else []
    rw [hself, ite_self]
  | status =>
    show [] = if machine.warn then Core.stopWarnings machine.path machine.core machine.core else []
    rw [hself, ite_self]
  | execute maxSteps =>
    show Event.warnings (machine.runEvents maxSteps) = if machine.warn then
      Core.stopWarnings machine.path machine.core (machine.core.run maxSteps).1 else []
    unfold runEvents Core.stopWarnings
    cases machine.warn with
    | false => rfl
    | true =>
      simp only [true_and, if_true]
      split <;> rfl

/-- A native machine warns when it fails to fill its slot, which it does once. -/
theorem NativeMachine.warnings_fillEvents (machine : NativeMachine) (files : Files) :
    Event.warnings (machine.fillEvents files) =
      match machine.slot, machine.content files with
      | none, .error cause => [.nativeFailed machine.path cause]
      | _, _ => [] := by
  unfold fillEvents content
  cases machine.slot with
  | some loaded => rfl
  | none => cases files.program machine.path <;> rfl

theorem Event.warnings_oddities (path : String) (findings : List Finding) :
    warnings (findings.map (.oddity path)) = findings.map (.oddity path) := by
  refine List.filter_eq_self.mpr ?_
  intro e he
  obtain ⟨finding, -, rfl⟩ := List.mem_map.mp he
  rfl

/-- What a constructor reports besides its warnings does not matter here. -/
theorem Loader.warnings_makeEvents (path : String) (warn : Bool) (image : Image)
    (findings : List Finding) (kind : Backend) :
    Event.warnings (makeEvents path warn image findings kind) =
      if kind.warns warn then findings.map (.oddity path) else [] := by
  have hreference : Event.warnings (ReferenceMachine.loadEvents path warn image findings) =
      if warn then findings.map (.oddity path) else [] := by
    unfold ReferenceMachine.loadEvents
    rw [Event.warnings_append]
    cases warn with
    | false => rfl
    | true =>
      show Event.warnings (findings.map (.oddity path)) ++ [] = findings.map (.oddity path)
      rw [Event.warnings_oddities, List.append_nil]
  cases kind with
  | reference =>
    show Event.warnings (ReferenceMachine.loadEvents path warn image findings) = _
    rw [hreference]
    cases warn <;> rfl
  | native => cases warn <;> rfl
  | instrumented =>
    show Event.warnings (ReferenceMachine.loadEvents path warn image findings ++ _) = _
    rw [Event.warnings_append, hreference]
    cases warn with
    | false => rfl
    | true => exact List.append_nil _

/-! ### Making and asking -/

namespace Career

/-- A machine that is made of a valid program, or a native machine of any file, begins a career. -/
theorem describes_made {files : Files} {path : String} {image : Image} {findings : List Finding}
    (h : files.program path = .ok (image, findings)) (warn : Bool) (kind : Backend) :
    (made path warn kind).Describes files (.made path warn (.ofImage image) kind) := by
  have hcore : (made path warn kind).core files = .ok (.ofImage image) := by
    show (files.program path).map _ = _
    rw [h]
    rfl
  cases kind with
  | reference => exact ⟨rfl, rfl, rfl, hcore⟩
  | native => exact ⟨rfl, rfl, rfl⟩
  | instrumented => exact ⟨rfl, rfl, rfl, rfl, hcore⟩

/-- A native machine begins a career without a look at its file. -/
theorem describes_new (files : Files) (path : String) (warn : Bool) :
    (made path warn .native).Describes files (.native (.new path)) := ⟨rfl, rfl, rfl⟩

/-- A copy of a machine is the same machine. -/
theorem Describes.copied {career : Career} {files : Files} {machine : Machine}
    (h : career.Describes files machine) : career.copied.Describes files machine := by
  cases machine with
  | reference machine =>
    obtain ⟨hkind, hpath, hwarn, hcore⟩ := h
    exact ⟨hkind, hpath, hwarn, (core_copied career files).trans hcore⟩
  | native machine =>
    obtain ⟨hkind, hpath, hslot⟩ := h
    refine ⟨hkind, hpath, ?_⟩
    rw [queries_copied, core_copied]
    exact hslot
  | instrumented machine =>
    obtain ⟨hkind, hpath, hwarn, hlockstep, hcore⟩ := h
    exact ⟨hkind, hpath, hwarn, hlockstep, (core_copied career files).trans hcore⟩

/-- A machine that warns about its program gives the warnings that are due. -/
theorem warnings_reply {career : Career} {files : Files} {machine : ReferenceMachine}
    (hkind : career.kind ≠ .native) (hpath : machine.path = career.path)
    (hwarn : machine.warn = career.warn) (hcore : career.core files = .ok machine.core)
    (query : Query) :
    Event.warnings (machine.replyEvents query) = career.warningsAt files query := by
  have hwarns : career.kind.warns career.warn = machine.warn := by
    simp [Backend.warns, hkind, hwarn]
  rw [machine.warnings_replyEvents, warningsAt_of_core hcore, hwarns, hpath]

section Native

variable {career : Career} {files : Files} {machine : NativeMachine}

/-- A native machine answers from the core of its career, whether it has looked at its file or
not. -/
theorem content_eq_core (hpath : machine.path = career.path)
    (hslot : machine.slot = if career.queries = [] then none else some (career.core files)) :
    machine.content files = career.core files := by
  unfold NativeMachine.content
  rw [hslot, hpath]
  by_cases hqueries : career.queries = []
  · rw [if_pos hqueries, core, hqueries]
    rfl
  · rw [if_neg hqueries]

/-- What a native machine reports at a query is due: nothing, unless this is its first and there is
no program. -/
theorem warnings_fill (hkind : career.kind = .native) (hpath : machine.path = career.path)
    (hslot : machine.slot = if career.queries = [] then none else some (career.core files))
    (query : Query) :
    Event.warnings (machine.fillEvents files) = career.warningsAt files query := by
  rw [machine.warnings_fillEvents, content_eq_core hpath hslot, hslot]
  cases hcore : career.core files with
  | error cause =>
    simp only [warningsAt, hcore, hpath]
    by_cases hqueries : career.queries = []
    · rw [if_pos hqueries, if_pos hqueries]
    · rw [if_neg hqueries, if_neg hqueries]
  | ok core =>
    have hwarns : career.kind.warns career.warn = false := by
      simp [Backend.warns, hkind]
    rw [warningsAt_of_core hcore, hwarns]
    by_cases hqueries : career.queries = []
    · rw [if_pos hqueries]
      rfl
    · rw [if_neg hqueries]
      rfl

/-- What a native machine holds after a reply. -/
theorem describes_holding (hkind : career.kind = .native) (hpath : machine.path = career.path)
    (query : Query) :
    (career.asked query).Describes files
      (.native (machine.holding ((career.core files).map fun core => (core.answer query).2))) := by
  refine ⟨hkind, hpath, ?_⟩
  have hqueries : (career.asked query).queries ≠ [] := by
    rw [queries_asked]
    exact List.append_ne_nil_of_right_ne_nil _ (List.cons_ne_nil _ _)
  rw [if_neg hqueries, core_asked]
  rfl

end Native

/-- **A machine gives the warnings that are due**, and its career goes on. -/
theorem Describes.reply {career : Career} {machine : Machine} {w : World}
    (h : career.Describes w.files machine) (query : Query) :
    ∃ result next events,
      (Machine.reply query).carryOut .nothing machine w =
        ((result, next), w.reportAll .nothing events) ∧
      (career.asked query).Describes w.files next ∧
      Event.warnings events = career.warningsAt w.files query := by
  cases machine with
  | reference machine =>
    obtain ⟨hkind, hpath, hwarn, hcore⟩ := h
    have hasked := career.core_asked query w.files
    rw [hcore] at hasked
    have hnative : career.kind ≠ .native := by
      rw [hkind]
      decide
    exact ⟨_, _, _, Machine.reply_reference .nothing query machine w,
      ⟨hkind, hpath, hwarn, hasked⟩, warnings_reply hnative hpath hwarn hcore query⟩
  | native machine =>
    obtain ⟨hkind, hpath, hslot⟩ := h
    have hnext : (career.asked query).Describes w.files (.native (machine.holding
        ((career.core w.files).map fun core => (core.answer query).2))) :=
      describes_holding hkind hpath query
    have hreply := Machine.reply_native .nothing query machine w
    rw [content_eq_core hpath hslot] at hreply
    have hwarnings := warnings_fill hkind hpath hslot query
    cases hcore : career.core w.files with
    | error cause =>
      rw [hcore] at hnext hreply
      exact ⟨_, _, _, hreply, hnext, hwarnings⟩
    | ok core =>
      rw [hcore] at hnext hreply
      exact ⟨_, _, _, hreply, hnext, hwarnings⟩
  | instrumented machine =>
    obtain ⟨hkind, hpath, hwarn, hlockstep, hcore⟩ := h
    have hasked := career.core_asked query w.files
    rw [hcore] at hasked
    have hnative : career.kind ≠ .native := by
      rw [hkind]
      decide
    -- The reference half goes on as a reference machine would.
    have hhalf : (machine.answered query).reference =
        { machine.reference with core := (machine.reference.core.answer query).2 } := by
      cases query <;> rfl
    have hnext :
        (career.asked query).Describes w.files (.instrumented (machine.answered query)) := by
      refine ⟨hkind, ?_, ?_, InstrumentedMachine.lockstep_answered hlockstep query, ?_⟩
      · rw [hhalf]
        exact hpath
      · rw [hhalf]
        exact hwarn
      · rw [hhalf]
        exact hasked
    exact ⟨_, _, _, Machine.reply_instrumented .nothing query hlockstep w, hnext,
      warnings_reply hnative hpath hwarn hcore query⟩

end Career

end StackMachine
