import StackMachine.Proofs.Machine.Account
import StackMachine.Proofs.Machine.Reads
import StackMachine.Proofs.Machine.Reference

/-!
# Native machines take one snapshot

A native machine reads its file at the first query and at no other time. So whatever others do to
the files before and after, it answers as a reference machine does that is loaded from the files of
that moment and makes the same runs; or, if that load fails, it fails for the same reason for ever.
A copy that is made before takes a snapshot of its own, a copy that is made later shares the one
that has been taken (`NativeMachine.one_snapshot`).

That each machine is the one of its account is known from `Family.Told`. Here it is said what that
means for queries, for copies and for the time to come.
-/

namespace StackMachine

variable (mw : Meanwhile)

/-! ### A reference machine alone -/

namespace Scene

variable {name : String}

/-- A reference machine, which makes runs. -/
def ran (name : String) (lone : ReferenceMachine) (w : World) (budgets : List UInt64) : Scene :=
  (single name (.reference lone) w).after mw
    (budgets.map fun maxSteps => .use (.ask name (.execute maxSteps)))

/-- Runs bring a reference machine to the core after them, whatever else is in the fleet. -/
theorem after_runs_of_reference {s : Scene} {lone : ReferenceMachine}
    (h : s.fleet.get? name = some (.reference lone)) (budgets : List UInt64) :
    ∃ next : ReferenceMachine,
      (s.after mw (budgets.map fun maxSteps => .use (.ask name (.execute maxSteps)))).fleet.get?
        name = some (.reference next) ∧
      next.core = lone.core.asked (budgets.map .execute) := by
  induction budgets generalizing s lone with
  | nil => exact ⟨lone, h, rfl⟩
  | cons maxSteps budgets ih =>
    have hnext : (s.live mw (.use (.ask name (.execute maxSteps)))).fleet.get? name =
        some (.reference { lone with core := (lone.core.run maxSteps).1 }) := by
      simp only [live, Use.deed, perform_ask_of_present h, Machine.reply_reference,
        Fleet.get?_put_self]
      rfl
    exact ih hnext

/-- A reference machine that has been asked replies what its core does. -/
theorem perform_ask_of_reference {s : Scene} {lone : ReferenceMachine}
    (h : s.fleet.get? name = some (.reference lone)) (query : Query) :
    (s.perform mw (.ask name query)).1 = .replied (lone.core.answer query).1 ∧
      (s.perform mw (.ask name query)).2.fleet.get? name =
        some (.reference { lone with core := (lone.core.answer query).2 }) := by
  rw [perform_ask_of_present h, Machine.reply_reference]
  exact ⟨rfl, Fleet.get?_put_self _ _ _⟩

end Scene

/-! ### What an account means -/

namespace Family

/-- How a query to a native machine ends, given what the load of a reference machine comes to and
the runs that this machine makes: with the same reply and the same core, or with the failure. -/
inductive AnswersLike (mw mw' : Meanwhile) (f : Family) (name path : String)
    (budgets : List UInt64) (query : Query) : Except Failure ReferenceMachine × World → Prop
  | replied {lone reference : ReferenceMachine} {w : World} {reply : Reply}
      (reply_eq : (f.scene.perform mw (.ask name query)).1 = .replied reply)
      (reply_alone : ((Scene.ran mw' name lone w budgets).perform mw' (.ask name query)).1 =
        .replied reply)
      (alone : ((Scene.ran mw' name lone w budgets).perform mw' (.ask name query)).2.fleet.get? name =
        some (.reference reference))
      (slot : (f.scene.perform mw (.ask name query)).2.fleet.get? name =
        some (.native ⟨path, some (.ok reference.core)⟩)) :
      AnswersLike mw mw' f name path budgets query (.ok lone, w)
  | failed {cause : Failure} {w : World}
      (cause_eq : (f.scene.perform mw (.ask name query)).1 = .failed (.loadFailed path cause))
      (slot : (f.scene.perform mw (.ask name query)).2.fleet.get? name =
        some (.native ⟨path, some (.error cause)⟩)) :
      AnswersLike mw mw' f name path budgets query (.error cause, w)

/-- What is said of a native machine with an account. -/
structure TakesOneSnapshot (mw : Meanwhile) (f : Family) (name : String) (account : Account)
    (machine : NativeMachine) : Prop where
  present : f.scene.fleet.get? name = some (.native machine)
  path : machine.path = account.path
  /-- The slot is filled exactly if there has been a query. -/
  loaded : machine.isLoaded = account.taken.isSome
  /-- A query reads the file if it is the first one, and nothing otherwise. -/
  reads : ∀ query, f.scene.reads mw (.ask name query) =
    if machine.isLoaded then [] else [machine.path]
  /-- The first query is answered from the files as they are then, the others from the snapshot:
  like a reference machine that is loaded from these files, by anybody and in any mode. -/
  answers : ∀ query mw' warn (w : World),
    w.files = (account.snapshot f.scene.world.files).files →
      f.AnswersLike mw mw' name account.path (account.snapshot f.scene.world.files).budgets query
        ((ReferenceMachine.load account.path warn).carryOut mw' w)
  /-- A full slot stays full, with a core or with the same failure. -/
  stays : ∀ later : List Episode, (∀ e ∈ later, ¬ e.Names name) →
    ∃ next, (f.after mw later).scene.fleet.get? name = some (.native next) ∧
      next.path = machine.path ∧
      (∀ core, machine.slot = some (.ok core) → ∃ core', next.slot = some (.ok core')) ∧
      ∀ cause, machine.slot = some (.error cause) → next.slot = some (.error cause)
  /-- Nothing but a query changes the machine, neither the files nor what is done with others. -/
  idle : ∀ later : List Episode, (∀ e ∈ later, ¬ e.Names name ∧ ¬ e.Asks name) →
    (f.after mw later).scene.fleet.get? name = some (.native machine)
  /-- A copy is the same machine and has the same account, and nothing is read for it. -/
  copies : ∀ copy,
    let copied := f.live mw (.moment (.use (.copy name copy)))
    f.scene.reads mw (.copy name copy) = [] ∧
      copied.scene.fleet.get? copy = some (.native machine) ∧ copied.accounts copy = some account ∧
      copied.scene.fleet.get? name = some (.native machine) ∧ copied.accounts name = some account

namespace Told

variable {f : Family} {name : String} {account : Account}

theorem present (h : f.Told) (haccount : f.accounts name = some account) :
    f.scene.fleet.get? name = some (.native account.machine) := by
  rw [h name, haccount]
  rfl

/-- A query is answered from the snapshot, and the next machine is the one of the next account. -/
theorem perform_ask (h : f.Told) (haccount : f.accounts name = some account) (query : Query) :
    let asked := f.scene.perform mw (.ask name query)
    let snapshot := account.snapshot f.scene.world.files
    asked.1 = .ofReply (match snapshot.result account.path with
      | .ok core => .ok (core.answer query).1
      | .error cause => .error (.loadFailed account.path cause)) ∧
      asked.2.fleet.get? name =
        some (.native ⟨account.path, some ((snapshot.asked query).result account.path)⟩) := by
  intro asked snapshot
  have hasked : asked = _ := Scene.perform_ask_of_present (h.present haccount) query
  rw [Account.reply] at hasked
  rw [hasked]
  exact ⟨rfl, Fleet.get?_put_self _ _ _⟩

/-- The snapshot gives what a reference machine gives that is loaded from the same files. -/
theorem answers (h : f.Told) (haccount : f.accounts name = some account) (query : Query)
    (mw' : Meanwhile) (warn : Bool) {w : World}
    (hfiles : w.files = (account.snapshot f.scene.world.files).files) :
    f.AnswersLike mw mw' name account.path (account.snapshot f.scene.world.files).budgets query
      ((ReferenceMachine.load account.path warn).carryOut mw' w) := by
  obtain ⟨hreply, hnext⟩ := h.perform_ask mw haccount query
  generalize account.snapshot f.scene.world.files = snapshot at hfiles hreply hnext ⊢
  rw [Snapshot.result_asked] at hnext
  unfold Snapshot.result at hreply hnext
  rw [ReferenceMachine.load_carryOut, hfiles]
  rcases hprogram : snapshot.files.program account.path with cause | ⟨image, findings⟩
  · rw [hprogram] at hreply hnext
    exact .failed hreply hnext
  · rw [hprogram] at hreply hnext
    -- The same runs bring the reference machine to the core that the snapshot gives.
    obtain ⟨lone, hlone, hcore⟩ := Scene.after_runs_of_reference mw'
      (s := .single name (.reference ⟨account.path, warn, .ofImage image⟩) _)
      (Fleet.get?_put_self _ _ _) snapshot.budgets
    obtain ⟨halone, hlast⟩ := Scene.perform_ask_of_reference mw' hlone query
    rw [hcore] at halone hlast
    exact .replied hreply halone hlast hnext

/-- Later episodes may ask the machine, so its account goes on; but its snapshot is of the same
files. -/
theorem stays (h : f.Told) (haccount : f.accounts name = some account) {later : List Episode}
    (hnames : ∀ e ∈ later, ¬ e.Names name) :
    ∃ next, (f.after mw later).scene.fleet.get? name = some (.native next) ∧
      next.path = account.path ∧
      (∀ core, account.machine.slot = some (.ok core) → ∃ core', next.slot = some (.ok core')) ∧
      ∀ cause, account.machine.slot = some (.error cause) → next.slot = some (.error cause) := by
  -- What stays is the path and, once they are known, the files of the snapshot.
  obtain ⟨next, hnext, hpath, htaken⟩ : ∃ next, (f.after mw later).accounts name = some next ∧
      next.path = account.path ∧
      ∀ snapshot, account.taken = some snapshot →
        ∃ seen, next.taken = some seen ∧ seen.files = snapshot.files := by
    refine Family.after_keeps mw haccount ⟨rfl, fun snapshot h => ⟨_, h, rfl⟩⟩ hnames ?_
    rintro - - - current files query ⟨hpath, htaken⟩
    refine ⟨hpath, fun snapshot hsnapshot => ?_⟩
    obtain ⟨seen, hseen, hfiles⟩ := htaken snapshot hsnapshot
    refine ⟨seen.asked query, ?_, hfiles⟩
    simp only [Account.asked, Account.snapshot, hseen, Option.getD_some]
  exact ⟨next.machine, (h.after mw later).present hnext, hpath, Account.slot_stays hpath htaken⟩

/-- Without queries to it, a machine keeps its account as it is. -/
theorem idle (h : f.Told) (haccount : f.accounts name = some account) {later : List Episode}
    (hlater : ∀ e ∈ later, ¬ e.Names name ∧ ¬ e.Asks name) :
    (f.after mw later).scene.fleet.get? name = some (.native account.machine) := by
  obtain ⟨_, hnext, rfl⟩ := Family.after_keeps mw (P := (· = account)) haccount rfl
    (fun e he => (hlater e he).1) (fun e he hasks => absurd hasks (hlater e he).2)
  exact (h.after mw later).present hnext

/-- After a copy both names have the machine and its account. -/
theorem copies (h : f.Told) (haccount : f.accounts name = some account) (copy : String) :
    let copied := f.live mw (.moment (.use (.copy name copy)))
    copied.scene.fleet.get? copy = some (.native account.machine) ∧
      copied.accounts copy = some account ∧
      copied.scene.fleet.get? name = some (.native account.machine) ∧
      copied.accounts name = some account := by
  intro copied
  have htold : copied.Told := h.live _
  have haccounts : copied.accounts = Function.update f.accounts copy (some account) := by
    simp only [copied, Family.live, haccount]
  have hcopy : copied.accounts copy = some account := by
    rw [haccounts, Function.update_self]
  have hname : copied.accounts name = some account := by
    rw [haccounts]
    by_cases hsame : name = copy
    · rw [hsame, Function.update_self]
    · rw [Function.update_of_ne hsame, haccount]
  exact ⟨htold.present hcopy, hcopy, htold.present hname, hname⟩

/-- The machine of an account takes one snapshot. -/
theorem takesOneSnapshot (h : f.Told) (haccount : f.accounts name = some account) :
    f.TakesOneSnapshot mw name account account.machine where
  present := h.present haccount
  path := rfl
  loaded := Option.isSome_map
  reads := Scene.reads_ask_of_native (h.present haccount)
  answers := fun query mw' warn _ => h.answers mw haccount query mw' warn
  stays := fun _ => h.stays mw haccount
  idle := fun _ => h.idle mw haccount
  copies := fun copy => ⟨f.scene.reads_copy name copy, h.copies mw haccount copy⟩

end Told

end Family

/-- **A native machine takes exactly one snapshot of its file, when it is first asked.** None is
taken when it is made. This is so whatever machines are made, asked and copied, and whatever others
do to the files in between. -/
theorem NativeMachine.one_snapshot (w : World) (history : List Episode) (name : String) :
    let f := (Family.start w).after mw history
    (∀ path warn, f.scene.reads mw (.make name path warn .native) = []) ∧
      match f.accounts name with
      | none => f.scene.fleet.get? name = none
      | some account => ∃ machine, f.TakesOneSnapshot mw name account machine := by
  intro f
  have htold : f.Told := (Family.Told.start w).after mw history
  refine ⟨f.scene.reads_make_native name, ?_⟩
  cases haccount : f.accounts name with
  | none =>
    show f.scene.fleet.get? name = none
    rw [htold name, haccount]
    rfl
  | some account => exact ⟨account.machine, htold.takesOneSnapshot mw haccount⟩

/-- The copy of a machine is asked before there is a file, and the machine itself after that. -/
theorem NativeMachine.one_snapshot_late_file :
    let image := Image.ofCode #[.push 1, .halt]
    let history : List Episode := [.make "m" "p" false, .moment (.use (.copy "m" "n")),
      .moment (.use (.ask "n" .status)),
      .moment (.change fun _ => (World.withFile "p" image.encode).files)]
    let f := (Family.start .empty).after .nothing history
    (f.scene.perform .nothing (.ask "n" .hash)).1 = .failed (.loadFailed "p" (.io "p" .notFound)) ∧
      ∃ reply, (f.scene.perform .nothing (.ask "m" .hash)).1 = .replied reply := by
  intro image history f
  have hprogram : (World.withFile "p" image.encode).files.program "p" =
      .ok (image, Image.findings image.code) := by
    refine Files.program_of_encode rfl ?_ rfl rfl
    rw [Image.encode, List.size_toByteArray]
    decide
  constructor
  · obtain ⟨machine, hmachine⟩ :
        ∃ machine, f.TakesOneSnapshot .nothing "n" ⟨"p", some ⟨.empty, []⟩⟩ machine :=
      (one_snapshot .nothing .empty history "n").2
    have hanswers := hmachine.answers .hash .nothing false .empty rfl
    rw [ReferenceMachine.load_carryOut] at hanswers
    cases hanswers with
    | failed hcause => exact hcause
  · obtain ⟨machine, hmachine⟩ : ∃ machine, f.TakesOneSnapshot .nothing "m" ⟨"p", none⟩ machine :=
      (one_snapshot .nothing .empty history "m").2
    have hload : (ReferenceMachine.load "p" false).carryOut .nothing
        (.withFile "p" image.encode) = _ := ReferenceMachine.load_carryOut "p" false _
    rw [hprogram] at hload
    have hanswers := hmachine.answers .hash .nothing false (.withFile "p" image.encode) rfl
    rw [hload] at hanswers
    cases hanswers with
    | replied hreply => exact ⟨_, hreply⟩

end StackMachine
