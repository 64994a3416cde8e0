import StackMachine.Proofs.Machine.History
import StackMachine.Proofs.Machine.Reply

/-!
# Accounts of native machines

What is known about a native machine from outside is its path and, once it has been asked, the files
at the moment of the first query and the budgets of its runs since then. That is its `Account`. A
copy has the account of its model, and what becomes of the files later is in no account.

An account tells which machine it is of (`Account.machine`): a reply takes the machine of an account
to the machine of the next account (`Account.reply`), and so every machine of a family is at all
times the one of its account (`Family.Told.after`).
-/

namespace StackMachine

variable {mw : Meanwhile}

/-- The budgets of the runs that a query asks for: one or none. -/
def Query.budgets : Query → List UInt64
  | .execute maxSteps => [maxSteps]
  | _ => []

/-- Of the queries, only runs change a core. -/
theorem Core.asked_budgets (core : Core) (query : Query) :
    core.asked (query.budgets.map .execute) = (core.answer query).2 := by
  cases query <;> rfl

/-! ### Accounts -/

/-- The files at the moment of the first query to a native machine, and the budgets of its runs
since then. -/
structure Snapshot where
  files : Files
  budgets : List UInt64

/-- The path of a native machine and, once it has been asked, its snapshot. -/
structure Account where
  path : String
  taken : Option Snapshot

namespace Snapshot

def asked (snapshot : Snapshot) (query : Query) : Snapshot :=
  { snapshot with budgets := snapshot.budgets ++ query.budgets }

/-- What the runs have made of the program of a file. -/
def result (snapshot : Snapshot) (path : String) : Except Failure Core :=
  (snapshot.files.program path).map fun found =>
    (Core.ofImage found.1).asked (snapshot.budgets.map .execute)

/-- A query does to the result what it does to a core; a failure stays. -/
theorem result_asked (snapshot : Snapshot) (query : Query) (path : String) :
    (snapshot.asked query).result path =
      (snapshot.result path).map fun core => (core.answer query).2 := by
  unfold result
  cases hprogram : snapshot.files.program path with
  | error cause =>
    simp only [asked, hprogram]
    rfl
  | ok found =>
    simp only [asked, hprogram, Except.map, List.map_append, Core.asked_append,
      Core.asked_budgets]

/-- The files decide whether there is a core, and what the failure is. The runs do not. -/
theorem result_of_files {snapshot later : Snapshot} (h : later.files = snapshot.files)
    (path : String) :
    (∀ core, snapshot.result path = .ok core → ∃ core', later.result path = .ok core') ∧
      ∀ cause, snapshot.result path = .error cause → later.result path = .error cause := by
  unfold result
  rw [h]
  cases snapshot.files.program path with
  | error cause =>
    refine ⟨?_, fun _ h => h⟩
    rintro core ⟨⟩
  | ok found =>
    refine ⟨fun _ _ => ⟨_, rfl⟩, ?_⟩
    rintro cause ⟨⟩

end Snapshot

namespace Account

def new (path : String) : Account := ⟨path, none⟩

/-- The snapshot that the machine answers from if it is asked while the files are as given: the one
that has been taken, or else one that is taken now. -/
def snapshot (account : Account) (files : Files) : Snapshot := account.taken.getD ⟨files, []⟩

def asked (account : Account) (files : Files) (query : Query) : Account :=
  { account with taken := some ((account.snapshot files).asked query) }

def machine (account : Account) : NativeMachine where
  path := account.path
  slot := account.taken.map fun snapshot => snapshot.result account.path

/-- What the machine answers from. -/
theorem content_machine (account : Account) (files : Files) :
    account.machine.content files = (account.snapshot files).result account.path := by
  -- A slot that is empty is filled from the files as they are now, and so is the snapshot.
  unfold machine snapshot NativeMachine.content
  cases account.taken with
  | none => rfl
  | some snapshot => rfl

/-- As long as the path and the files of the snapshot stay, so does what the slot holds, but for the
runs. -/
theorem slot_stays {account later : Account} (hpath : later.path = account.path)
    (htaken : ∀ snapshot, account.taken = some snapshot →
      ∃ seen, later.taken = some seen ∧ seen.files = snapshot.files) :
    (∀ core, account.machine.slot = some (.ok core) →
      ∃ core', later.machine.slot = some (.ok core')) ∧
      ∀ cause, account.machine.slot = some (.error cause) →
        later.machine.slot = some (.error cause) := by
  simp only [machine]
  cases hsnapshot : account.taken with
  | none =>
    constructor
    · rintro core ⟨⟩
    · rintro cause ⟨⟩
  | some snapshot =>
    obtain ⟨seen, hseen, hfiles⟩ := htaken snapshot hsnapshot
    simp only [hseen, hpath, Option.map_some, Option.some.injEq]
    exact Snapshot.result_of_files hfiles account.path

/-- The reply of the machine of an account, and the machine of the next account. -/
theorem reply (account : Account) (query : Query) (w : World) :
    ((Machine.reply query).carryOut mw (.native account.machine) w).1 =
      (match (account.snapshot w.files).result account.path with
        | .ok core => .ok (core.answer query).1
        | .error cause => .error (.loadFailed account.path cause),
        .native (account.asked w.files query).machine) := by
  -- The next account holds what the reply leaves in the slot.
  have hnext : (account.asked w.files query).machine =
      account.machine.holding (((account.snapshot w.files).result account.path).map
        fun core => (core.answer query).2) := by
    simp only [machine, asked, Option.map_some, Snapshot.result_asked, NativeMachine.holding]
  rw [Machine.reply_native, content_machine, hnext]
  cases (account.snapshot w.files).result account.path <;> rfl

end Account

/-! ### Families -/

/-- What happens to a family of native machines: one more is made, or one moment passes. -/
inductive Episode
  | make (name path : String) (warn : Bool)
  | moment (moment : Moment)

namespace Episode

def Names (name : String) : Episode → Prop
  | make other _ _ => other = name
  | moment (.use (.copy _ copy)) => copy = name
  | moment _ => False

def Asks (name : String) : Episode → Prop
  | moment (.use (.ask other _)) => other = name
  | _ => False

end Episode

/-- Native machines under names in a scene, and an account for each. -/
structure Family where
  scene : Scene
  accounts : String → Option Account

namespace Family

def start (w : World) : Family := ⟨.start w, fun _ => none⟩

/-- The scene and the accounts after an episode. The accounts are kept without a look at the
machines. -/
def live (mw : Meanwhile) (f : Family) : Episode → Family
  | .make name path warn =>
    ⟨(f.scene.perform mw (.make name path warn .native)).2,
      Function.update f.accounts name (some (.new path))⟩
  | .moment moment =>
    { scene := f.scene.live mw moment
      accounts :=
        match moment with
        | .use (.ask name query) =>
          match f.accounts name with
          | none => f.accounts
          | some account =>
            Function.update f.accounts name (some (account.asked f.scene.world.files query))
        | .use (.copy name copy) =>
          match f.accounts name with
          | none => f.accounts
          | some account => Function.update f.accounts copy (some account)
        | .change _ => f.accounts }

def after (f : Family) (mw : Meanwhile) (history : List Episode) : Family :=
  history.foldl (live mw) f

/-! ### Each machine is the one of its account -/

/-- Every machine is the one that its account is of, and a name without account has none. -/
def Told (f : Family) : Prop :=
  ∀ name, f.scene.fleet.get? name = (f.accounts name).map fun account => .native account.machine

namespace Told

variable {f : Family}

theorem start (w : World) : (Family.start w).Told := fun _ => rfl

/-- A machine under a name, and its account under the same name. -/
theorem put (h : f.Told) (name : String) (account : Account) (w : World) :
    Told ⟨⟨f.scene.fleet.put name (.native account.machine), w⟩,
      Function.update f.accounts name (some account)⟩ :=
  Fleet.rel_put (R := fun machine account? =>
    machine = account?.map fun account : Account => .native account.machine) h rfl name

theorem live (h : f.Told) (e : Episode) : (f.live mw e).Told := by
  -- A name without machine has no account either, and then nothing is done on both sides.
  match e with
  | .make name path warn => exact h.put name (.new path) f.scene.world
  | .moment (.use (.ask name query)) =>
    have hname := h name
    simp only [Family.live, Scene.live, Use.deed]
    cases haccount : f.accounts name with
    | none =>
      rw [haccount] at hname
      rw [Scene.perform_ask_of_absent hname]
      exact h
    | some account =>
      rw [haccount] at hname
      rw [Scene.perform_ask_of_present hname, Account.reply]
      exact h.put name _ _
  | .moment (.use (.copy name copy)) =>
    have hname := h name
    simp only [Family.live, Scene.live, Use.deed]
    cases haccount : f.accounts name with
    | none =>
      rw [haccount] at hname
      rw [Scene.perform_copy_of_absent hname]
      exact h
    | some account =>
      rw [haccount] at hname
      rw [Scene.perform_copy_of_present hname]
      exact h.put copy account f.scene.world
  | .moment (.change change) => exact h

/-- **Each machine is at all times the one of its account.** -/
theorem after (h : f.Told) (mw : Meanwhile) (history : List Episode) : (f.after mw history).Told := by
  induction history generalizing f with
  | nil => exact h
  | cons e history ih => exact ih (h.live e)

end Told

/-! ### What becomes of an account -/

variable (mw) {f : Family} {name : String} {P : Account → Prop} {account : Account}

/-- What an episode keeps of an account, as long as its name is not given to another machine. -/
theorem live_keeps {e : Episode} (h : f.accounts name = some account) (hP : P account)
    (hnames : ¬ e.Names name)
    (hasks : e.Asks name → ∀ account files query, P account → P (account.asked files query)) :
    ∃ later, (f.live mw e).accounts name = some later ∧ P later := by
  match e with
  | .make other path warn =>
    refine ⟨account, ?_, hP⟩
    exact (Function.update_of_ne (Ne.symm hnames) _ _).trans h
  | .moment (.use (.ask other query)) =>
    by_cases hother : other = name
    · subst hother
      refine ⟨account.asked f.scene.world.files query, ?_, hasks rfl _ _ _ hP⟩
      simp only [live, h, Function.update_self]
    · refine ⟨account, ?_, hP⟩
      simp only [live]
      cases f.accounts other with
      | none => exact h
      | some model => exact (Function.update_of_ne (Ne.symm hother) _ _).trans h
  | .moment (.use (.copy other copy)) =>
    refine ⟨account, ?_, hP⟩
    simp only [live]
    cases f.accounts other with
    | none => exact h
    | some model => exact (Function.update_of_ne (Ne.symm hnames) _ _).trans h
  | .moment (.change change) => exact ⟨account, h, hP⟩

/-- What queries keep of an account, every history keeps that does not give its name to another
machine. -/
theorem after_keeps (h : f.accounts name = some account) (hP : P account) {history : List Episode}
    (hnames : ∀ e ∈ history, ¬ e.Names name)
    (hasks : ∀ e ∈ history, e.Asks name →
      ∀ account files query, P account → P (account.asked files query)) :
    ∃ later, (f.after mw history).accounts name = some later ∧ P later := by
  -- The account changes with every query, so it is general.
  induction history generalizing f account with
  | nil => exact ⟨account, h, hP⟩
  | cons e history ih =>
    obtain ⟨next, hnext, hPnext⟩ := live_keeps mw h hP (hnames e List.mem_cons_self)
      (hasks e List.mem_cons_self)
    refine ih hnext hPnext ?_ ?_
    · intro e he
      exact hnames e (List.mem_cons_of_mem _ he)
    · intro e he
      exact hasks e (List.mem_cons_of_mem _ he)

end Family

end StackMachine
