import StackMachine.Counters
import StackMachine.Files.Basic
import StackMachine.Log.Event

/-!
# Actions

What the program does to the world, as a value. An action is a finite tree: at each node it asks
for one effect, to read or write a file, to report an event or to increment a counter, and goes on
with the answer. So one and the same action can be carried out on the files of the system and on a
tree of files that is itself a value.

`Action.perform` carries an action out on a `World`. Others may be at work in the same world: what
they do to the files at the moment an event is reported is given by a function, `Meanwhile`.
`Action.perform_bind` says that an action in two parts is carried out part by part.
-/

namespace StackMachine

/-- A tree of effects that ends in a result. -/
inductive Action (α : Type)
  | done (a : α)
  | read (path : String) (limit : Option Nat) (next : Except OsError ByteArray → Action α)
  | write (path : String) (bytes : ByteArray) (next : Except OsError Unit → Action α)
  | report (e : Event) (next : Unit → Action α)
  | count (name : String) (next : Unit → Action α)

namespace Action

def bind {α β : Type} : Action α → (α → Action β) → Action β
  | done a, f => f a
  | read path limit next, f => read path limit fun r => (next r).bind f
  | write path bytes next, f => write path bytes fun r => (next r).bind f
  | report e next, f => report e fun r => (next r).bind f
  | count name next, f => count name fun r => (next r).bind f

instance : Monad Action where
  pure := done
  bind := bind

theorem bind_done {α : Type} (a : Action α) : a.bind done = a := by
  induction a with
  | done a => rfl
  | read path limit next ih => simp [bind, ih]
  | write path bytes next ih => simp [bind, ih]
  | report e next ih => simp [bind, ih]
  | count name next ih => simp [bind, ih]

/-- To put three actions after another it does not matter which two come together first. -/
theorem bind_bind {α β γ : Type} (a : Action α) (f : α → Action β) (g : β → Action γ) :
    (a.bind f).bind g = a.bind fun x => (f x).bind g := by
  induction a with
  | done a => rfl
  | read path limit next ih => simp [bind, ih]
  | write path bytes next ih => simp [bind, ih]
  | report e next ih => simp [bind, ih]
  | count name next ih => simp [bind, ih]

instance : LawfulMonad Action :=
  LawfulMonad.mk' Action bind_done (fun _ _ => rfl) bind_bind

end Action

/-! ### The effects -/

/-- Reads a file; with a limit, no more than that many bytes of it. -/
def readFile (path : String) (limit : Option Nat) : Action (Except OsError ByteArray) :=
  .read path limit .done

def writeFile (path : String) (bytes : ByteArray) : Action (Except OsError Unit) :=
  .write path bytes .done

def report (e : Event) : Action Unit := .report e .done

def count (name : String) : Action Unit := .count name .done

/-! ### Carrying actions out -/

/-- The files, the events that have been reported and the counters. -/
structure World where
  files : Files
  events : Array Event
  counters : Counters

namespace World

def empty : World := ⟨.empty, #[], []⟩

end World

/-- What others do to the files at the moment an event is reported. -/
abbrev Meanwhile := Event → Files → Files

/-- Nobody else is at work. -/
def Meanwhile.nothing : Meanwhile := fun _ files => files

namespace World

/-- The bytes of a file, cut off at a limit. -/
def read (w : World) (path : String) (limit : Option Nat) : Except OsError ByteArray :=
  match w.files.read path, limit with
  | .ok bytes, some n => .ok (bytes.extract 0 n)
  | r, _ => r

/-- Writes a file; on an error the files stay as they are. -/
def write (w : World) (path : String) (bytes : ByteArray) : Except OsError Unit × World :=
  match w.files.write path bytes with
  | .ok files => (.ok (), { w with files })
  | .error e => (.error e, w)

/-- Adds an event, at which moment others may change files. -/
def report (w : World) (meanwhile : Meanwhile) (e : Event) : World where
  files := meanwhile e w.files
  events := w.events.push e
  counters := w.counters

def count (w : World) (name : String) : World :=
  { w with counters := w.counters.increment name }

end World

namespace Action

def perform {α : Type} (meanwhile : Meanwhile) : Action α → World → α × World
  | done a, w => (a, w)
  | read path limit next, w => (next (w.read path limit)).perform meanwhile w
  | write path bytes next, w =>
    let (r, w) := w.write path bytes
    (next r).perform meanwhile w
  | report e next, w => (next ()).perform meanwhile (w.report meanwhile e)
  | count name next, w => (next ()).perform meanwhile (w.count name)

/-- Carries an action out while nobody else is at work. -/
def performAlone {α : Type} (a : Action α) (w : World) : α × World := a.perform .nothing w

/-- An action in two parts is carried out part by part. -/
theorem perform_bind {α β : Type} (meanwhile : Meanwhile) (a : Action α) (f : α → Action β)
    (w : World) :
    (a >>= f).perform meanwhile w =
      (f (a.perform meanwhile w).1).perform meanwhile (a.perform meanwhile w).2 := by
  show (a.bind f).perform meanwhile w = _
  induction a generalizing w with
  | done a => rfl
  | read path limit next ih => exact ih _ _
  | write path bytes next ih => exact ih _ _
  | report e next ih => exact ih _ _
  | count name next ih => exact ih _ _

theorem perform_map {α β : Type} (meanwhile : Meanwhile) (f : α → β) (a : Action α) (w : World) :
    (f <$> a).perform meanwhile w = (f (a.perform meanwhile w).1, (a.perform meanwhile w).2) := by
  rw [← bind_pure_comp]
  exact perform_bind meanwhile a _ w

end Action

end StackMachine
