import StackMachine.Machine.Basic

/-!
# Loaders

A loader makes machines of program files: one constructor for each kind of machine, and the choice
between them by kind or by a text. A request runs exactly one constructor, and none if the text
selects no kind. The loader keeps no state; it counts requests, and reports them.

The constructors are actions in any monad that can carry out the effects of the program, so that
they can do more than the built-in ones. `Loader.recorded` uses that to keep account of the calls.
Neither does a loader look at what they make, so they may make machines of another type.
-/

namespace StackMachine

/-- Why a loader did not make a machine: the text selects no kind, or the constructor failed. -/
inductive LoaderFailure
  | unrecognized (text : String)
  | backend (cause : Failure)
  deriving DecidableEq

namespace LoaderFailure

/-- The wording of a failure; that of a constructor is not changed. -/
def message : LoaderFailure → String
  | unrecognized text => "invalid machine type specified " ++ Quoted.string text
  | backend cause => cause.message

def causes : LoaderFailure → List String
  | unrecognized _ => []
  | backend cause => cause.causes

end LoaderFailure

abbrev Constructor (m : Type → Type) (μ : Type := Machine) := String → Bool → ExceptT Failure m μ

structure Loader (m : Type → Type) (μ : Type := Machine) where
  reference : Constructor m μ
  native : Constructor m μ
  instrumented : Constructor m μ

namespace Loader

def constructor {m : Type → Type} {μ : Type} (loader : Loader m μ) : Backend → Constructor m μ
  | .reference => loader.reference
  | .native => loader.native
  | .instrumented => loader.instrumented

/-- The loader that makes a machine of each kind by the means of that kind. A native machine has no
warn mode. -/
def builtin : Loader Action where
  reference path warn := return .reference (← ReferenceMachine.load path warn)
  native path _ := return .native (.new path)
  instrumented path warn := return .instrumented (← InstrumentedMachine.load path warn)

variable {m : Type → Type} [Monad m] [MonadLiftT Action m] {μ : Type}

def loadKind (loader : Loader m μ) (path : String) (warn : Bool) (kind : Backend) :
    ExceptT LoaderFailure m μ := do
  (report (.loading kind path warn) : Action Unit)
  (count kind.counter : Action Unit)
  (loader.constructor kind path warn).adapt .backend

def load (loader : Loader m μ) (path : String) (warn : Bool) (text : String) :
    ExceptT LoaderFailure m μ := do
  (count "loader.requests" : Action Unit)
  match Backend.ofText? text with
  | some kind => loader.loadKind path warn kind
  | none =>
    (count "loader.rejected" : Action Unit)
    (report (.rejectedKind text) : Action Unit)
    throw (.unrecognized text)

structure Call where
  kind : Backend
  path : String
  warn : Bool
  deriving DecidableEq

/-- The same loader, keeping account of the calls of its constructors. -/
def recorded {m : Type → Type} [Monad m] {μ : Type} (loader : Loader m μ) :
    Loader (StateT (Array Call) m) μ :=
  let record (kind : Backend) : Constructor (StateT (Array Call) m) μ := fun path warn =>
    ExceptT.mk fun calls => do
      let outcome ← (loader.constructor kind path warn).run
      return (outcome, calls.push ⟨kind, path, warn⟩)
  ⟨record .reference, record .native, record .instrumented⟩

end Loader

end StackMachine
