import StackMachine.Machine.Loader

/-!
# Fleets

Machines under names, and what can be done with them: to make one, to ask one, and to copy one. A
machine is a value, so a copy and its model go their own ways from then on. Deeds are values too,
so that a history is a list of them.
-/

namespace StackMachine

inductive Query
  | hash
  | status
  | execute (maxSteps : UInt64)
  deriving DecidableEq

inductive Reply
  | hash (digest : Digest)
  | status (status : Status)
  | execution (assertion : Assertion)
  deriving DecidableEq

def Machine.reply : Query → Operation Machine Reply
  | .hash => return .hash (← Machine.hash)
  | .status => return .status (← Machine.status)
  | .execute maxSteps => return .execution (← Machine.execute maxSteps)

structure Fleet where
  machines : List (String × Machine)

/-- What can be done with a fleet: make a machine of the kind that a text selects, or of a given
kind; ask a machine; and copy one to another name. -/
inductive Deed
  | load (name path : String) (warn : Bool) (text : String)
  | make (name path : String) (warn : Bool) (kind : Backend)
  | ask (name : String) (query : Query)
  | copy (name copy : String)
  deriving DecidableEq

inductive Outcome
  | made (kind : Backend)
  | replied (reply : Reply)
  | copied
  | refused (cause : LoaderFailure)
  | failed (cause : Failure)
  | absent
  deriving DecidableEq

namespace Fleet

def empty : Fleet := ⟨[]⟩

def get? (fleet : Fleet) (name : String) : Option Machine := fleet.machines.lookup name

/-- Gives a machine a name, which it takes from any other. -/
def put (fleet : Fleet) (name : String) (machine : Machine) : Fleet where
  machines := (name, machine) :: fleet.machines.filter (·.1 ≠ name)

/-- Does a deed. Nothing is done with a machine that is not there. -/
def perform (fleet : Fleet) : Deed → Action (Outcome × Fleet)
  | .load name path warn text => do
    match ← (Loader.builtin.load path warn text).run with
    | .ok machine => return (.made machine.backend, fleet.put name machine)
    | .error cause => return (.refused cause, fleet)
  | .make name path warn kind => do
    match ← (Loader.builtin.constructor kind path warn).run with
    | .ok machine => return (.made machine.backend, fleet.put name machine)
    | .error cause => return (.failed cause, fleet)
  | .ask name query => do
    match fleet.get? name with
    | none => return (.absent, fleet)
    | some machine =>
      match ← (Machine.reply query).on machine with
      | (.ok reply, machine) => return (.replied reply, fleet.put name machine)
      | (.error cause, machine) => return (.failed cause, fleet.put name machine)
  | .copy name copy => do
    match fleet.get? name with
    | none => return (.absent, fleet)
    | some machine => return (.copied, fleet.put copy machine)

end Fleet

end StackMachine
