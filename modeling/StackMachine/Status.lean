/-!
# Machine status

A machine runs until it halts or faults. `Status.tag` is the byte a machine hash commits to,
`Status.display` the text for people, `Status.name` the text in JSON.
-/

namespace StackMachine

/-- Whether a machine can still run, and if not, how it stopped. -/
inductive Status
  | extensive
  | halted
  | errorStop
  deriving DecidableEq

namespace Status

def all : List Status := [extensive, halted, errorStop]

/-- The byte a machine hash commits to. -/
def tag : Status → UInt8
  | extensive => 0
  | halted => 1
  | errorStop => 2

def display : Status → String
  | extensive => "extensive"
  | halted => "halted"
  | errorStop => "error-stop"

def name : Status → String
  | extensive => "extensive"
  | halted => "halted"
  | errorStop => "error_stop"

def names : List String := all.map name

def ofName? (s : String) : Option Status := all.find? (·.name == s)

theorem tag_inj {a b : Status} (h : a.tag = b.tag) : a = b := by
  cases a <;> cases b <;> simp_all [tag]

theorem ofName?_name (s : Status) : ofName? s.name = some s := by cases s <;> decide

end Status

end StackMachine
