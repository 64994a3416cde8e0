import StackMachine.Log.Directive

/-!
# Log filters

Which events are written to the log. A filter is a list of directives; of those that are about an
event the most precise one decides, and an event that none is about is left out.

A filter is written as directives between commas.
-/

namespace StackMachine

structure Filter where
  directives : List Directive

namespace Filter

def standard : Filter := ⟨[⟨none, none, none, Level.info.rank⟩]⟩

/-- The filter of a text; errors alone if it has no directive, and the standard filter if a
directive cannot be understood. -/
def ofText (text : String) : Filter :=
  match (text.splitOn ",").filter (· ≠ "") with
  | [] => ⟨[⟨none, none, none, Level.error.rank⟩]⟩
  | parts =>
    match parts.mapM Directive.ofText? with
    | some directives => ⟨directives⟩
    | none => standard

def ofSetting (setting : Option String) : Filter :=
  match setting with
  | some text => ofText text
  | none => standard

/-- The directive that decides about an event: the most precise one, and the last of several. -/
def deciding? (filter : Filter) (e : Event) : Option Directive :=
  (filter.directives.filter (·.covers e)).foldl
    (fun best d =>
      match best with
      | some b => if b.atMostAsPrecise d then some d else some b
      | none => some d)
    none

def admits (filter : Filter) (e : Event) : Bool :=
  match filter.deciding? e with
  | some d => e.level.rank ≤ d.rank
  | none => false

end Filter

end StackMachine
