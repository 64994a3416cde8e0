import StackMachine.Action

/-!
# Counting

A counter grows by the number of times it is counted, as a word (`Counters.get_incrementAll`), so
neither the order of the counts nor the counts of others matter. Where there are none at the start,
there are later exactly those that have been counted (`Counters.mem_incrementAll_nil`).
`Action.tallied` is an action that also says what it counts.
-/

namespace StackMachine

namespace Counters

def incrementAll (counters : Counters) (names : List String) : Counters :=
  names.foldl (fun counters name => counters.increment name) counters

theorem incrementAll_append (counters : Counters) (first second : List String) :
    counters.incrementAll (first ++ second) =
      (counters.incrementAll first).incrementAll second :=
  List.foldl_append

/-- A counter grows by how often it is named, modulo 2^64. -/
theorem get_incrementAll (counters : Counters) (names : List String) (name : String) :
    (counters.incrementAll names).get name = counters.get name + .ofNat (names.count name) := by
  induction names generalizing counters with
  | nil => exact (UInt64.add_zero _).symm
  | cons first rest ih =>
    have hrest := ih (counters.increment first)
    by_cases h : first = name
    · subst h
      rw [get_increment_self] at hrest
      refine hrest.trans ?_
      rw [List.count_cons_self, UInt64.ofNat_add, UInt64.add_assoc, UInt64.add_comm 1]
      rfl
    · rw [get_increment_of_ne counters (Ne.symm h)] at hrest
      rw [List.count_cons_of_ne h]
      exact hrest

/-! ### Which counters there are -/

/-- To count a name adds a counter of that name, if there is none, and no other. -/
theorem mem_keys_increment {counters : Counters} {name key : String} :
    key ∈ (counters.increment name).map Prod.fst ↔ key ∈ counters.map Prod.fst ∨ key = name := by
  induction counters with
  | nil => simp [increment]
  | cons entry rest ih =>
    obtain ⟨first, n⟩ := entry
    by_cases h : first = name
    · subst h
      grind [increment]
    · simp only [increment, if_neg h, List.map_cons, List.mem_cons, ih, or_assoc]

/-- A counter is not listed twice. -/
theorem nodup_keys_increment {counters : Counters} (h : (counters.map Prod.fst).Nodup)
    (name : String) : ((counters.increment name).map Prod.fst).Nodup := by
  induction counters with
  | nil => simp [increment]
  | cons entry rest ih =>
    obtain ⟨first, n⟩ := entry
    rw [List.map_cons, List.nodup_cons] at h
    by_cases hfirst : first = name
    · rw [increment, if_pos hfirst]
      exact List.nodup_cons.mpr h
    · rw [increment, if_neg hfirst, List.map_cons, List.nodup_cons, mem_keys_increment]
      exact ⟨fun hmem => hmem.elim h.1 hfirst, ih h.2⟩

/-- In counters that are not listed twice, an entry is the value of its counter. -/
theorem mem_iff_get {counters : Counters} (h : (counters.map Prod.fst).Nodup) {name : String}
    {n : UInt64} :
    (name, n) ∈ counters ↔ name ∈ counters.map Prod.fst ∧ counters.get name = n := by
  induction counters with
  | nil => simp
  | cons entry rest ih =>
    obtain ⟨first, m⟩ := entry
    rw [List.map_cons, List.nodup_cons] at h
    by_cases hfirst : first = name
    · subst hfirst
      have hrest : (first, n) ∉ rest := fun hmem => h.1 (List.mem_map.mpr ⟨_, hmem, rfl⟩)
      simp [get, hrest, eq_comm]
    · simpa [get, hfirst, Ne.symm hfirst] using ih h.2

theorem nodup_keys_incrementAll (counters : Counters) (h : (counters.map Prod.fst).Nodup)
    (names : List String) : ((counters.incrementAll names).map Prod.fst).Nodup := by
  induction names generalizing counters with
  | nil => exact h
  | cons first rest ih => exact ih (counters.increment first) (nodup_keys_increment h first)

/-- The counters there are later: those there were, and those that have been counted. -/
theorem mem_keys_incrementAll {counters : Counters} {names : List String} {key : String} :
    key ∈ (counters.incrementAll names).map Prod.fst ↔
      key ∈ counters.map Prod.fst ∨ key ∈ names := by
  induction names generalizing counters with
  | nil => simp [incrementAll]
  | cons first rest ih =>
    have hrest := @ih (counters.increment first)
    rw [mem_keys_increment, or_assoc] at hrest
    rw [List.mem_cons]
    exact hrest

/-- Counters that start with none are those that have been counted, with their counts as words. -/
theorem mem_incrementAll_nil {names : List String} {name : String} {n : UInt64} :
    (name, n) ∈ incrementAll [] names ↔ name ∈ names ∧ n = .ofNat (names.count name) := by
  have hnodup : ((incrementAll [] names).map Prod.fst).Nodup :=
    nodup_keys_incrementAll [] List.nodup_nil names
  have hget : (incrementAll [] names).get name = 0 + .ofNat (names.count name) :=
    get_incrementAll [] names name
  rw [mem_iff_get hnodup, mem_keys_incrementAll, hget, UInt64.zero_add, eq_comm (a := n)]
  simp

/-! ### Growth -/

/-- By how much a counter has grown, as a word. -/
def growth (before after : Counters) (name : String) : UInt64 := after.get name - before.get name

theorem growth_incrementAll (counters : Counters) (names : List String) (name : String) :
    growth counters (counters.incrementAll names) name = .ofNat (names.count name) := by
  rw [growth, get_incrementAll, UInt64.add_comm, UInt64.add_sub_cancel]

end Counters

namespace Action

variable {α : Type}

/-- The same action, which also gives the names of the counters that it increments. -/
def tallied : Action α → Action (α × List String)
  | done a => done (a, [])
  | read path limit next => read path limit fun r => (next r).tallied
  | write path bytes next => write path bytes fun r => (next r).tallied
  | report e next => report e fun r => (next r).tallied
  | count name next => count name fun r =>
    (fun x : α × List String => (x.1, name :: x.2)) <$> (next r).tallied

/-- The tally is right, and to take it changes nothing. -/
theorem perform_tallied (mw : Meanwhile) (a : Action α) (w : World) :
    ∃ names, a.tallied.perform mw w = (((a.perform mw w).1, names), (a.perform mw w).2) ∧
      (a.perform mw w).2.counters = w.counters.incrementAll names := by
  induction a generalizing w with
  | done a => exact ⟨[], rfl, rfl⟩
  | read path limit next ih => exact ih _ w
  | write path bytes next ih =>
    obtain ⟨names, htally, hcounters⟩ := ih (w.write path bytes).1 (w.write path bytes).2
    refine ⟨names, htally, hcounters.trans ?_⟩
    -- A write leaves the counters as they are, whether it succeeds or not.
    unfold World.write
    split
    · rfl
    · rfl
  | report e next ih => exact ih () (w.report mw e)
  -- The one case with a tally: the name goes in front, as the count comes before all later ones.
  | count name next ih =>
    obtain ⟨names, htally, hcounters⟩ := ih () (w.count name)
    refine ⟨name :: names, ?_, hcounters⟩
    show (_ <$> (next ()).tallied).perform mw (w.count name) = _
    rw [perform_map, htally]
    rfl

end Action

end StackMachine
