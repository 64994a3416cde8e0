import Mathlib.Data.UInt
import StackMachine.Proofs.Counting
import StackMachine.Proofs.Registries.Families

/-!
# What registries count

The tables behind the registries keep up with the calls step by step (`Registries.Tracks.perform`):
a family has one table, and this holds what has been counted through any of its registries. So
registries show how often their families have been counted, and nothing of other families
(`Registries.counts_per_family`).
-/

namespace StackMachine.Registries

/-! ### Tables by number -/

def incrementedIn (families : Array Nat) (family : Nat) (calls : List Call) : List String :=
  incremented (fun r => families[r]? = some family) calls

/-- The registries are as the calls leave them: they are grouped into families, and the table of a
family holds what has been counted through its registries. -/
structure Tracks (rs : Registries) (calls : List Call) : Prop where
  grouped : Grouped rs.families calls
  family_lt : ∀ {r family : Nat}, rs.families[r]? = some family → family < rs.tables.size
  table : ∀ {family : Nat}, family < rs.tables.size →
    rs.tables[family]? = some (Counters.incrementAll [] (incrementedIn rs.families family calls))

section Tables

variable {rs : Registries} {families : Array Nat} {calls : List Call} {call : Call} {r family : Nat}

theorem incrementedIn_concat_of_not_isIncrement (hcall : call.isIncrement = false) :
    incrementedIn families family (calls ++ [call]) = incrementedIn families family calls := by
  rw [incrementedIn, incremented_concat]
  cases call with
  | increment r name => cases hcall
  | _ => exact List.append_nil _

theorem incrementedIn_concat_increment (name : String) :
    incrementedIn families family (calls ++ [.increment r name]) =
      incrementedIn families family calls ++ if families[r]? = some family then [name] else [] := by
  rw [incrementedIn, incremented_concat, Call.incremented?]
  split
  · rfl
  · rfl

/-- What has been counted so far is not touched by a registry that is added. -/
theorem incrementedIn_push (h : Grouped families calls) (more : Nat) :
    incrementedIn (families.push more) family calls = incrementedIn families family calls := by
  apply List.filterMap_congr
  intro call hcall
  cases call with
  | increment r name =>
    obtain ⟨other, hr⟩ := h.through _ hcall r rfl
    simp only [Call.incremented?, hr, getElem?_push_of_some hr more]
  | _ => rfl

/-- Nothing has been counted yet for a family that has no registry. -/
theorem incrementedIn_eq_nil (hnew : ∀ r : Nat, families[r]? ≠ some family) :
    incrementedIn families family calls = [] := by
  apply List.filterMap_eq_nil_iff.mpr
  intro call _
  cases call with
  | increment r name => exact if_neg (hnew r)
  | _ => rfl

namespace Tracks

theorem nil : Tracks empty [] where
  grouped := .nil
  family_lt := by simp [empty]
  table := by simp [empty]

/-- A new family has an empty table, and the tables of the others stay. -/
theorem fresh (h : Tracks rs calls) : Tracks rs.fresh (calls ++ [.fresh]) := by
  have hnew : ∀ r : Nat, rs.families[r]? ≠ some rs.tables.size :=
    fun r hr => Nat.lt_irrefl _ (h.family_lt hr)
  refine ⟨h.grouped.push rfl nofun fun _ => hnew, ?_, ?_⟩
  · intro r family hr
    show family < (rs.tables.push []).size
    rw [Array.size_push]
    rcases getElem?_push_cases hr with hr | ⟨-, rfl⟩
    · exact Nat.lt_succ_of_lt (h.family_lt hr)
    · exact Nat.lt_succ_self _
  · intro family hfamily
    show (rs.tables.push [])[family]? = _
    rw [incrementedIn_concat_of_not_isIncrement rfl]
    show _ = some (Counters.incrementAll [] (incrementedIn (rs.families.push _) family calls))
    rw [incrementedIn_push h.grouped, Array.getElem?_push]
    split
    · -- The last table is the one of the new family.
      next hlast =>
      subst hlast
      rw [incrementedIn_eq_nil hnew]
      rfl
    · next hlast =>
      have hsize : family < rs.tables.size + 1 := by rwa [← Array.size_push []]
      exact h.table (Nat.lt_of_le_of_ne (Nat.le_of_lt_succ hsize) hlast)

/-- A clone shares the table of its model. -/
theorem clone (h : Tracks rs calls) (hr : r < made calls) :
    Tracks (rs.clone r) (calls ++ [.clone r]) := by
  obtain ⟨family, hfamily⟩ := h.grouped.exists_family hr
  have hclone : rs.clone r = { rs with families := rs.families.push family } := by
    simp only [Registries.clone, hfamily]
  rw [hclone]
  refine ⟨h.grouped.push rfl ?_ nofun, ?_, ?_⟩
  · rintro m ⟨⟩
    exact hfamily
  · intro s other hs
    rcases getElem?_push_cases hs with hs | ⟨-, rfl⟩
    · exact h.family_lt hs
    · exact h.family_lt hfamily
  · intro other hother
    rw [incrementedIn_concat_of_not_isIncrement rfl, incrementedIn_push h.grouped]
    exact h.table hother

/-- An increment goes to the table of the family, and to no other. -/
theorem increment (h : Tracks rs calls) (hr : r < made calls) (name : String) :
    Tracks (rs.increment r name) (calls ++ [.increment r name]) := by
  obtain ⟨family, hfamily⟩ := h.grouped.exists_family hr
  have hincrement : rs.increment r name =
      { rs with tables := rs.tables.modify family (Counters.increment name) } := by
    simp only [Registries.increment, hfamily]
  rw [hincrement]
  refine ⟨h.grouped.same rfl ?_, ?_, ?_⟩
  · rintro s ⟨⟩
    exact hr
  · intro s other hs
    rw [Array.size_modify]
    exact h.family_lt hs
  · intro other hother
    rw [Array.size_modify] at hother
    rw [Array.getElem?_modify, h.table hother]
    show _ = some (Counters.incrementAll [] (incrementedIn rs.families other _))
    rw [incrementedIn_concat_increment, Counters.incrementAll_append]
    by_cases heq : family = other
    · subst heq
      rw [if_pos rfl, if_pos hfamily]
      rfl
    · have hne : rs.families[r]? ≠ some other := by
        rw [hfamily]
        exact fun hsome => heq (Option.some.inj hsome)
      rw [if_neg heq, if_neg hne]
      rfl

/-- A call that only looks at counters. -/
theorem look (h : Tracks rs calls) (hmakes : call.makes = false)
    (hincrement : call.isIncrement = false) (hcall : ∀ r ∈ call.through?, r < made calls) :
    Tracks rs (calls ++ [call]) where
  grouped := h.grouped.same hmakes hcall
  family_lt := h.family_lt
  table := by
    intro family hfamily
    rw [incrementedIn_concat_of_not_isIncrement hincrement]
    exact h.table hfamily

/-- What one call keeps. -/
theorem perform (h : Tracks rs calls) (hcall : ∀ r ∈ call.through?, r < made calls) :
    Tracks (rs.perform call).2 (calls ++ [call]) := by
  cases call with
  | fresh => exact h.fresh
  | clone r => exact h.clone (hcall r rfl)
  | increment r name => exact h.increment (hcall r rfl) name
  | get r name => exact h.look rfl rfl hcall
  | snapshot r => exact h.look rfl rfl hcall

/-- Registries follow all the calls. -/
theorem after (hcalls : WellFormed calls) : Tracks (empty.after calls) calls := by
  -- The last call is made on what the others have left, so the induction is from the end.
  induction calls using List.reverseRecOn with
  | nil => exact .nil
  | append_singleton calls call ih =>
    obtain ⟨hcalls, hcall⟩ := wellFormed_concat.mp hcalls
    rw [after_concat]
    exact (ih hcalls).perform hcall

/-! ### What registries show -/

open Classical in
/-- A registry shows what has been counted through its family. -/
theorem snapshot_eq (h : Tracks rs calls) (hr : r < made calls) :
    rs.snapshot r = Counters.incrementAll [] (incremented (Related calls r) calls) := by
  obtain ⟨family, hfamily⟩ := h.grouped.exists_family hr
  -- Being connected by clones and having the same number select the same increments.
  have hsame : incremented (Related calls r) calls = incrementedIn rs.families family calls := by
    apply List.filterMap_congr
    intro call _
    cases call with
    | increment s name => simp only [Call.incremented?, h.grouped.related_iff hfamily]
    | _ => rfl
  have htable := h.table (h.family_lt hfamily)
  simp only [snapshot, hfamily, Array.getD_eq_getD_getElem?, htable, hsame, Option.getD_some]

end Tracks

end Tables

section Shown

variable {rs : Registries} {calls : List Call} {r : Nat} {name : String}

/-- A family is incremented at most as often as all of them are. -/
theorem increments_le (calls : List Call) (r : Nat) (name : String) :
    increments calls r name ≤ calls.countP Call.isIncrement := by
  classical
  calc increments calls r name
      ≤ (incremented (Related calls r) calls).length := List.count_le_length
    _ = calls.countP fun call => (call.incremented? (Related calls r)).isSome :=
        List.length_filterMap_eq_countP
    _ ≤ calls.countP Call.isIncrement := by
        apply List.countP_mono_left
        intro call _ hsome
        cases call with
        | increment s name => rfl
        | _ => cases hsome

/-- As long as fewer than 2^64 increments are made in all, no count wraps around. -/
theorem Tracks.toNat_get (h : Tracks rs calls) (hr : r < made calls)
    (hfew : calls.countP Call.isIncrement < 2 ^ 64) :
    (rs.get r name).toNat = increments calls r name := by
  have hle := increments_le calls r name
  rw [Registries.get, h.snapshot_eq hr, Counters.get_incrementAll]
  show (0 + UInt64.ofNat (increments calls r name)).toNat = increments calls r name
  rw [UInt64.zero_add]
  exact UInt64.toNat_ofNat_of_lt' (hle.trans_lt hfew)

/-- A counter is listed if it has been incremented at all, with the number of times. -/
theorem Tracks.mem_snapshot_iff (h : Tracks rs calls) (hr : r < made calls)
    (hfew : calls.countP Call.isIncrement < 2 ^ 64) {n : UInt64} :
    (name, n) ∈ rs.snapshot r ↔
      0 < increments calls r name ∧ n.toNat = increments calls r name := by
  have hle := increments_le calls r name
  have hword : (UInt64.ofNat (increments calls r name)).toNat = increments calls r name :=
    UInt64.toNat_ofNat_of_lt' (hle.trans_lt hfew)
  rw [h.snapshot_eq hr, Counters.mem_incrementAll_nil, ← List.count_pos_iff, ← UInt64.toNat_inj]
  show 0 < increments calls r name ∧
    n.toNat = (UInt64.ofNat (increments calls r name)).toNat ↔ _
  rw [hword]

/-- What is counted through a registry does not show in other families. -/
theorem Tracks.snapshot_increment_of_not_related (h : Tracks rs calls) {s : Nat}
    (hs : s < made calls) (hapart : ¬ Related calls s r) (name : String) :
    (rs.increment s name).snapshot r = rs.snapshot r := by
  obtain ⟨family, hfamily⟩ := h.grouped.exists_family hs
  rw [h.grouped.related_iff hfamily] at hapart
  simp only [Registries.increment, hfamily, snapshot]
  cases hr : rs.families[r]? with
  | none => rfl
  | some other =>
    have hne : family ≠ other := by
      rintro rfl
      exact hapart hr
    simp only [Array.getD_eq_getD_getElem?, Array.getElem?_modify, if_neg hne]

end Shown

/-- **Registries count exactly, family by family.** In any sequence of calls, a counter that is read
through a registry has been incremented so many times before, through any registry of the family; a
snapshot lists the counters that have been incremented at all, each of them once and with its count,
and stays what it is, whatever calls come after it. An increment changes nothing that registries of
other families show. New registries are numbered in order, and each family has exactly one that was
made fresh. -/
theorem counts_per_family {calls : List Call} (hcalls : WellFormed calls)
    (hfew : calls.countP Call.isIncrement < 2 ^ 64) :
    (∀ earlier r name, earlier ++ [.get r name] <+: calls →
      ∃ n, (empty.answers calls)[earlier.length]? = some (.value n) ∧
        n.toNat = increments earlier r name) ∧
    (∀ earlier r, earlier ++ [.snapshot r] <+: calls →
      ∃ shown, (empty.answers calls)[earlier.length]? = some (.counters shown) ∧
        (shown.map Prod.fst).Nodup ∧
        ∀ name n, (name, n) ∈ shown ↔
          0 < increments earlier r name ∧ n.toNat = increments earlier r name) ∧
    (∀ earlier s name, earlier ++ [.increment s name] <+: calls →
      ∀ r, ¬ Related earlier s r →
        (empty.after (earlier ++ [.increment s name])).snapshot r =
          (empty.after earlier).snapshot r) ∧
    (∀ earlier call, earlier ++ [call] <+: calls → call.makes = true →
      (empty.answers calls)[earlier.length]? = some (.registry (made earlier))) ∧
    ∀ r < made calls, ∃! founder, Founder calls founder ∧ Related calls founder r := by
  have htracks {earlier : List Call} {call : Call} (h : earlier ++ [call] <+: calls) :
      Tracks (empty.after earlier) earlier :=
    .after (hcalls.of_prefix ((List.prefix_append _ _).trans h))
  have hfewer {earlier : List Call} {call : Call} (h : earlier ++ [call] <+: calls) :
      earlier.countP Call.isIncrement < 2 ^ 64 :=
    ((List.prefix_append _ _).trans h).countP_le.trans_lt hfew
  refine ⟨?_, ?_, ?_, ?_, ?_⟩
  · intro earlier r name h
    exact ⟨_, getElem?_answers h, (htracks h).toNat_get (hcalls _ _ h r rfl) (hfewer h)⟩
  · intro earlier r h
    have hr : r < made earlier := hcalls _ _ h r rfl
    refine ⟨_, getElem?_answers h, ?_, fun name n => (htracks h).mem_snapshot_iff hr (hfewer h)⟩
    rw [(htracks h).snapshot_eq hr]
    exact Counters.nodup_keys_incrementAll [] List.nodup_nil _
  · intro earlier s name h r hapart
    rw [after_concat]
    exact (htracks h).snapshot_increment_of_not_related (hcalls _ _ h s rfl) hapart name
  · intro earlier call h hmakes
    rw [getElem?_answers h, ← (htracks h).grouped.size_eq]
    cases call with
    | fresh | clone r => rfl
    | _ => cases hmakes
  · intro r hr
    exact (Tracks.after hcalls).grouped.existsUnique_founder hr

/-- A registry, its clone and a stranger. The first two count for each other, on either side of the
clone, the third one counts for itself, and the snapshot does not go along. -/
theorem counts_per_family_clone :
    let calls : List Call := [.fresh, .increment 0 "a", .clone 0, .fresh, .increment 1 "a",
      .increment 2 "a", .snapshot 0, .increment 1 "a", .get 0 "a", .get 2 "a"]
    WellFormed calls ∧ calls.countP Call.isIncrement < 2 ^ 64 ∧
      (empty.answers calls)[6]? = some (.counters [("a", 2)]) ∧
      increments (calls.take 6) 0 "a" = 2 ∧
      (empty.answers calls)[8]? = some (.value 3) ∧ increments (calls.take 8) 0 "a" = 3 ∧
      (empty.answers calls)[9]? = some (.value 1) ∧ increments (calls.take 9) 2 "a" = 1 ∧
      ¬ Related (calls.take 4) 1 2 ∧
      (empty.after (calls.take 5)).snapshot 2 = (empty.after (calls.take 4)).snapshot 2 ∧
      ∃! founder, Founder calls founder ∧ Related calls founder 1 := by
  intro calls
  have hcalls : WellFormed calls := by decide
  have hfew : calls.countP Call.isIncrement < 2 ^ 64 := by decide
  have hshown : (empty.answers calls)[6]? = some (.counters [("a", 2)]) := by decide
  have hboth : (empty.answers calls)[8]? = some (.value 3) := by decide
  have hother : (empty.answers calls)[9]? = some (.value 1) := by decide
  have hapart : ¬ Related (calls.take 4) 1 2 := by
    have htracks := Tracks.after (hcalls.of_prefix (List.take_prefix 4 calls))
    have hone : (empty.after (calls.take 4)).families[1]? = some 0 := by decide
    rw [htracks.grouped.related_iff hone]
    decide
  obtain ⟨hget, hsnapshot, hothers, -, hfounder⟩ := counts_per_family hcalls hfew
  obtain ⟨shown, hanswer, -, hentries⟩ := hsnapshot (calls.take 6) 0 (by decide)
  obtain ⟨n, hn, hncount⟩ := hget (calls.take 8) 0 "a" (by decide)
  obtain ⟨m, hm, hmcount⟩ := hget (calls.take 9) 2 "a" (by decide)
  cases hshown.symm.trans hanswer
  cases hboth.symm.trans hn
  cases hother.symm.trans hm
  have htwo := ((hentries "a" 2).mp List.mem_cons_self).2
  exact ⟨hcalls, hfew, hshown, htwo.symm, hboth, hncount.symm, hother, hmcount.symm,
    hapart, hothers (calls.take 4) 1 "a" (by decide) 2 hapart, hfounder 1 (by decide)⟩

end StackMachine.Registries
