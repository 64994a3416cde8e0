import StackMachine.Files.Basic

/-!
# What is written is read

A file that has been written is found again under the same text, with the bytes that were written
(`Files.read_of_write`). The walk to it is the same as before: writing puts a file where no directory
is, and a walk goes through directories only (`Files.enter_put`).
-/

namespace StackMachine.Files

variable {files : Files} {location directory next : Location} {bytes : ByteArray}
  {name text : String} {path : Path}

/-! ### Walks -/

/-- An entry is found under a name that is not too long. -/
theorem lookUp_of_find? {entry : Entry} (hname : name.utf8ByteSize ≤ Path.nameLimit)
    (h : files.find? (name :: directory) = some entry) : files.lookUp directory name = .ok entry := by
  simp only [lookUp, if_neg (Nat.not_lt.mpr hname), h]

/-- What is found, is found under its name in a directory. -/
theorem lookUp_eq_ok {entry : Entry} (h : files.lookUp directory name = .ok entry) :
    name.utf8ByteSize ≤ Path.nameLimit ∧ files.find? (name :: directory) = some entry := by
  unfold lookUp at h
  split at h
  · cases h
  · next hname =>
    split at h
    · next found hfound =>
      cases h
      exact ⟨Nat.not_lt.mp hname, hfound⟩
    · cases h

/-- A directory that can be entered is still there when a file is put elsewhere. -/
theorem enter_put (hlocation : files.find? location ≠ some .directory)
    (h : files.enter directory name = .ok next) :
    (files.put location (.file bytes)).enter directory name = .ok next := by
  unfold enter at h ⊢
  by_cases hdot : name = "."
  · rwa [if_pos hdot] at h ⊢
  · by_cases hdots : name = ".."
    · rwa [if_neg hdot, if_pos hdots] at h ⊢
    · rw [if_neg hdot, if_neg hdots] at h ⊢
      split at h
      · next hfound =>
        obtain ⟨hname, hentry⟩ := lookUp_eq_ok hfound
        -- The place of the file held no directory, so the walk does not go through it.
        have hne : name :: directory ≠ location := by
          rintro rfl
          exact hlocation hentry
        have hstill : (files.put location (.file bytes)).lookUp directory name = .ok .directory :=
          lookUp_of_find? hname ((find?_put_of_ne files _ hne).trans hentry)
        rw [hstill]
        exact h
      · cases h
      · cases h

/-- So the walk to the last name of a path is the same. -/
theorem parentOf_put (hlocation : files.find? location ≠ some .directory)
    (h : files.parentOf path = .ok directory) :
    (files.put location (.file bytes)).parentOf path = .ok directory := by
  unfold parentOf at h ⊢
  have hstart : (files.put location (.file bytes)).start = files.start := rfl
  rw [hstart]
  generalize (if path.absolute then [] else files.start) = start at h ⊢
  generalize path.parents = names at h ⊢
  -- The walk is a fold over the names, and every place on it is general.
  induction names generalizing start with
  | nil => exact h
  | cons name names ih =>
    rw [List.foldlM_cons] at h ⊢
    cases hnext : files.enter start name with
    | error cause =>
      rw [hnext] at h
      cases h
    | ok next =>
      rw [hnext] at h
      rw [enter_put hlocation hnext]
      exact ih next h

/-! ### Writing and reading -/

/-- A new entry has a name that is short enough, and what is there now is what is found there. -/
theorem site_eq_ok {found? : Option Entry} (h : files.site directory name = .ok found?) :
    name.utf8ByteSize ≤ Path.nameLimit ∧ files.find? (name :: directory) = found? := by
  unfold site at h
  split at h
  · next entry hfound =>
    cases h
    exact lookUp_eq_ok hfound
  · next hfound =>
    cases h
    -- For a name too long, the look-up would have said so, and not that nothing is there.
    have hname : name.utf8ByteSize ≤ Path.nameLimit := by
      apply Nat.not_lt.mp
      intro hlong
      simp only [lookUp, if_pos hlong] at hfound
      cases hfound
    refine ⟨hname, ?_⟩
    cases hentry : files.find? (name :: directory) with
    | none => rfl
    | some entry =>
      rw [lookUp_of_find? hname hentry] at hfound
      cases hfound
  · cases h

/-- A write that succeeds puts one file, where no directory is. -/
theorem write_eq_ok {after : Files} (h : files.write text bytes = .ok after) :
    ∃ path directory, Path.ofText text = .ok path ∧
      files.parentOf path = .ok directory ∧ Path.isDots path.last = false ∧
      path.ofDirectory = false ∧ path.last.utf8ByteSize ≤ Path.nameLimit ∧
      files.find? (path.last :: directory) ≠ some .directory ∧
      after = files.put (path.last :: directory) (.file bytes) := by
  unfold write at h
  cases hpath : Path.ofText text with
  | error cause =>
    rw [hpath] at h
    cases h
  | ok path =>
    cases hplace : files.parentOf path with
    | error cause =>
      simp only [hpath, bind, Except.bind, hplace] at h
      cases h
    | ok directory =>
      simp only [hpath, bind, Except.bind, hplace] at h
      by_cases hname : Path.isDots path.last || path.ofDirectory
      · rw [if_pos hname] at h
        cases h
      · rw [if_neg hname] at h
        cases hsite : files.site directory path.last with
        | error cause =>
          rw [hsite] at h
          cases h
        | ok found? =>
          obtain ⟨hlast, hentry⟩ := site_eq_ok hsite
          obtain ⟨hdots, hdirectory⟩ := Bool.or_eq_false_iff.mp (Bool.not_eq_true _ ▸ hname)
          refine ⟨path, directory, rfl, hplace, hdots, hdirectory, hlast, ?_⟩
          rw [hsite] at h
          -- A file may be written over, or be new. A directory may not.
          match found? with
          | some .directory => cases h
          | some (.file old) =>
            cases h
            exact ⟨by simp [hentry], rfl⟩
          | none =>
            cases h
            exact ⟨by simp [hentry], rfl⟩

/-- **What has been written is what is read.** -/
theorem read_of_write {after : Files} (h : files.write text bytes = .ok after) :
    after.read text = .ok bytes := by
  obtain ⟨path, directory, hpath, hplace, hdots, hdirectory, hlast, hentry, rfl⟩ := write_eq_ok h
  have hfound : (files.put (path.last :: directory) (.file bytes)).lookUp directory path.last =
      .ok (.file bytes) :=
    lookUp_of_find? hlast (find?_put_self files _ (List.cons_ne_nil _ _))
  simp only [read, hpath, bind, Except.bind, parentOf_put hentry hplace, hdots, hfound,
    hdirectory, Bool.false_eq_true, if_false]

/-- The location of what the text of a path names, if the walk to it succeeds. -/
def locate (files : Files) (text : String) : Option Location :=
  match Path.ofText text with
  | .error _ => none
  | .ok path =>
    match files.parentOf path with
    | .ok directory => some (path.last :: directory)
    | .error _ => none

/-- Nothing else has changed. -/
theorem find?_of_write {after : Files} (h : files.write text bytes = .ok after) :
    ∃ location, files.locate text = some location ∧
      after.find? location = some (.file bytes) ∧
      ∀ other, other ≠ location → after.find? other = files.find? other := by
  obtain ⟨path, directory, hpath, hplace, -, -, -, -, rfl⟩ := write_eq_ok h
  refine ⟨path.last :: directory, ?_, ?_, ?_⟩
  · simp only [locate, hpath, hplace]
  · exact find?_put_self files _ (List.cons_ne_nil _ _)
  · intro other hother
    exact find?_put_of_ne files _ hother

end StackMachine.Files
