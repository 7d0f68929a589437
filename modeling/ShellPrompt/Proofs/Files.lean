import ShellPrompt.Files

/-!
What operations on files leave alone. Making directories changes no file at all, and writing to a
path changes only the file that it leads to, which is found there again afterwards.
-/

namespace ShellPrompt

def Entry.content? : Entry → Option ByteArray
  | .directory => none
  | .file content => some content

namespace Files

/-- The content of the file at a place, if there is one. -/
def content? (files : Files) (place : Place) : Option ByteArray :=
  (files.lookup place).bind Entry.content?

/-- The same files with the same content, whatever the directories. -/
def SameFiles (before after : Files) : Prop := ∀ place, after.content? place = before.content? place

/-- A place is as it was, or has a directory where there was nothing. -/
def KeptAt (before after : Files) (place : Place) : Prop :=
  after.lookup place = before.lookup place ∨
    before.lookup place = none ∧ after.lookup place = some .directory

/-- All that was there is still there, and all that is new are directories. -/
def AddsDirectories (before after : Files) : Prop := ∀ place, KeptAt before after place

/-- The file at a path has some content, and everything else is kept. -/
def WritesOnly (before after : Files) (start : Place) (path : Path) (content : ByteArray) : Prop :=
  ∃ place, after.locate start path = .ok place ∧ after.lookup place = some (.file content) ∧
    ∀ other, other ≠ place → KeptAt before after other

theorem WritesOnly.read {before after : Files} {start : Place} {path : Path} {content : ByteArray}
    (writes : WritesOnly before after start path content) :
    after.read start path = .ok content := by
  obtain ⟨place, found, held, _⟩ := writes
  rw [Files.read, found]
  simp only [held]

theorem AddsDirectories.refl (files : Files) : AddsDirectories files files := fun _ => .inl rfl

theorem AddsDirectories.trans {first second third : Files} (start : AddsDirectories first second)
    (rest : AddsDirectories second third) : AddsDirectories first third := by
  intro place
  rcases rest place with same | ⟨free, added⟩
  · rw [KeptAt, same]
    exact start place
  · rcases start place with same | ⟨_, added⟩
    · exact .inr ⟨same ▸ free, added⟩
    · rw [added] at free
      cases free

theorem AddsDirectories.sameFiles {before after : Files} (adds : AddsDirectories before after) :
    SameFiles before after := by
  intro place
  unfold content?
  rcases adds place with same | ⟨free, added⟩
  · rw [same]
  · rw [free, added]
    rfl

/-- Every file is still there with its content. -/
def Keeps (before after : Files) : Prop :=
  ∀ place content, before.content? place = some content → after.content? place = some content

/-- The root is a directory. -/
theorem lookup_root (files : Files) : files.lookup [] = some .directory := if_pos rfl

theorem ne_root {files : Files} {place : Place} (other : files.lookup place ≠ some .directory) :
    place ≠ [] := by
  rintro rfl
  exact other files.lookup_root

theorem content?_put {files : Files} {target : Place}
    (noDirectory : files.lookup target ≠ some .directory) (entry : Entry) (place : Place) :
    (files.put target entry).content? place =
      if target = place then entry.content? else files.content? place := by
  rw [content?, lookup_put files target place entry (ne_root noDirectory)]
  split
  · rfl
  · rw [content?]

section Directories
variable {files : Files} {start : Place} {path : Path}

theorem makeDirectory_ok {made : Files} (done : files.makeDirectory start path = .ok made) :
    ∃ place, files.lookup place = none ∧ made = files.put place .directory := by
  unfold makeDirectory at done
  split at done
  · cases done
  · rename_i place _
    split at done
    · cases done
    · rename_i free
      cases done
      exact ⟨place, free, rfl⟩

theorem addsDirectories_makeDirectory {made : Files}
    (done : files.makeDirectory start path = .ok made) : AddsDirectories files made := by
  obtain ⟨place, free, rfl⟩ := makeDirectory_ok done
  have noDirectory : files.lookup place ≠ some .directory := by
    rw [free]
    exact nofun
  intro other
  rw [KeptAt, lookup_put files place other _ (ne_root noDirectory)]
  split
  · rename_i same
    exact .inr ⟨same ▸ free, rfl⟩
  · exact .inl rfl

theorem addsDirectories_ensureDirectory {made : Files}
    (done : files.ensureDirectory start path = .ok made) : AddsDirectories files made := by
  unfold ensureDirectory at done
  split at done
  · rename_i new isMade
    cases done
    exact addsDirectories_makeDirectory isMade
  · split at done
    · cases done
      exact .refl files
    · cases done

/-- Making directories does nothing else, whether all of them can be made or not. -/
theorem addsDirectories_makeDirectories (files : Files) (start : Place) (path : Path) :
    AddsDirectories files (files.makeDirectories start path).1 := by
  fun_induction makeDirectories files start path with
  | case1 path made done => exact addsDirectories_makeDirectory done
  | case2 path fault failed missing around problem made inductionHypothesis =>
      rw [made] at inductionHypothesis
      exact inductionHypothesis
  | case3 path fault failed missing around made problem last inductionHypothesis =>
      rw [made] at inductionHypothesis
      exact inductionHypothesis
  | case4 path fault failed missing around made new last inductionHypothesis =>
      rw [made] at inductionHypothesis
      exact inductionHypothesis.trans (addsDirectories_ensureDirectory last)
  | case5 => exact .refl files
  | case6 => exact .refl files

theorem sameFiles_makeDirectories (files : Files) (start : Place) (path : Path) :
    SameFiles files (files.makeDirectories start path).1 :=
  (addsDirectories_makeDirectories files start path).sameFiles

end Directories

section Writing
variable {files : Files} {start : Place} {path : Path} {content : ByteArray}

/-- Writing puts a file at the place that the path leads to, where no directory is. -/
theorem write_ok {written : Files} (done : files.write start path content = .ok written) :
    ∃ place, files.locate start path = .ok place ∧ files.lookup place ≠ some .directory ∧
      written = files.put place (.file content) := by
  unfold write at done
  split at done
  · cases done
  · rename_i place found
    split at done
    · cases done
    · rename_i noDirectory
      cases done
      exact ⟨place, found, noDirectory, rfl⟩

/-- Only directories are passed on the way to a place, so a new file changes no way that there
was. -/
theorem follow_put {target : Place} (noDirectory : files.lookup target ≠ some .directory)
    (entry : Entry) {names : List String} {place reached : Place}
    (found : files.follow place names = .ok reached) :
    (files.put target entry).follow place names = .ok reached := by
  induction names generalizing place with
  | nil => exact found
  | cons name names inductionHypothesis =>
      rw [follow] at found
      split at found
      · cases found
      · cases found
      · rename_i isDirectory
        have differs : target ≠ place := by
          rintro rfl
          exact noDirectory isDirectory
        rw [follow, lookup_put files target place entry (ne_root noDirectory), if_neg differs,
          isDirectory]
        exact inductionHypothesis found

theorem locate_put {target place : Place} (noDirectory : files.lookup target ≠ some .directory)
    (entry : Entry) (found : files.locate start path = .ok place) :
    (files.put target entry).locate start path = .ok place :=
  follow_put noDirectory entry found

/-- A file that is emptied and then filled, in directories that were made for it, is all that is
written. -/
theorem writesOnly_write_write {made emptied written : Files} {first : ByteArray}
    (around : AddsDirectories files made) (opened : made.write start path first = .ok emptied)
    (filled : emptied.write start path content = .ok written) :
    WritesOnly files written start path content := by
  obtain ⟨place, found, noDirectory, rfl⟩ := write_ok opened
  obtain ⟨target, again, stillNone, rfl⟩ := write_ok filled
  rw [locate_put noDirectory _ found] at again
  cases again
  refine ⟨place, locate_put stillNone _ (locate_put noDirectory _ found), ?_, ?_⟩
  · rw [lookup_put _ place place _ (ne_root stillNone), if_pos rfl]
  · intro other differs
    have same : ((made.put place (.file first)).put place (.file content)).lookup other =
        made.lookup other := by
      rw [lookup_put _ place other _ (ne_root stillNone), if_neg differs.symm,
        lookup_put _ place other _ (ne_root noDirectory), if_neg differs.symm]
    rw [KeptAt, same]
    exact around other

/-- A file that was written is there, and can be written again. -/
theorem write_write {emptied : Files} (first : files.write start path content = .ok emptied)
    (other : ByteArray) : ∃ written, emptied.write start path other = .ok written := by
  obtain ⟨place, found, noDirectory, rfl⟩ := write_ok first
  have held : (files.put place (.file content)).lookup place = some (.file content) := by
    rw [lookup_put files place place _ (ne_root noDirectory), if_pos rfl]
  exact ⟨_, by rw [write, locate_put noDirectory _ found]; simp only [held]; rfl⟩

end Writing

end Files

end ShellPrompt
