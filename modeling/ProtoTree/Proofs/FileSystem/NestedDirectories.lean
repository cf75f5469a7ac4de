import ProtoTree.Proofs.FileSystem.Directories

/-! # Directories and what stands above them

Making a directory looks at no place but its own. So a file above it is not in the
way: it stays, and the directory is made below it. And a directory that is there
already is replaced, so one that could not be listed can be listed from then on.
In every other case all directories up to the made one are there afterwards, and
nothing else has changed.
-/

namespace ProtoTree.MemoryFiles

variable {m : MemoryFiles} {p : Path}

/-- Whether one place is another or lies above it. -/
def Leads (place made : List Component) : Prop := place = made ∨ isAbove place made

/-- Whether a file stands at a place. -/
def holdsFile (m : MemoryFiles) (place : List Component) : Bool := (m.find place).any MemoryEntry.isFile

/-- Whether a directory is made with all that are missing above it: a file at its place or above is in the way, and then
    nothing changes; otherwise its place and all above are directories, what was there stays, and nothing else is
    added. -/
structure MakesAll (m : MemoryFiles) (p : Path) : Prop where
  made_iff : (FileSystem.createDirAll m p).1 = .ok () ↔
    ∀ place, Leads place (m.locate p).components → m.holdsFile place = false
  refused : ∀ e, (FileSystem.createDirAll m p).1 = .error e → (FileSystem.createDirAll m p).2 = m
  directories : (FileSystem.createDirAll m p).1 = .ok () → ∀ place, Leads place (m.locate p).components →
    ∃ entry, (FileSystem.createDirAll m p).2.find place = some entry ∧ entry.isDirectory
  kept : (FileSystem.createDirAll m p).1 = .ok () → ∀ place entry, m.find place = some entry →
    (FileSystem.createDirAll m p).2.find place = some entry
  nothingElse : (FileSystem.createDirAll m p).1 = .ok () → ∀ place, ¬Leads place (m.locate p).components →
    (FileSystem.createDirAll m p).2.find place = m.find place

theorem isFile_eq_holdsFile (p : Path) : m.isFile p = m.holdsFile (m.locate p).components := isFile_eq_find p

theorem createDirAll_eq_ok_iff : (FileSystem.createDirAll m p).1 = .ok () ↔ m.isFile p = false := by
  refine ⟨fun made => (createDirAll_of_made made).1, fun free => ?_⟩
  change (m.createDirAll p).1 = .ok ()
  rw [createDirAll, if_neg (by simp [free])]

theorem find_createDirAll (made : (FileSystem.createDirAll m p).1 = .ok ()) (place : List Component) :
    (FileSystem.createDirAll m p).2.find place = m.furnished (m.locate p).components place := by
  rw [(createDirAll_of_made made).2, find_addDir]

theorem entry?_insert_self (m : MemoryFiles) (p : Path) (entry : MemoryEntry) :
    entry? (m.insert p entry) p = some entry := by
  have here := items_insert m p entry (m.locate p).components
  rw [if_pos rfl] at here
  unfold entry?
  rw [locate_insert, find, here]

section Furnished

variable {made place : List Component}

theorem furnished_of_not_leads (aside : ¬Leads place made) : m.furnished made place = m.find place := by
  obtain ⟨other, beside⟩ := not_or.mp aside
  rw [furnished, if_neg other, if_neg beside]

theorem furnished_of_leads (free : ∀ place, isAbove place made → m.holdsFile place = false) (leads : Leads place made) :
    ∃ entry, m.furnished made place = some entry ∧ entry.isDirectory := by
  rw [furnished]
  split
  · exact ⟨.directory, rfl, rfl⟩
  · next other =>
      have above := leads.resolve_left other
      have unfiled := free place above
      rw [if_pos above]
      rw [holdsFile] at unfiled
      cases before : m.find place with
      | none => exact ⟨.directory, rfl, rfl⟩
      | some entry =>
          rw [before] at unfiled
          exact ⟨entry, rfl, by simpa [MemoryEntry.isDirectory] using unfiled⟩

theorem furnished_of_found {entry : MemoryEntry} (found : m.find place = some entry)
    (same : place = made → entry = .directory) : m.furnished made place = some entry := by
  rw [furnished]
  split
  · next here => rw [same here]
  · split
    · rw [found]
      rfl
    · exact found

end Furnished

theorem makesAll_of_isFile (file : m.isFile p) : m.MakesAll p := by
  have refused : (FileSystem.createDirAll m p).1 ≠ .ok () := by simp [createDirAll_eq_ok_iff, file]
  constructor
  case made_iff =>
    refine iff_of_false refused fun free => ?_
    have unfiled := free _ (.inl rfl)
    rw [← isFile_eq_holdsFile, file] at unfiled
    cases unfiled
  case refused => exact fun e => createDirAll_of_refused
  case directories => exact fun made => absurd made refused
  case kept => exact fun made => absurd made refused
  case nothingElse => exact fun made => absurd made refused

theorem makesAll_of_free (unfiled : m.isFile p = false)
    (free : ∀ place, isAbove place (m.locate p).components → m.holdsFile place = false)
    (listable : m.entry? p ≠ some .unreadableDirectory) : m.MakesAll p := by
  have made := createDirAll_eq_ok_iff.mpr unfiled
  constructor
  case made_iff =>
    refine iff_of_true made fun place leads => ?_
    rcases leads with rfl | above
    · rwa [← isFile_eq_holdsFile]
    · exact free place above
  case refused => exact fun e => createDirAll_of_refused
  case directories =>
    intro _ place leads
    rw [find_createDirAll made]
    exact furnished_of_leads free leads
  case kept =>
    intro _ place entry found
    rw [find_createDirAll made]
    -- what stands at the made place itself is no file and can be listed, so it is a plain directory
    refine furnished_of_found found fun here => ?_
    subst here
    have directory := not_isFile_of_entry? unfiled found
    cases entry with
    | file | unreadableFile => cases directory
    | directory => rfl
    | unreadableDirectory => exact absurd found listable
  case nothingElse =>
    intro _ place aside
    rw [find_createDirAll made, furnished_of_not_leads aside]

/-- A directory is refused just where a file stands, and then nothing changes; one that is made furnishes its place and
    what is above. So it is made as it should be unless a file stands above it or it is there already and cannot be
    listed. -/
theorem createDirAll_furnishes (m : MemoryFiles) (p : Path) :
    ((FileSystem.createDirAll m p).1 = .ok () ↔ m.isFile p = false) ∧
      (∀ e, (FileSystem.createDirAll m p).1 = .error e → (FileSystem.createDirAll m p).2 = m) ∧
      ((FileSystem.createDirAll m p).1 = .ok () → (FileSystem.createDirAll m p).2.root = m.root ∧
        ∀ place, (FileSystem.createDirAll m p).2.find place = m.furnished (m.locate p).components place) ∧
      (m.MakesAll p ↔ m.isFile p ∨
        (∀ place, isAbove place (m.locate p).components → m.holdsFile place = false) ∧
          m.entry? p ≠ some .unreadableDirectory) := by
  refine ⟨createDirAll_eq_ok_iff, fun e => createDirAll_of_refused, fun made => ⟨?_, find_createDirAll made⟩, ?_, ?_⟩
  · rw [(createDirAll_of_made made).2]
    rfl
  · intro law
    refine or_iff_not_imp_left.mpr fun unfiled => ?_
    -- the directory is made, so the law would have it that no file is above and that what was at its place stays
    have made := createDirAll_eq_ok_iff.mpr (Bool.eq_false_iff.mpr unfiled)
    refine ⟨fun place above => law.made_iff.mp made place (.inr above), fun unlistable => ?_⟩
    have kept := law.kept made _ _ unlistable
    rw [find_createDirAll made, furnished, if_pos rfl] at kept
    cases kept
  · rintro (file | ⟨free, listable⟩)
    · exact makesAll_of_isFile file
    · cases unfiled : m.isFile p with
      | true => exact makesAll_of_isFile unfiled
      | false => exact makesAll_of_free unfiled free listable

/-! ### A file above and a directory that cannot be listed -/

/-- A file, and nothing else. -/
def loneFile : MemoryFiles := ofFiles (.ofString "/") [textFile "/d/f" "x"]

/-- A directory that cannot be listed, and nothing else. -/
def shutDirectory : MemoryFiles := (empty (.ofString "/")).addUnreadableDir (.ofString "/d/s")

/-- A directory is made below a file, and one that cannot be listed is replaced by one that can. -/
theorem createDirAll_furnishes_obstructed :
    (FileSystem.createDirAll loneFile (.ofString "/d/f/g")).1 = .ok () ∧
      ¬loneFile.MakesAll (.ofString "/d/f/g") ∧
      entry? (FileSystem.createDirAll shutDirectory (.ofString "/d/s")).2 (.ofString "/d/s") = some .directory ∧
      ¬shutDirectory.MakesAll (.ofString "/d/s") := by
  obtain ⟨below, -, -, lawBelow⟩ := createDirAll_furnishes loneFile (.ofString "/d/f/g")
  obtain ⟨shut, -, furnishes, lawShut⟩ := createDirAll_furnishes shutDirectory (.ofString "/d/s")
  have open_ : loneFile.isFile (.ofString "/d/f/g") = false := by
    rw [loneFile, isFile_ofFiles]
    decide
  have file : loneFile.holdsFile (Path.ofString "/d/f").components := by
    have stands : loneFile.isFile (.ofString "/d/f") := by
      rw [loneFile, isFile_ofFiles]
      decide
    rwa [isFile_eq_holdsFile, locate_of_absolute rfl] at stands
  have found : shutDirectory.entry? (.ofString "/d/s") = some .unreadableDirectory := entry?_insert_self _ _ _
  have noFile : shutDirectory.isFile (.ofString "/d/s") = false := by
    unfold entry? at found
    rw [isFile_eq_find, found]
    rfl
  refine ⟨below.mpr open_, fun law => ?_, ?_, fun law => ?_⟩
  · rcases lawBelow.mp law with at_ | ⟨free, -⟩
    · rw [open_] at at_
      cases at_
    · have unfiled := free _ (by decide : isAbove (Path.ofString "/d/f").components _)
      rw [file] at unfiled
      cases unfiled
  · obtain ⟨sameRoot, finds⟩ := furnishes (shut.mpr noFile)
    unfold entry?
    rw [locate, sameRoot, finds, furnished]
    exact if_pos rfl
  · rcases lawShut.mp law with at_ | ⟨-, listable⟩
    · rw [noFile] at at_
      cases at_
    · exact listable found

end ProtoTree.MemoryFiles
