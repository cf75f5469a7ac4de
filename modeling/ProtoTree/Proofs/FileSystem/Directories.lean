import ProtoTree.Proofs.FileSystem.Listing

/-! # Directories made in memory

Making a directory fails where a file stands, and changes nothing then. One
that is made is neither a file nor in the way of one: the files stay the same,
and so do the listings of files, up to their order. Only a path that named
nothing may come to name a directory.
-/

namespace ProtoTree.MemoryFiles

variable {m : MemoryFiles} {p : Path}

/-- A directory that cannot be made leaves everything as it is. -/
theorem createDirAll_of_refused {e : FileError} (refused : (FileSystem.createDirAll m p).1 = .error e) :
    (FileSystem.createDirAll m p).2 = m := by
  change (m.createDirAll p).1 = .error e at refused
  change (m.createDirAll p).2 = m
  rw [createDirAll] at refused ⊢
  split
  · rfl
  · next free =>
      rw [if_neg free] at refused
      cases refused

/-- A directory that is made stands where no file was. -/
theorem createDirAll_of_made (made : (FileSystem.createDirAll m p).1 = .ok ()) :
    m.isFile p = false ∧ (FileSystem.createDirAll m p).2 = m.addDir p := by
  change (m.createDirAll p).1 = .ok () at made
  change m.isFile p = false ∧ (m.createDirAll p).2 = m.addDir p
  rw [createDirAll] at made ⊢
  split
  · next file =>
      rw [if_pos file] at made
      cases made
  · next free => exact ⟨by simpa using free, rfl⟩

/-! ## What an added directory changes -/

theorem isFile_congr {q : Path} (same : (m.locate p).components = (m.locate q).components) :
    m.isFile p = m.isFile q := by
  rw [isFile, isFile, same]

theorem hasBelow_iff {parts : List Component} :
    m.hasBelow parts ↔ ∃ below item, m.items[below]? = some item ∧ isAbove parts below := by
  simp only [hasBelow, List.any_eq_true, Prod.exists, Std.HashMap.mem_toList_iff_getElem?_eq_some]

theorem entry?_of_missing {q at_ : Path} (missing : m.read q = .error (.missing at_)) : m.entry? q = none := by
  rw [read] at missing
  cases found : m.entry? q with
  | none => rfl
  | some e =>
      rw [found] at missing
      cases e with
      | file | unreadableFile | directory | unreadableDirectory => cases missing

theorem isPrefix_of_isAbove {dir parts : List Component} (above : isAbove dir parts) : dir <+: parts := by
  simp only [isAbove, Bool.and_eq_true, List.isPrefixOf_iff_prefix] at above
  exact above.2

theorem isFile_eq_find (q : Path) : m.isFile q = (m.find (m.locate q).components).any MemoryEntry.isFile := by
  rw [isFile, find]
  cases m.items[(m.locate q).components]? with
  | some item => rfl
  | none =>
      cases m.hasBelow (m.locate q).components with
      | true => rfl
      | false => rfl

/-- What is found where no file stands is a directory. -/
theorem not_isFile_of_entry? {q : Path} (other : m.isFile q = false) {e : MemoryEntry}
    (found : m.entry? q = some e) : e.isFile = false := by
  unfold entry? at found
  rwa [isFile_eq_find, found] at other

theorem hasBelow_addDir (m : MemoryFiles) (p : Path) (parts : List Component) :
    (m.addDir p).hasBelow parts = (m.hasBelow parts || isAbove parts (m.locate p).components) := by
  rw [Bool.eq_iff_iff, Bool.or_eq_true, hasBelow_iff, hasBelow_iff]
  simp only [addDir, items_insert]
  constructor
  · rintro ⟨below, item, found, above⟩
    split at found
    · next here => exact .inr (here ▸ above)
    · exact .inl ⟨below, item, found, above⟩
  · rintro (⟨below, item, found, above⟩ | above)
    · by_cases here : (m.locate p).components = below
      · exact ⟨below, _, if_pos here, above⟩
      · exact ⟨below, item, (if_neg here).trans found, above⟩
    · exact ⟨_, _, if_pos rfl, above⟩

/-- What is found at a place once a directory is made at another: that directory, and above it one wherever there was
    nothing. -/
def furnished (m : MemoryFiles) (made place : List Component) : Option MemoryEntry :=
  if place = made then some .directory
  else if isAbove place made then (m.find place).or (some .directory)
  else m.find place

theorem find_addDir (m : MemoryFiles) (p : Path) (place : List Component) :
    (m.addDir p).find place = m.furnished (m.locate p).components place := by
  rw [furnished, find, hasBelow_addDir, addDir, items_insert]
  by_cases here : place = (m.locate p).components
  · rw [if_pos here.symm, if_pos here]
  · rw [if_neg (Ne.symm here), if_neg here, find]
    cases m.items[place]? with
    | some item => simp
    | none => cases m.hasBelow place <;> simp

section AddDir

variable (free : m.isFile p = false)
include free

theorem isFile_addDir (q : Path) : (m.addDir p).isFile q = m.isFile q := by
  rw [addDir, isFile_insert]
  split
  · next same => exact free.symm.trans (isFile_congr same)
  · rfl

/-- What is found at a path stays, or the path comes to name a directory at or above the one that is made. -/
theorem entry?_addDir (q : Path) :
    entry? (m.addDir p) q = m.entry? q ∨
      m.isFile q = false ∧ (m.locate q).components <+: (m.locate p).components ∧
        entry? (m.addDir p) q = some .directory := by
  have now : entry? (m.addDir p) q = m.furnished (m.locate p).components (m.locate q).components :=
    find_addDir m p _
  rw [now, furnished]
  split
  · next same => exact .inr ⟨isFile_congr same.symm ▸ free, same ▸ List.prefix_refl _, rfl⟩
  · split
    · next above =>
        cases before : m.find (m.locate q).components with
        | some e => exact .inl before.symm
        | none =>
            have other : m.isFile q = false := by rw [isFile_eq_find, before]; rfl
            exact .inr ⟨other, isPrefix_of_isAbove above, rfl⟩
    · exact .inl rfl

theorem isDir_addDir {q : Path} (directory : m.isDir q) : (m.addDir p).isDir q := by
  rw [isDir] at directory ⊢
  rcases entry?_addDir free q with same | ⟨-, -, now⟩
  · rwa [same]
  · rw [now]
    rfl

/-- Reading goes as before, or a path that named nothing is a directory now, at or above the one that is made. -/
theorem read_addDir (q : Path) :
    (m.addDir p).read q = m.read q ∨
      (m.locate q).components <+: (m.locate p).components ∧
        m.read q = .error (.missing (m.locate q)) ∧
        (m.addDir p).read q = .error (.failed .readFile (m.locate q) none) := by
  have place : (m.addDir p).locate q = m.locate q := rfl
  rcases entry?_addDir free q with same | ⟨other, above, now⟩
  · exact .inl (by rw [read, read, same, place])
  · rw [read, read, now, place]
    cases before : m.entry? q with
    | none => exact .inr ⟨above, rfl, rfl⟩
    | some e =>
        have directory := not_isFile_of_entry? other before
        cases e with
        | file | unreadableFile => cases directory
        | directory | unreadableDirectory => exact .inl rfl

/-- The same files lie below a directory. -/
theorem filesUnder_addDir (dir : Path) :
    (((m.addDir p).itemsUnder dir).filter fun item => item.entry.isFile).Perm
      ((m.itemsUnder dir).filter fun item => item.entry.isFile) := by
  have sorted (m : MemoryFiles) :
      ((m.itemsUnder dir).filter fun item => item.entry.isFile).Perm
        (((m.items.toList.filter fun item => dir.components.isPrefixOf item.1).map (·.2)).filter
          fun item => item.entry.isFile) :=
    (List.mergeSort_perm _ _).filter _
  refine (sorted _).trans (List.Perm.trans ?_ (sorted m).symm)
  simp only [List.filter_map, List.filter_filter]
  refine List.Perm.map _ ((Std.HashMap.toList_insert_perm.filter _).trans ?_)
  rw [List.filter_cons_of_neg (by simp [MemoryEntry.isFile]), List.filter_filter]
  refine List.Perm.of_eq (List.filter_congr fun entry member => ?_)
  -- what stood at the components of the directory was no file
  by_cases same : (m.locate p).components = entry.1
  · have found := Std.HashMap.mem_toList_iff_getElem?_eq_some.mp member
    rw [isFile, same, found] at free
    have other : entry.2.entry.isFile = false := by simpa using free
    simp [other]
  · simp [same]

theorem listFiles_addDir {dir : Path} {listed : List Path} (list : m.listFiles dir = .ok listed) :
    ∃ now, (m.addDir p).listFiles dir = .ok now ∧ now.Perm listed := by
  obtain ⟨directory, readable, rfl⟩ := listFiles_eq_ok.mp list
  refine ⟨_, listFiles_eq_ok.mpr ⟨isDir_addDir free directory, fun item member => ?_, rfl⟩,
    (filesUnder_addDir free _).map _⟩
  obtain ⟨parts, found, under⟩ := mem_itemsUnder.mp member
  rw [addDir, items_insert] at found
  split at found
  · cases found
    simp
  · exact readable item (mem_itemsUnder.mpr ⟨parts, found, under⟩)

end AddDir

/-! ## Memory with more directories -/

/-- Whether `now` answers what plans ask as `m` does, save that paths that named nothing may be directories now, at
    or above `dir`. -/
structure Furnishes (dir : Path) (m now : MemoryFiles) : Prop where
  root : now.root = m.root
  isFile : ∀ q, now.isFile q = m.isFile q
  isDir : ∀ q, m.isDir q → now.isDir q
  read : ∀ q, now.read q = m.read q ∨
    (m.locate q).components <+: (m.locate dir).components ∧ m.read q = .error (.missing (m.locate q)) ∧
      now.read q = .error (.failed .readFile (m.locate q) none)
  listFiles : ∀ q listed, m.listFiles q = .ok listed →
    ∃ again, now.listFiles q = .ok again ∧ again.Perm listed

theorem Furnishes.refl (dir : Path) (m : MemoryFiles) : Furnishes dir m m where
  root := rfl
  isFile _ := rfl
  isDir _ directory := directory
  read _ := .inl rfl
  listFiles _ listed list := ⟨listed, list, List.Perm.refl _⟩

theorem furnishes_addDir (free : m.isFile p = false) : Furnishes p m (m.addDir p) where
  root := rfl
  isFile := isFile_addDir free
  isDir _ := isDir_addDir free
  read := read_addDir free
  listFiles _ _ := listFiles_addDir free

variable {dir : Path} {now : MemoryFiles}

theorem Furnishes.locate (furnishes : Furnishes dir m now) (q : Path) : now.locate q = m.locate q := by
  rw [MemoryFiles.locate, MemoryFiles.locate, furnishes.root]

theorem Furnishes.trans {later : MemoryFiles} (first : Furnishes dir m now)
    (second : Furnishes dir now later) : Furnishes dir m later where
  root := second.root.trans first.root
  isFile q := (second.isFile q).trans (first.isFile q)
  isDir q directory := second.isDir q (first.isDir q directory)
  read q := by
    have again := second.read q
    rw [first.locate, first.locate] at again
    rcases first.read q, again with ⟨same | ⟨above, before, met⟩, same' | ⟨above', before', met'⟩⟩
    · exact .inl (same'.trans same)
    · exact .inr ⟨above', same ▸ before', met'⟩
    · exact .inr ⟨above, before, same'.trans met⟩
    · -- what is a directory by now is not missing
      rw [met] at before'
      cases before'
  listFiles q listed list := by
    obtain ⟨again, relisted, perm⟩ := first.listFiles q listed list
    obtain ⟨last, lastly, perm'⟩ := second.listFiles q again relisted
    exact ⟨last, lastly, perm'.trans perm⟩

/-- Discovery finds the same files. -/
theorem Furnishes.discover (furnishes : Furnishes dir m now) {root : Path} {files : List Path}
    (found : ProtoTree.discover m root = .ok files) : ProtoTree.discover now root = .ok files := by
  obtain ⟨listed, list, rfl⟩ := discover_eq_ok.mp found
  obtain ⟨again, relisted, perm⟩ := furnishes.listFiles root listed list
  refine discover_eq_ok.mpr ⟨again, relisted, Path.sort_eq_of_perm ?_ ((perm.filter _).map _)⟩
  intro q member
  obtain ⟨p, -, rfl⟩ := List.mem_map.mp member
  exact Path.normal_normalize p

/-! ## Paths that name nothing -/

section OfFiles

variable {root : Path} {files : List (Path × Text.Bytes)}

theorem parts_of_items_ofFiles {parts : List Component} {item : MemoryItem}
    (kept : (ofFiles root files).items[parts]? = some item) :
    ∃ q ∈ root :: files.map (·.1), ((empty root).locate q).components = parts := by
  induction files using List.reverseRecOn with
  | nil =>
      rw [ofFiles, List.foldl_nil, empty, items_insert] at kept
      split at kept
      · next here => exact ⟨root, List.mem_cons_self, here⟩
      · simp at kept
  | append_singleton files file ih =>
      rw [ofFiles_concat, addFile, items_insert, locate_ofFiles] at kept
      split at kept
      · next here => exact ⟨file.1, by simp, here⟩
      · obtain ⟨q, member, here⟩ := ih kept
        refine ⟨q, ?_, here⟩
        rw [List.map_append, ← List.cons_append]
        exact List.mem_append_left _ member

/-- Nothing is found at a path that leads to neither the root nor a given file. -/
theorem read_ofFiles_of_absent
    (absent : ∀ q ∈ root :: files.map (·.1), ¬ ((empty root).locate p).components <+:
      ((empty root).locate q).components) :
    (ofFiles root files).read p = .error (.missing ((empty root).locate p)) := by
  have unkept : (ofFiles root files).items[((empty root).locate p).components]? = none := by
    rw [Option.eq_none_iff_forall_ne_some]
    intro item kept
    obtain ⟨q, given, here⟩ := parts_of_items_ofFiles kept
    exact absent q given (here ▸ List.prefix_refl _)
  have empty_ : (ofFiles root files).hasBelow ((empty root).locate p).components = false := by
    rw [Bool.eq_false_iff, Ne, hasBelow_iff]
    rintro ⟨parts, item, kept, above⟩
    obtain ⟨q, given, rfl⟩ := parts_of_items_ofFiles kept
    exact absent q given (isPrefix_of_isAbove above)
  simp [read, entry?, find, locate_ofFiles, unkept, empty_]

end OfFiles

end ProtoTree.MemoryFiles
