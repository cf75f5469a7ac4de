import ProtoTree.Proofs.Discovery
import ProtoTree.Proofs.FileSystem.Memory

/-! # Listings of memory file systems

Every item is found under the components of its own path, so a listing holds
each file below its directory once, and discovery finds just the proto files
there. Below a directory of given files it finds those that were given.
-/

namespace ProtoTree.MemoryFiles

open Text (Bytes)

/-! ## Items and their paths -/

/-- Whether every item is found under the components of its own path. -/
def Filed (m : MemoryFiles) : Prop :=
  ∀ (parts : List Component) (item : MemoryItem), m.items[parts]? = some item → item.path.components = parts

variable {m : MemoryFiles}

theorem locate_of_absolute {p : Path} (absolute : p.isAbsolute) : m.locate p = p := by
  rw [locate, if_pos absolute]

theorem components_spelling (filed : m.Filed) (p : Path) :
    (m.spelling p).components = p.components := by
  rw [spelling]
  split
  · next item found => exact filed _ item found
  · split
    · exact Path.components_ofComponents_components p
    · rfl

theorem Filed.insert (filed : m.Filed) (p : Path) (entry : MemoryEntry) : (m.insert p entry).Filed := by
  intro parts item found
  rw [items_insert] at found
  split at found
  · next same =>
      cases found
      rw [components_spelling filed, same]
  · exact filed parts item found

theorem filed_empty (root : Path) : (empty root).Filed :=
  Filed.insert (fun _ _ found => by simp at found) root .directory

theorem filed_ofFiles (root : Path) (files : List (Path × Bytes)) : (ofFiles root files).Filed := by
  induction files using List.reverseRecOn with
  | nil => exact filed_empty root
  | append_singleton files file ih =>
      rw [ofFiles_concat]
      exact ih.insert file.1 (.file file.2)

/-! ## Files and directories -/

theorem isFile_iff_of_absolute {p : Path} (absolute : p.isAbsolute) :
    m.isFile p ↔ ∃ item, m.items[p.components]? = some item ∧ item.entry.isFile := by
  rw [isFile, locate_of_absolute absolute, Option.any_eq_true]

theorem isFile_of_isDir {dir : Path} (directory : m.isDir dir) : m.isFile dir = false := by
  rw [isDir, entry?, find] at directory
  rw [isFile]
  cases here : m.items[(m.locate dir).components]? with
  | some item => simpa [here, MemoryEntry.isDirectory] using directory
  | none => rfl

/-- What lies above a file and is no file is a directory. -/
theorem isDir_of_isAbove {dir file : Path} (other : m.isFile dir = false) (present : m.isFile file)
    (above : isAbove (m.locate dir).components (m.locate file).components) : m.isDir dir := by
  rw [isDir, entry?, find]
  rw [isFile] at other
  cases here : m.items[(m.locate dir).components]? with
  | some item =>
      rw [here] at other
      simpa [MemoryEntry.isDirectory] using other
  | none =>
      rw [isFile, Option.any_eq_true] at present
      obtain ⟨item, kept, -⟩ := present
      have below : m.hasBelow (m.locate dir).components :=
        List.any_eq_true.mpr ⟨_, Std.HashMap.mem_toList_iff_getElem?_eq_some.mpr kept, above⟩
      rw [if_pos below]
      rfl

/-! ## Listing -/

theorem mem_itemsUnder {dir : Path} {item : MemoryItem} :
    item ∈ m.itemsUnder dir ↔ ∃ parts, m.items[parts]? = some item ∧ dir.components <+: parts := by
  simp only [itemsUnder, List.mem_mergeSort, List.mem_map, List.mem_filter, Prod.exists,
    Std.HashMap.mem_toList_iff_getElem?_eq_some, List.isPrefixOf_iff_prefix]
  constructor
  · rintro ⟨parts, _, ⟨found, under⟩, rfl⟩
    exact ⟨parts, found, under⟩
  · rintro ⟨parts, found, under⟩
    exact ⟨parts, item, ⟨found, under⟩, rfl⟩

theorem nodup_itemsUnder (filed : m.Filed) (dir : Path) :
    ((m.itemsUnder dir).map fun item => item.path.components).Nodup := by
  have keyed : ∀ entry ∈ m.items.toList.filter fun entry => dir.components.isPrefixOf entry.1,
      ((fun item : MemoryItem => item.path.components) ∘ Prod.snd) entry = entry.1 := by
    intro entry member
    have found := Std.HashMap.mem_toList_iff_getElem?_eq_some.mp (List.mem_of_mem_filter member)
    exact filed entry.1 entry.2 found
  have keys : (m.items.toList.map Prod.fst).Nodup := by
    rw [Std.HashMap.map_fst_toList_eq_keys]
    exact Std.HashMap.nodup_keys
  rw [itemsUnder, ((List.mergeSort_perm _ _).map _).nodup_iff, List.map_map,
    List.map_congr_left keyed]
  exact keys.sublist (List.filter_sublist.map _)

theorem listFiles_eq_ok {dir : Path} {listed : List Path} :
    m.listFiles dir = .ok listed ↔ m.isDir (m.locate dir) ∧
      (∀ item ∈ m.itemsUnder (m.locate dir), item.entry ≠ .unreadableDirectory) ∧
      ((m.itemsUnder (m.locate dir)).filter fun item => item.entry.isFile).map (·.path) = listed := by
  simp only [listFiles]
  cases m.isDir (m.locate dir) with
  | false => simp
  | true =>
      cases blocked : (m.itemsUnder (m.locate dir)).find? fun item =>
          decide (item.entry = .unreadableDirectory) with
      | some item =>
          have refused : item.entry = .unreadableDirectory := by simpa using List.find?_some blocked
          refine iff_of_false (by simp) fun ⟨_, readable, _⟩ => ?_
          exact readable item (List.mem_of_find?_eq_some blocked) refused
      | none =>
          have readable : ∀ item ∈ m.itemsUnder (m.locate dir), item.entry ≠ .unreadableDirectory := by
            simpa using blocked
          simpa using fun _ => readable

theorem nodup_listed (filed : m.Filed) {dir : Path} {listed : List Path}
    (list : m.listFiles dir = .ok listed) : (listed.map Path.components).Nodup := by
  obtain ⟨-, -, rfl⟩ := listFiles_eq_ok.mp list
  rw [List.map_map]
  exact (nodup_itemsUnder filed (m.locate dir)).sublist (List.filter_sublist.map _)

section Absolute

variable (filed : m.Filed) {dir : Path} (absolute : dir.isAbsolute)
include filed absolute

/-- A listing holds the files below its directory, as they are spelled in the system. -/
theorem mem_listed {listed : List Path} (list : m.listFiles dir = .ok listed) {p : Path} :
    p ∈ listed ↔ ∃ item, m.items[p.components]? = some item ∧ item.path = p ∧ item.entry.isFile ∧
      p.isUnder dir := by
  obtain ⟨-, -, rfl⟩ := listFiles_eq_ok.mp list
  simp only [List.mem_map, List.mem_filter, mem_itemsUnder, Path.isUnder_iff,
    locate_of_absolute absolute]
  constructor
  · rintro ⟨item, ⟨⟨parts, found, under⟩, file⟩, rfl⟩
    obtain rfl := filed parts item found
    exact ⟨item, found, rfl, file, under⟩
  · rintro ⟨item, found, rfl, file, under⟩
    exact ⟨item, ⟨⟨_, found, under⟩, file⟩, rfl⟩

theorem isFile_of_mem_listed {listed : List Path} (list : m.listFiles dir = .ok listed) {p : Path}
    (member : p ∈ listed) : m.isFile p ∧ p.isUnder dir := by
  obtain ⟨item, kept, -, file, under⟩ := (mem_listed filed absolute list).mp member
  exact ⟨(isFile_iff_of_absolute (Path.isAbsolute_of_isUnder absolute under)).mpr ⟨item, kept, file⟩, under⟩

theorem listsNames_of_filed
    (named : ∀ p, m.isFile p → p.isUnder dir → ∀ c ∈ p.components.drop dir.components.length, c.isName) :
    ListsNames m dir := by
  intro listed list
  refine ⟨nodup_listed filed list, fun p member => ?_⟩
  obtain ⟨file, under⟩ := isFile_of_mem_listed filed absolute list member
  obtain ⟨names, split⟩ := Path.isUnder_iff.mp under
  refine ⟨names, ?_, ?_, split.symm⟩
  · rintro rfl
    have directory := isFile_of_isDir (listFiles_eq_ok.mp list).1
    rw [locate_of_absolute absolute] at directory
    rw [isFile_iff_of_absolute (Path.isAbsolute_of_isUnder absolute under), ← split, List.append_nil,
      ← isFile_iff_of_absolute absolute, directory] at file
    cases file
  · have rest := named p file under
    rwa [← split, List.drop_left] at rest

/-- Discovery finds the proto files of the system below the directory. -/
theorem mem_discovered {files : List Path} (found : discover m dir = .ok files) {p : Path} :
    p ∈ files ↔ ∃ q, m.isFile q ∧ q.isUnder dir ∧ q.isProtoFile ∧ q.normalize = p := by
  rw [mem_discover found]
  constructor
  · rintro ⟨listed, list, q, member, proto, rfl⟩
    obtain ⟨file, under⟩ := isFile_of_mem_listed filed absolute list member
    exact ⟨q, file, under, proto, rfl⟩
  · rintro ⟨q, file, under, proto, rfl⟩
    obtain ⟨listed, list, -⟩ := discover_eq_ok.mp found
    obtain ⟨item, kept, file⟩ :=
      (isFile_iff_of_absolute (Path.isAbsolute_of_isUnder absolute under)).mp file
    -- the listing has the file as it is spelled in the system
    have same := filed _ item kept
    refine ⟨listed, list, item.path, (mem_listed filed absolute list).mpr ⟨item, ?_, rfl, file, ?_⟩,
      ?_, Path.normalize_congr same⟩
    · rw [same, kept]
    · rwa [Path.isUnder, same]
    · rwa [Path.isProtoFile_congr same]

end Absolute

theorem listsBelow_of_filed (filed : m.Filed) : ListsBelow m :=
  fun _ _ absolute list _ member => (isFile_of_mem_listed filed absolute list member).2

/-! ## Systems of given files -/

section OfFiles

variable {root dir : Path} {files : List (Path × Bytes)}

@[simp] theorem currentDir_ofFiles : FileSystem.currentDir (ofFiles root files) = .ok root := by
  induction files using List.reverseRecOn with
  | nil => rfl
  | append_singleton files file ih =>
      rw [ofFiles_concat]
      exact ih

theorem readable_ofFiles {parts : List Component} {item : MemoryItem}
    (kept : (ofFiles root files).items[parts]? = some item) : item.entry ≠ .unreadableDirectory := by
  induction files using List.reverseRecOn with
  | nil =>
      rw [ofFiles, List.foldl_nil, empty, items_insert] at kept
      split at kept
      · cases kept
        simp
      · simp at kept
  | append_singleton files file ih =>
      rw [ofFiles_concat, addFile, items_insert] at kept
      split at kept
      · cases kept
        simp
      · exact ih kept

theorem isFile_ofFiles_iff {p : Path} :
    (ofFiles root files).isFile p ↔ ∃ file ∈ files,
      ((empty root).locate file.1).components = ((empty root).locate p).components := by
  rw [isFile_ofFiles, lastAdded?, Option.isSome_map, List.find?_isSome]
  simp

/-- What lies above a given file and is none itself is a directory. -/
theorem isDir_ofFiles (other : lastAdded? root files dir = none)
    (above : ∃ file ∈ files,
      isAbove ((empty root).locate dir).components ((empty root).locate file.1).components) :
    (ofFiles root files).isDir dir := by
  obtain ⟨file, given, above⟩ := above
  have present : (ofFiles root files).isFile file.1 := isFile_ofFiles_iff.mpr ⟨file, given, rfl⟩
  refine isDir_of_isAbove (by rw [isFile_ofFiles, other]; rfl) present ?_
  rwa [locate_ofFiles, locate_ofFiles]

theorem listsNames_ofFiles (absolute : dir.isAbsolute)
    (named : ∀ file ∈ files,
      ∀ c ∈ ((empty root).locate file.1).components.drop dir.components.length, c.isName) :
    ListsNames (ofFiles root files) dir := by
  refine listsNames_of_filed (filed_ofFiles root files) absolute fun p file under => ?_
  obtain ⟨origin, given, same⟩ := isFile_ofFiles_iff.mp file
  rw [locate_of_absolute (Path.isAbsolute_of_isUnder absolute under)] at same
  exact same ▸ named origin given

/-- The given proto files below a directory, in the order in which they were given. -/
def protosBelow (root : Path) (files : List (Path × Bytes)) (dir : Path) : List Path :=
  (files.map fun file => (empty root).locate file.1).filter fun p => p.isUnder dir && p.isProtoFile

/-- Which files lie below a directory is told by their components. -/
theorem exists_protosBelow (absolute : dir.isAbsolute) {p : Path} :
    (∃ q ∈ protosBelow root files dir, q.components = p.components) ↔
      (ofFiles root files).isFile p ∧ p.isUnder dir ∧ p.isProtoFile := by
  simp only [protosBelow, List.mem_filter, List.mem_map, Bool.and_eq_true, isFile_ofFiles_iff]
  constructor
  · rintro ⟨q, ⟨⟨file, given, rfl⟩, under, proto⟩, same⟩
    rw [Path.isProtoFile_congr same] at proto
    rw [Path.isUnder, same] at under
    have settled := @locate_of_absolute (empty root) _ (Path.isAbsolute_of_isUnder absolute under)
    exact ⟨⟨file, given, by rw [settled, same]⟩, under, proto⟩
  · rintro ⟨⟨file, given, same⟩, under, proto⟩
    rw [locate_of_absolute (Path.isAbsolute_of_isUnder absolute under)] at same
    refine ⟨_, ⟨⟨file, given, rfl⟩, ?_, ?_⟩, same⟩
    · rwa [Path.isUnder, same]
    · rwa [Path.isProtoFile_congr same]

theorem listFiles_ofFiles (directory : (ofFiles root files).isDir dir) (absolute : dir.isAbsolute) :
    ∃ listed, FileSystem.listFiles (ofFiles root files) dir = .ok listed := by
  refine ⟨_, listFiles_eq_ok.mpr ⟨(locate_of_absolute absolute).symm ▸ directory, ?_, rfl⟩⟩
  intro item member
  obtain ⟨parts, kept, -⟩ := mem_itemsUnder.mp member
  exact readable_ofFiles kept

/-- The listed proto files are the given ones when these have different components. -/
theorem perm_protosBelow (absolute : dir.isAbsolute)
    (distinct : ((protosBelow root files dir).map Path.components).Nodup) {listed : List Path}
    (list : (ofFiles root files).listFiles dir = .ok listed) :
    ((listed.filter Path.isProtoFile).map Path.components).Perm
      ((protosBelow root files dir).map Path.components) := by
  have filed := filed_ofFiles root files
  have places : ((listed.filter Path.isProtoFile).map Path.components).Nodup :=
    (nodup_listed filed list).sublist (List.filter_sublist.map _)
  refine (List.perm_ext_iff_of_nodup places distinct).mpr fun parts => ?_
  simp only [List.mem_map, List.mem_filter]
  constructor
  · rintro ⟨p, ⟨member, proto⟩, rfl⟩
    obtain ⟨file, under⟩ := isFile_of_mem_listed filed absolute list member
    exact (exists_protosBelow absolute).mpr ⟨file, under, proto⟩
  · rintro ⟨q, below, rfl⟩
    obtain ⟨file, under, proto⟩ := (exists_protosBelow absolute).mp ⟨q, below, rfl⟩
    obtain ⟨item, kept, file⟩ :=
      (isFile_iff_of_absolute (Path.isAbsolute_of_isUnder absolute under)).mp file
    have same := filed _ item kept
    refine ⟨item.path, ⟨(mem_listed filed absolute list).mpr ⟨item, ?_, rfl, file, ?_⟩, ?_⟩, same⟩
    · rw [same, kept]
    · rwa [Path.isUnder, same]
    · rwa [Path.isProtoFile_congr same]

/-- Given files that come in path order are discovered in this order, also when two of them are one file in normal
    form. -/
theorem discover_ofFiles (absolute : dir.isAbsolute) (directory : (ofFiles root files).isDir dir)
    (distinct : ((protosBelow root files dir).map Path.components).Nodup)
    (ordered : ((protosBelow root files dir).map Path.normalize).Pairwise fun p q => p.le q) :
    discover (ofFiles root files) dir = .ok ((protosBelow root files dir).map Path.normalize) := by
  obtain ⟨listed, list⟩ := listFiles_ofFiles directory absolute
  rw [discover_eq_ok.mpr ⟨listed, list, rfl⟩]
  have perm : ((listed.filter Path.isProtoFile).map Path.normalize).Perm
      ((protosBelow root files dir).map Path.normalize) := by
    have forms := (perm_protosBelow absolute distinct list).map fun parts => Path.ofComponents (Path.reduce parts)
    rwa [List.map_map, List.map_map] at forms
  have normal : ∀ p ∈ (protosBelow root files dir).map Path.normalize, p.Normal := by
    intro p member
    obtain ⟨q, -, rfl⟩ := List.mem_map.mp member
    exact Path.normal_normalize q
  rw [Path.sort_eq_of_perm normal perm, Path.sort, List.mergeSort_of_pairwise ordered]

end OfFiles

end ProtoTree.MemoryFiles
