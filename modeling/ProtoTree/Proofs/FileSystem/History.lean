import ProtoTree.Proofs.FileSystem.Directories

/-! # Histories of memory file systems

A memory file system is what some calls have made of an empty one. What stands
at a path is told by the calls that led there, in their order: an added entry
replaces what was there, and a directory is made only where no file is. So calls
at different paths may change places.
-/

namespace ProtoTree

/-- A call that adds to a memory file system. -/
inductive MemoryCall where
  /-- Adds an entry of any kind. -/
  | add (p : Path) (entry : MemoryEntry)
  /-- Makes a directory and the directories above it. -/
  | createDir (p : Path)
  deriving DecidableEq, Repr

namespace MemoryCall

def path : MemoryCall → Path
  | add p _ => p
  | createDir p => p

/-- Whether the path of a call leads to a place. -/
def leadsTo (root : Path) (parts : List Component) (call : MemoryCall) : Bool :=
  decide (((MemoryFiles.empty root).locate call.path).components = parts)

/-- What a call leaves at its place, told by what was there. -/
def settle (before : Option MemoryEntry) : MemoryCall → Option MemoryEntry
  | add _ entry => some entry
  | createDir _ => if before.any MemoryEntry.isFile then before else some .directory

end MemoryCall

namespace MemoryFiles

/-- The entry that is recorded at a place, not counting what lies below it. -/
def entryAt (m : MemoryFiles) (parts : List Component) : Option MemoryEntry := (m.items[parts]?).map (·.entry)

/-- A file system after one more call. A call that is refused leaves it as it is. -/
def apply (m : MemoryFiles) : MemoryCall → MemoryFiles
  | .add p entry => m.insert p entry
  | .createDir p => (FileSystem.createDirAll m p).2

/-- The file system that some calls make of one that holds only its root directory. -/
def run (root : Path) (calls : List MemoryCall) : MemoryFiles := calls.foldl apply (empty root)

/-- What the calls that led to a place have left there. -/
def recorded (root : Path) (calls : List MemoryCall) (parts : List Component) : Option MemoryEntry :=
  (calls.filter (·.leadsTo root parts)).foldl MemoryCall.settle ((empty root).entryAt parts)

variable {m m' : MemoryFiles} {root : Path}

/-! ## One call -/

theorem entryAt_insert (p : Path) (entry : MemoryEntry) (parts : List Component) :
    (m.insert p entry).entryAt parts =
      if (m.locate p).components = parts then some entry else m.entryAt parts := by
  rw [entryAt, items_insert]
  split <;> rfl

theorem entryAt_empty (root : Path) (parts : List Component) :
    (empty root).entryAt parts =
      if ((empty root).locate root).components = parts then some .directory else none := by
  rw [empty, entryAt_insert]
  split
  · next here => exact (if_pos here).symm
  · next elsewhere =>
      rw [entryAt, Std.HashMap.getElem?_empty, Option.map_none]
      exact (if_neg elsewhere).symm

theorem isFile_eq_entryAt (p : Path) :
    m.isFile p = (m.entryAt (m.locate p).components).any MemoryEntry.isFile := by
  rw [isFile, entryAt, Option.any_map]

theorem root_apply (call : MemoryCall) : (m.apply call).root = m.root := by
  cases call with
  | add p entry => rfl
  | createDir p =>
      change (m.createDirAll p).2.root = m.root
      rw [createDirAll]
      split <;> rfl

theorem entryAt_apply (call : MemoryCall) (parts : List Component) :
    (m.apply call).entryAt parts =
      if (m.locate call.path).components = parts then call.settle (m.entryAt parts) else m.entryAt parts := by
  cases call with
  | add p entry => exact entryAt_insert p entry parts
  | createDir p =>
      change (m.createDirAll p).2.entryAt parts =
        if (m.locate p).components = parts then (MemoryCall.createDir p).settle (m.entryAt parts) else m.entryAt parts
      have place := isFile_eq_entryAt (m := m) p
      rw [createDirAll]
      cases file : m.isFile p with
      | true =>
          rw [if_pos rfl]
          split
          · next here => rw [MemoryCall.settle, ← here, ← place, if_pos file]
          · rfl
      | false =>
          rw [if_neg Bool.false_ne_true, addDir, entryAt_insert]
          split
          · next here => rw [MemoryCall.settle, ← here, ← place, file, if_neg Bool.false_ne_true]
          · rfl

theorem Filed.apply (filed : m.Filed) (call : MemoryCall) : (m.apply call).Filed := by
  cases call with
  | add p entry => exact filed.insert p entry
  | createDir p =>
      change (m.createDirAll p).2.Filed
      rw [createDirAll]
      split
      · exact filed
      · exact filed.insert p .directory

/-! ## Whole histories -/

theorem run_concat (root : Path) (calls : List MemoryCall) (call : MemoryCall) :
    run root (calls ++ [call]) = (run root calls).apply call := by
  rw [run, List.foldl_concat, ← run]

theorem root_run (root : Path) (calls : List MemoryCall) : (run root calls).root = root := by
  induction calls using List.reverseRecOn with
  | nil => rfl
  | append_singleton calls call ih => rw [run_concat, root_apply, ih]

theorem locate_run (root : Path) (calls : List MemoryCall) (p : Path) :
    (run root calls).locate p = (empty root).locate p := by
  rw [locate, root_run]
  rfl

theorem filed_run (root : Path) (calls : List MemoryCall) : (run root calls).Filed := by
  induction calls using List.reverseRecOn with
  | nil => exact filed_empty root
  | append_singleton calls call ih =>
      rw [run_concat]
      exact ih.apply call

theorem recorded_concat (root : Path) (calls : List MemoryCall) (call : MemoryCall) (parts : List Component) :
    recorded root (calls ++ [call]) parts =
      if ((empty root).locate call.path).components = parts then call.settle (recorded root calls parts)
      else recorded root calls parts := by
  rw [recorded, List.filter_append, List.foldl_append, ← recorded, List.filter_singleton, MemoryCall.leadsTo]
  by_cases here : ((empty root).locate call.path).components = parts
  · rw [decide_eq_true here, if_pos here]
    rfl
  · rw [decide_eq_false here, if_neg here]
    rfl

/-- What is recorded at a place is what the calls that led there have left. -/
theorem entryAt_run (root : Path) (calls : List MemoryCall) (parts : List Component) :
    (run root calls).entryAt parts = recorded root calls parts := by
  induction calls using List.reverseRecOn with
  | nil => rfl
  | append_singleton calls call ih => rw [run_concat, entryAt_apply, locate_run, ih, recorded_concat]

theorem isFile_run (root : Path) (calls : List MemoryCall) (p : Path) :
    (run root calls).isFile p =
      (recorded root calls ((empty root).locate p).components).any MemoryEntry.isFile := by
  rw [isFile_eq_entryAt, entryAt_run, locate_run]

/-- What is no plain directory was added as what it is. -/
theorem exists_add_of_recorded {calls : List MemoryCall} {parts : List Component} {entry : MemoryEntry}
    (found : recorded root calls parts = some entry) (other : entry ≠ .directory) :
    ∃ p, .add p entry ∈ calls ∧ ((empty root).locate p).components = parts := by
  induction calls using List.reverseRecOn with
  | nil =>
      have holdsRoot : (empty root).entryAt parts = some entry := found
      rw [entryAt_empty, Option.ite_none_right_eq_some] at holdsRoot
      exact absurd (Option.some.inj holdsRoot.2).symm other
  | append_singleton calls call ih =>
      have earlier (found : recorded root calls parts = some entry) :
          ∃ p, .add p entry ∈ calls ++ [call] ∧ ((empty root).locate p).components = parts := by
        obtain ⟨p, member, here⟩ := ih found
        exact ⟨p, List.mem_append_left _ member, here⟩
      rw [recorded_concat] at found
      split at found
      · next here =>
          cases call with
          | add p added =>
              cases found
              exact ⟨p, by simp, here⟩
          | createDir p =>
              rw [MemoryCall.settle] at found
              split at found
              · exact earlier found
              · exact absurd (Option.some.inj found).symm other
      · exact earlier found

/-! ## File systems with the same entries -/

/-- Whether two file systems have the same entries, in whichever spelling. -/
structure Agree (m m' : MemoryFiles) : Prop where
  root : m.root = m'.root
  entryAt : ∀ parts, m.entryAt parts = m'.entryAt parts

theorem agree_run {calls calls' : List MemoryCall}
    (same : ∀ parts, calls.filter (·.leadsTo root parts) = calls'.filter (·.leadsTo root parts)) :
    Agree (run root calls) (run root calls') where
  root := by rw [root_run, root_run]
  entryAt parts := by rw [entryAt_run, entryAt_run, recorded, recorded, same]

namespace Agree

theorem locate (agree : Agree m m') (p : Path) : m.locate p = m'.locate p := by
  rw [MemoryFiles.locate, MemoryFiles.locate, agree.root]

theorem isFile (agree : Agree m m') (p : Path) : m.isFile p = m'.isFile p := by
  rw [isFile_eq_entryAt, isFile_eq_entryAt, agree.locate, agree.entryAt]

theorem hasBelow (agree : Agree m m') (parts : List Component) : m.hasBelow parts = m'.hasBelow parts := by
  have kept (m : MemoryFiles) (below : List Component) :
      (∃ item, m.items[below]? = some item) ↔ (m.entryAt below).isSome := by
    rw [MemoryFiles.entryAt, Option.isSome_map, Option.isSome_iff_exists]
  rw [Bool.eq_iff_iff, hasBelow_iff, hasBelow_iff]
  simp only [exists_and_right, kept, agree.entryAt]

theorem entry? (agree : Agree m m') (p : Path) : m.entry? p = m'.entry? p := by
  have found (m : MemoryFiles) (parts : List Component) :
      m.find parts = (m.entryAt parts).or (if m.hasBelow parts then some .directory else none) := by
    rw [find, MemoryFiles.entryAt]
    cases m.items[parts]? <;> rfl
  unfold MemoryFiles.entry?
  rw [found, found, agree.locate, agree.entryAt, agree.hasBelow]

theorem isDir (agree : Agree m m') (p : Path) : m.isDir p = m'.isDir p := by
  rw [MemoryFiles.isDir, MemoryFiles.isDir, agree.entry?]

end Agree

end MemoryFiles

end ProtoTree
