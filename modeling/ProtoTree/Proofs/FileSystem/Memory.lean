import Mathlib.Data.List.Induction
import ProtoTree.FileSystem.Memory

/-! # Files of a memory file system

An added entry is found under every spelling of its components, and no other
file changes. So a system that is filled from a list of files holds, at each
path, the last file that was added there.
-/

namespace ProtoTree.MemoryFiles

open Text (Bytes)

section Insert

variable (m : MemoryFiles) (p : Path) (entry : MemoryEntry)

@[simp] theorem locate_insert (q : Path) : (m.insert p entry).locate q = m.locate q := rfl

theorem items_insert (parts : List Component) :
    (m.insert p entry).items[parts]? =
      if (m.locate p).components = parts then some ⟨m.spelling (m.locate p), entry⟩
      else m.items[parts]? := by
  simp [insert, Std.HashMap.getElem?_insert]

theorem isFile_insert (q : Path) :
    (m.insert p entry).isFile q =
      if (m.locate p).components = (m.locate q).components then entry.isFile else m.isFile q := by
  rw [isFile, locate_insert, items_insert]
  split <;> rfl

theorem isFile_empty (root q : Path) : (empty root).isFile q = false := by
  rw [empty, isFile_insert]
  simp [MemoryEntry.isFile, isFile]

end Insert

variable {m : MemoryFiles}

theorem read_of_file {q path : Path} {content : Bytes}
    (found : m.items[(m.locate q).components]? = some ⟨path, .file content⟩) :
    m.read q = .ok content := by
  simp only [read, entry?, find, found]

/-! ## Systems of given files -/

/-- A file system with some files, added in order. -/
def ofFiles (root : Path) (files : List (Path × Bytes)) : MemoryFiles :=
  files.foldl (fun m file => m.addFile file.1 file.2) (empty root)

/-- A file with a text. -/
def textFile (path text : String) : Path × Bytes := (.ofString path, Text.encode text.toList)

/-- The content of the last of some files that was added at a path. -/
def lastAdded? (root : Path) (files : List (Path × Bytes)) (p : Path) : Option Bytes :=
  (files.reverse.find? fun file =>
    ((empty root).locate file.1).components == ((empty root).locate p).components).map (·.2)

theorem ofFiles_concat (root : Path) (files : List (Path × Bytes)) (file : Path × Bytes) :
    ofFiles root (files ++ [file]) = (ofFiles root files).addFile file.1 file.2 := by
  simp [ofFiles]

theorem locate_ofFiles (root : Path) (files : List (Path × Bytes)) (p : Path) :
    (ofFiles root files).locate p = (empty root).locate p := by
  induction files using List.reverseRecOn with
  | nil => rfl
  | append_singleton files file ih => rw [ofFiles_concat, addFile, locate_insert, ih]

theorem lastAdded?_concat (root : Path) (files : List (Path × Bytes)) (file : Path × Bytes)
    (p : Path) :
    lastAdded? root (files ++ [file]) p =
      if ((empty root).locate file.1).components = ((empty root).locate p).components
      then some file.2 else lastAdded? root files p := by
  rw [lastAdded?, List.reverse_append, List.reverse_singleton, List.singleton_append,
    List.find?_cons]
  split
  · next same => rw [if_pos (by simpa using same)]; rfl
  · next other => rw [if_neg (by simpa using other)]; rfl

theorem isFile_ofFiles (root : Path) (files : List (Path × Bytes)) (p : Path) :
    (ofFiles root files).isFile p = (lastAdded? root files p).isSome := by
  induction files using List.reverseRecOn with
  | nil => exact isFile_empty root p
  | append_singleton files file ih =>
      rw [ofFiles_concat, addFile, isFile_insert, locate_ofFiles, locate_ofFiles,
        lastAdded?_concat, ih]
      split <;> rfl

theorem isFile_eq (root : Path) (files : List (Path × Bytes)) :
    FileSystem.isFile (ofFiles root files) = fun p => (lastAdded? root files p).isSome :=
  funext (isFile_ofFiles root files)

theorem items_ofFiles {root : Path} {files : List (Path × Bytes)} {p : Path} {content : Bytes}
    (added : lastAdded? root files p = some content) :
    ∃ path, (ofFiles root files).items[((empty root).locate p).components]? =
      some ⟨path, .file content⟩ := by
  induction files using List.reverseRecOn with
  | nil => simp [lastAdded?] at added
  | append_singleton files file ih =>
      rw [lastAdded?_concat] at added
      rw [ofFiles_concat, addFile, items_insert, locate_ofFiles]
      split
      · next same =>
          rw [if_pos same] at added
          exact ⟨_, by rw [Option.some.inj added]⟩
      · next other =>
          rw [if_neg other] at added
          exact ih added

theorem read_ofFiles {root : Path} {files : List (Path × Bytes)} {p : Path} {content : Bytes}
    (added : lastAdded? root files p = some content) : (ofFiles root files).read p = .ok content := by
  obtain ⟨path, found⟩ := items_ofFiles added
  rw [← locate_ofFiles root files p] at found
  exact read_of_file found

end ProtoTree.MemoryFiles
