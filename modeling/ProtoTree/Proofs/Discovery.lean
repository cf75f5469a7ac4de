import ProtoTree.Proofs.Path.Order
import ProtoTree.Proofs.Path.Relative
import ProtoTree.Proofs.Text.Case
import ProtoTree.Source.Discovery

/-! # Discovered files

Discovery keeps the listed proto files, in normal form and in path order. When
a listing keeps below its directory, so do they; when it goes on through names
without repeating itself, each of them is found once.
-/

namespace ProtoTree

variable {σ : Type} [FileSystem σ] {fs : σ}

/-- Whether listings of absolute directories keep below them. -/
def ListsBelow (fs : σ) : Prop :=
  ∀ dir listed, dir.isAbsolute → FileSystem.listFiles fs dir = .ok listed → ∀ p ∈ listed, p.isUnder dir

/-- Whether the listing of a directory holds distinct paths, each going on from the directory through names. -/
def ListsNames (fs : σ) (dir : Path) : Prop :=
  ∀ listed, FileSystem.listFiles fs dir = .ok listed →
    (listed.map Path.components).Nodup ∧
      ∀ p ∈ listed, ∃ names, names ≠ [] ∧ (∀ c ∈ names, c.isName) ∧
        p.components = dir.components ++ names

/-- Whether the listing of a directory holds only paths that go on from the directory through names, if they go on
    at all. -/
def ListsThroughNames (fs : σ) (dir : Path) : Prop :=
  ∀ listed, FileSystem.listFiles fs dir = .ok listed → ∀ p ∈ listed,
    ∃ names, (∀ c ∈ names, c.isName) ∧ p.components = dir.components ++ names

theorem ListsNames.throughNames {dir : Path} (lists : ListsNames fs dir) : ListsThroughNames fs dir := by
  intro listed list p member
  obtain ⟨names, -, named, split⟩ := (lists listed list).2 p member
  exact ⟨names, named, split⟩

theorem Path.isProtoFile_congr {p q : Path} (same : p.components = q.components) :
    p.isProtoFile = q.isProtoFile := by
  rw [isProtoFile, isProtoFile, fileName?, fileName?, same]

theorem Path.ascii_of_mem_protoEnding {d : Char} (letter : d ∈ protoEnding) :
    d.toNat < 0x80 ∧ d.toUpper.toNat < 0x80 ∧ d ≠ 'i' ∧ d ≠ 'k' := by
  have each : protoEnding.all fun d => d.toNat < 0x80 ∧ d.toUpper.toNat < 0x80 ∧ d ≠ 'i' ∧ d ≠ 'k' := by decide
  exact of_decide_eq_true (List.all_eq_true.mp each d letter)

theorem Path.isProtoFile_iff {p : Path} :
    p.isProtoFile ↔ ∃ name, p.fileName? = some name ∧ protoEnding <:+ (Text.decodeLossy name).map Char.toLower := by
  rw [isProtoFile]
  cases p.fileName? with
  | none => simp
  | some name =>
    have letters : ∀ d ∈ protoEnding, d.toNat < 0x80 ∧ d ≠ 'i' ∧ d ≠ 'k' :=
      fun d letter => ⟨(ascii_of_mem_protoEnding letter).1, (ascii_of_mem_protoEnding letter).2.2⟩
    simp [Text.suffix_lowercase_iff letters]

theorem Path.isProtoFile_normalize {p : Path} (proto : p.isProtoFile) : p.normalize.isProtoFile := by
  obtain ⟨name, named, ending⟩ := isProtoFile_iff.mp proto
  exact isProtoFile_iff.mpr ⟨name, fileName?_normalize named, ending⟩

theorem discover_eq_ok {root : Path} {files : List Path} :
    discover fs root = .ok files ↔ ∃ listed, FileSystem.listFiles fs root = .ok listed ∧
      Path.sort ((listed.filter Path.isProtoFile).map Path.normalize) = files := by
  rw [discover]
  cases FileSystem.listFiles fs root with
  | ok listed => simp
  | error e => simp

theorem mem_discover {root : Path} {files : List Path} (found : discover fs root = .ok files)
    {p : Path} : p ∈ files ↔ ∃ listed, FileSystem.listFiles fs root = .ok listed ∧
      ∃ q ∈ listed, q.isProtoFile ∧ q.normalize = p := by
  obtain ⟨listed, list, rfl⟩ := discover_eq_ok.mp found
  rw [Path.sort, List.mem_mergeSort, List.mem_map]
  simp only [List.mem_filter, and_assoc, list, Except.ok.injEq, exists_eq_left']

theorem normal_of_mem_discover {root : Path} {files : List Path} (found : discover fs root = .ok files)
    {p : Path} (member : p ∈ files) : p.Normal := by
  obtain ⟨-, -, q, -, -, rfl⟩ := (mem_discover found).mp member
  exact Path.normal_normalize q

theorem isAbsolute_of_mem_discover (below : ListsBelow fs) {root : Path} (absolute : root.isAbsolute)
    {files : List Path} (found : discover fs root = .ok files) {p : Path} (member : p ∈ files) :
    p.isAbsolute := by
  obtain ⟨listed, list, q, inside, -, rfl⟩ := (mem_discover found).mp member
  rw [Path.isAbsolute_normalize]
  exact Path.isAbsolute_of_isUnder absolute (below root listed absolute list q inside)

/-- Normal form changes nothing about a path that goes on from a normal directory through names. -/
theorem components_normalize_of_named {root p : Path} (normal : root.Normal) {names : List Component}
    (named : ∀ c ∈ names, c.isName) (split : p.components = root.components ++ names) :
    p.normalize.components = p.components :=
  Path.components_normalize_of_isReduced (split ▸ Path.isReduced_append normal.1 named)

/-- Files are found below the directory when its listing goes on through names. -/
theorem isUnder_of_mem_discover {root : Path} (normal : root.Normal) (lists : ListsThroughNames fs root)
    {files : List Path} (found : discover fs root = .ok files) {p : Path} (member : p ∈ files) :
    p.isUnder root := by
  obtain ⟨listed, list, q, inside, -, rfl⟩ := (mem_discover found).mp member
  obtain ⟨names, named, split⟩ := lists listed list q inside
  rw [Path.isUnder_iff, components_normalize_of_named normal named split, split]
  exact List.prefix_append _ _

/-- Each file is found once, in path order. -/
theorem increasing_discover {root : Path} (normal : root.Normal) (lists : ListsNames fs root)
    {files : List Path} (found : discover fs root = .ok files) : Path.Increasing files := by
  obtain ⟨listed, list, rfl⟩ := discover_eq_ok.mp found
  obtain ⟨distinct, named⟩ := lists listed list
  apply Path.increasing_sort
  have kept : ∀ q ∈ listed.filter Path.isProtoFile,
      (Path.components ∘ Path.normalize) q = q.components := by
    intro q member
    obtain ⟨names, -, clean, split⟩ := named q (List.mem_of_mem_filter member)
    exact components_normalize_of_named normal clean split
  rw [List.map_map, List.map_congr_left kept]
  exact distinct.sublist (List.filter_sublist.map _)

end ProtoTree
