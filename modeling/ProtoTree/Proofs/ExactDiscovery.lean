import ProtoTree.Proofs.FileSystem.History

/-! # What discovery finds in memory

Over a memory file system that some calls have filled, discovery fails when its
directory is none or when something at or below it cannot be listed. Otherwise it
finds each proto file below the directory once, in path order, and nothing else,
whichever way the calls at different paths follow each other.
-/

namespace ProtoTree

/-! ## The ending of proto files -/

namespace Path

/-- Whether the last part of a path is a name that ends in `.proto`, each letter in either case. -/
def EndsInProto (p : Path) : Prop :=
  ∃ front stem ending, p.components = front ++ [.name (stem ++ Text.encode ending)] ∧
    List.Forall₂ (fun c d => c = d ∨ c = d.toUpper) ending ".proto".toList

/-- A letter of the ending is made from itself and from its capital letter alone. -/
theorem toLower_eq_iff {c d : Char} (letter : d ∈ protoEnding) : c.toLower = d ↔ c = d ∨ c = d.toUpper := by
  by_cases beyond : 0x80 ≤ c.toNat
  case pos =>
    obtain ⟨small, capital, -⟩ := ascii_of_mem_protoEnding letter
    rw [Text.toLower_of_beyond beyond]
    refine (or_iff_left ?_).symm
    rintro rfl
    omega
  case neg =>
    have each : protoEnding.all fun d => (List.range 0x80).all fun n =>
        (Char.ofNat n).toLower = d ↔ Char.ofNat n = d ∨ Char.ofNat n = d.toUpper := by
      decide
    have ascii := List.all_eq_true.mp each d letter
    rw [← Char.ofNat_toNat c]
    exact of_decide_eq_true (List.all_eq_true.mp ascii c.toNat (List.mem_range.mpr (Nat.not_le.mp beyond)))

theorem map_toLower_eq_iff {letters ending : List Char} (known : ∀ d ∈ letters, d ∈ protoEnding) :
    ending.map Char.toLower = letters ↔ List.Forall₂ (fun c d => c = d ∨ c = d.toUpper) ending letters := by
  induction letters generalizing ending with
  | nil => rw [List.map_eq_nil_iff, List.forall₂_nil_right_iff]
  | cons d letters ih =>
    rw [List.forall_mem_cons] at known
    cases ending with
    | nil => simp
    | cons c ending =>
      rw [List.map_cons, List.cons.injEq, List.forall₂_cons, toLower_eq_iff known.1, ih known.2]

/-- Letters of the ending are ASCII in either case. -/
theorem ascii_of_lowered {ending : List Char} (lowered : ending.map Char.toLower = protoEnding) :
    ∀ c ∈ ending, c.toNat < 128 ∧ c ≠ '\x00' := by
  intro c member
  have capital : protoEnding.all fun d => d.toUpper ≠ '\x00' ∧ d ≠ '\x00' := by decide
  have known : c.toLower ∈ protoEnding := lowered ▸ List.mem_map_of_mem member
  obtain ⟨small, large, -⟩ := ascii_of_mem_protoEnding known
  obtain ⟨notUpper, notLower⟩ := of_decide_eq_true (List.all_eq_true.mp capital _ known)
  rcases (toLower_eq_iff known).mp rfl with same | same
  · rw [same]
    exact ⟨small, notLower⟩
  · rw [same]
    exact ⟨large, notUpper⟩

theorem isProtoFile_iff_endsInProto {p : Path} : p.isProtoFile ↔ p.EndsInProto := by
  rw [isProtoFile_iff, EndsInProto]
  simp only [fileName?_eq_some]
  constructor
  · rintro ⟨name, ⟨front, parts⟩, start, split⟩
    obtain ⟨before, ending, read, -, lowered⟩ := List.map_eq_append_iff.mp split.symm
    obtain ⟨stem, rfl⟩ := (Text.suffix_decodeLossy_iff (ascii_of_lowered lowered)).mp ⟨before, read.symm⟩
    exact ⟨front, stem, ending, parts, (map_toLower_eq_iff fun _ => id).mp lowered⟩
  · rintro ⟨front, stem, ending, parts, letters⟩
    have lowered : ending.map Char.toLower = protoEnding := (map_toLower_eq_iff fun _ => id).mpr letters
    obtain ⟨before, read⟩ := (Text.suffix_decodeLossy_iff (ascii_of_lowered lowered)).mpr
      (List.suffix_append stem (Text.encode ending))
    refine ⟨_, ⟨front, parts⟩, before.map Char.toLower, ?_⟩
    rw [← read, List.map_append, lowered]

/-- An absolute path without `..` parts goes through names. -/
theorem isName_of_mem_body {p : Path} (plain : .parent ∉ p.body) : ∀ c ∈ p.body, c.isName := by
  intro c member
  have spelled := spelled_of_mem_body member
  cases c with
  | name cs => rfl
  | parent => exact absurd member plain
  | root => exact absurd spelled Component.not_spelled_root
  | current => exact absurd spelled Component.not_spelled_current

end Path

namespace MemoryFiles

variable {m m' : MemoryFiles} {root dir : Path} {calls : List MemoryCall}

/-! ## When discovery fails -/

theorem unreadable_iff_entryAt {p : Path} :
    m.entry? p = some .unreadableDirectory ↔ m.entryAt (m.locate p).components = some .unreadableDirectory := by
  unfold entry? find entryAt
  cases m.items[(m.locate p).components]? with
  | some item => rfl
  | none => simp

/-- Discovery fails where there is no directory, or where a directory cannot be listed. -/
theorem exists_error_discover_iff (filed : m.Filed) (absolute : dir.isAbsolute) :
    (∃ e, discover m dir = .error e) ↔
      m.isDir dir = false ∨ ∃ p, p.isUnder dir ∧ m.entry? p = some .unreadableDirectory := by
  have blocked : (∃ p, p.isUnder dir ∧ m.entry? p = some .unreadableDirectory) ↔
      ∃ item ∈ m.itemsUnder dir, item.entry = .unreadableDirectory := by
    simp only [unreadable_iff_entryAt, entryAt, Option.map_eq_some_iff, mem_itemsUnder]
    constructor
    · rintro ⟨p, under, item, kept, refused⟩
      rw [locate_of_absolute (Path.isAbsolute_of_isUnder absolute under)] at kept
      exact ⟨item, ⟨_, kept, Path.isUnder_iff.mp under⟩, refused⟩
    · rintro ⟨item, ⟨parts, kept, below⟩, refused⟩
      obtain rfl := filed parts item kept
      have under := Path.isUnder_iff.mpr below
      refine ⟨item.path, under, item, ?_, refused⟩
      rw [locate_of_absolute (Path.isAbsolute_of_isUnder absolute under), kept]
  have listed : (∃ e, discover m dir = .error e) ↔ ¬∃ listed, m.listFiles dir = .ok listed := by
    have found : (∃ files, discover m dir = .ok files) ↔ ∃ listed, m.listFiles dir = .ok listed := by
      simp only [discover_eq_ok]
      constructor
      · rintro ⟨files, listed, list, -⟩
        exact ⟨listed, list⟩
      · rintro ⟨listed, list⟩
        exact ⟨_, listed, list, rfl⟩
    rw [← found]
    cases discover m dir with
    | ok files => simp
    | error e => simp
  rw [listed, blocked]
  simp only [listFiles_eq_ok, locate_of_absolute absolute, exists_and_left, exists_eq', and_true, not_and_or,
    Bool.not_eq_true, not_forall, not_not, exists_prop]

/-! ## What discovery finds -/

/-- Whether every file at an absolute path is found through names alone. -/
def FilesNamed (m : MemoryFiles) : Prop := ∀ p, m.isFile p → p.isAbsolute → ∀ c ∈ p.body, c.isName

/-- Files that were added without `..` parts are found through names. -/
theorem filesNamed_run (plainRoot : .parent ∉ root.components)
    (plainAdded : ∀ p entry, .add p entry ∈ calls → .parent ∉ p.components) : (run root calls).FilesNamed := by
  intro p file rooted
  rw [isFile_run, locate_of_absolute rooted, Option.any_eq_true] at file
  obtain ⟨entry, found, isFile⟩ := file
  obtain ⟨q, added, here⟩ := exists_add_of_recorded found (by rintro rfl; cases isFile)
  have plain := plainAdded q entry added
  apply Path.isName_of_mem_body
  have located : ((empty root).locate q).isAbsolute :=
    Path.head_components_absolute.mpr (here ▸ Path.head_components_absolute.mp rooted)
  have body : p.body = ((empty root).locate q).body := by
    rw [Path.components_of_absolute rooted, Path.components_of_absolute located] at here
    exact (List.cons.inj here).2.symm
  rw [body, locate]
  split
  · exact fun member => plain (List.mem_append_right _ member)
  · next relative =>
    rw [Path.body_join (by simpa using relative), List.mem_append, not_or]
    exact ⟨fun member => plainRoot (List.mem_append_right _ member),
      fun member => plain (List.mem_append_right _ member)⟩

section Named

variable (filed : m.Filed) (named : m.FilesNamed) (rooted : dir.isAbsolute)

include filed named rooted in
/-- Files that are found through names are discovered once each, in path order. -/
theorem increasing_discovered (normal : dir.Normal) {files : List Path} (found : discover m dir = .ok files) :
    Path.Increasing files := by
  refine increasing_discover normal (listsNames_of_filed filed rooted fun p file under c member => ?_) found
  have absolute := Path.isAbsolute_of_isUnder rooted under
  rw [Path.components_of_absolute absolute, Path.components_of_absolute rooted, List.length_cons,
    List.drop_succ_cons] at member
  exact named p file absolute c (List.mem_of_mem_drop member)

include named in
/-- Normal form keeps the components of a file that is found through names. -/
theorem components_normalize_of_isFile {p : Path} (file : m.isFile p) (absolute : p.isAbsolute) :
    p.normalize.components = p.components := by
  apply Path.components_normalize_of_isReduced
  rw [Path.components_of_absolute absolute, Path.isReduced, List.all_eq_true]
  exact named p file absolute

include filed named rooted in
/-- Just the proto files below the directory are discovered, in normal form. -/
theorem mem_discovered_iff {files : List Path} (found : discover m dir = .ok files) {p : Path} :
    p ∈ files ↔ p.Normal ∧ m.isFile p ∧ p.isUnder dir ∧ p.EndsInProto := by
  rw [mem_discovered filed rooted found, ← Path.isProtoFile_iff_endsInProto]
  constructor
  · rintro ⟨q, file, under, proto, rfl⟩
    have absolute := Path.isAbsolute_of_isUnder rooted under
    have same := components_normalize_of_isFile named file absolute
    refine ⟨Path.normal_normalize q, ?_, ?_, Path.isProtoFile_normalize proto⟩
    · rw [isFile_congr, file]
      rw [locate_of_absolute absolute, locate_of_absolute (by rwa [Path.isAbsolute_normalize]), same]
    · rwa [Path.isUnder, same]
  · rintro ⟨normal, file, under, proto⟩
    exact ⟨p, file, under, proto, normal.normalize_eq_self⟩

end Named

/-- A file at or below a directory is below it. -/
theorem isUnder_iff_of_isFile (rooted : dir.isAbsolute) (directory : m.isDir dir) {p : Path} (file : m.isFile p) :
    p.isUnder dir ↔ ∃ names, names ≠ [] ∧ p.components = dir.components ++ names := by
  rw [Path.isUnder_iff]
  constructor
  · rintro ⟨names, split⟩
    refine ⟨names, ?_, split.symm⟩
    rintro rfl
    rw [List.append_nil] at split
    have absolute := Path.head_components_absolute.mpr (split ▸ Path.head_components_absolute.mp rooted)
    have same : m.isFile p = m.isFile dir :=
      isFile_congr (by rw [locate_of_absolute absolute, locate_of_absolute rooted, split])
    rw [file, isFile_of_isDir directory] at same
    cases same
  · rintro ⟨names, -, split⟩
    exact ⟨names, split.symm⟩

/-- Discovery tells apart no two systems with the same entries. -/
theorem Agree.toOption_discover (agree : Agree m m') (filed : m.Filed) (filed' : m'.Filed)
    (named : m.FilesNamed) (rooted : dir.isAbsolute) (normal : dir.Normal) :
    (discover m dir).toOption = (discover m' dir).toOption := by
  have named' : m'.FilesNamed := fun p file => named p (agree.isFile p ▸ file)
  have fails : (∃ e, discover m dir = .error e) ↔ ∃ e, discover m' dir = .error e := by
    simp only [exists_error_discover_iff filed rooted, exists_error_discover_iff filed' rooted, agree.isDir,
      agree.entry?]
  cases found : discover m dir with
  | error e =>
    obtain ⟨e', refused⟩ := fails.mp ⟨e, found⟩
    rw [refused]
    rfl
  | ok files =>
    cases found' : discover m' dir with
    | error e' =>
      obtain ⟨e, refused⟩ := fails.mpr ⟨e', found'⟩
      rw [refused] at found
      cases found
    | ok files' =>
      have increasing := increasing_discovered filed named rooted normal found
      have increasing' := increasing_discovered filed' named' rooted normal found'
      rw [increasing.eq_of_mem_iff increasing' fun p => ?_]
      rw [mem_discovered_iff filed named rooted found, mem_discovered_iff filed' named' rooted found', agree.isFile]

/-- Over a file system that some calls have filled, discovery is exact and all or nothing, and the order of calls at
    different paths does not matter. -/
theorem discover_run (plainRoot : .parent ∉ root.components)
    (plainAdded : ∀ p entry, .add p entry ∈ calls → .parent ∉ p.components)
    (rooted : dir.isAbsolute) (normal : dir.Normal) :
    ((∃ e, discover (run root calls) dir = .error e) ↔
      (run root calls).isDir dir = false ∨
        ∃ p, p.isUnder dir ∧ entry? (run root calls) p = some .unreadableDirectory) ∧
    (∀ files, discover (run root calls) dir = .ok files →
      Path.Increasing files ∧ files.Nodup ∧
      ∀ p, p ∈ files ↔ p.Normal ∧ (run root calls).isFile p ∧
        (∃ names, names ≠ [] ∧ p.components = dir.components ++ names) ∧ p.EndsInProto) ∧
    ∀ calls' : List MemoryCall,
      (∀ parts, calls'.filter (·.leadsTo root parts) = calls.filter (·.leadsTo root parts)) →
      (discover (run root calls') dir).toOption = (discover (run root calls) dir).toOption := by
  have filed := filed_run root calls
  have named := filesNamed_run plainRoot plainAdded
  refine ⟨exists_error_discover_iff filed rooted, fun files found => ?_, fun calls' same => ?_⟩
  · have increasing := increasing_discovered filed named rooted normal found
    refine ⟨increasing, increasing.nodup, fun p => ?_⟩
    have directory : (run root calls).isDir dir := by
      have listed := (exists_error_discover_iff filed rooted).not.mp (by simp [found])
      simpa using (not_or.mp listed).1
    rw [mem_discovered_iff filed named rooted found]
    refine and_congr_right fun _ => and_congr_right fun file => ?_
    rw [isUnder_iff_of_isFile rooted directory file]
  · exact ((agree_run fun parts => (same parts).symm).toOption_discover filed (filed_run root calls') named
      rooted normal).symm

/-! ### A history with second thoughts -/

/-- Calls with directories that no call names, entries that replace others under another spelling, a directory that
    cannot be made, and names that end like those of proto files or begin like the directory. -/
def tangledCalls : List MemoryCall :=
  [.add (.ofString "p/a/x.PrOtO") (.file []), .add (.ofString "/w/p/b.proto") .directory,
   .createDir (.ofString "p/a/x.PrOtO"), .add (.ofString "/w//p/./b.proto") .unreadableFile,
   .add (.ofString "/w/p.b/y.proto") (.file []), .add (.ofString "p/c.proto.txt") (.file []),
   .add (.ofString "q") .unreadableDirectory, .add (.ofString "p/d.proto") (.file []),
   .add (.ofString "p/d.proto") .unreadableDirectory, .createDir (.ofString "/w/p/d.proto")]

def tangledTree : MemoryFiles := run (.ofString "/w") tangledCalls

/-- Where a call leads from the root of the tree. -/
def tangledPlace (call : MemoryCall) : Path := (empty (.ofString "/w")).locate call.path

/-- The proto files that stay below one directory. -/
def tangledFiles : List Path := [.ofString "/w/p/a/x.PrOtO", .ofString "/w/p/b.proto"]

theorem isDir_tangledTree : tangledTree.isDir (.ofString "/w/p") := by
  have bare : tangledTree.isFile (.ofString "/w/p") = false := by
    have none : tangledCalls.filter (·.leadsTo (.ofString "/w") (Path.ofString "/w/p").components) = [] := by
      decide
    rw [tangledTree, isFile_run, locate_of_absolute (by decide), recorded, none, List.foldl_nil, entryAt_empty]
    decide
  have file : tangledTree.isFile (.ofString "/w/p/b.proto") := by
    rw [tangledTree, isFile_run]
    decide
  exact isDir_of_isAbove bare file (by decide)

/-- What the calls leave below the directory. -/
theorem recorded_tangledCalls {p : Path} (under : p.isUnder (.ofString "/w/p")) {entry : MemoryEntry}
    (found : recorded (.ofString "/w") tangledCalls p.components = some entry) (other : entry ≠ .directory) :
    entry ≠ .unreadableDirectory ∧ (p.isProtoFile → p.components ∈ tangledFiles.map Path.components) := by
  have each : ∀ call ∈ tangledCalls, (tangledPlace call).isUnder (.ofString "/w/p") →
      recorded (.ofString "/w") tangledCalls (tangledPlace call).components ≠ some .unreadableDirectory ∧
        ((tangledPlace call).isProtoFile →
          recorded (.ofString "/w") tangledCalls (tangledPlace call).components ≠ some .directory →
          (tangledPlace call).components ∈ tangledFiles.map Path.components) := by
    decide +kernel
  obtain ⟨q, added, here⟩ := exists_add_of_recorded found other
  have kept := each (.add q entry) added
  rw [tangledPlace, MemoryCall.path, here, found, Path.isUnder, here, Path.isProtoFile_congr here] at kept
  obtain ⟨readable, proto⟩ := kept under
  exact ⟨fun same => readable (congrArg some same),
    fun ending => proto ending fun same => other (Option.some.inj same)⟩

theorem tangledFiles_kept : ∀ p ∈ tangledFiles, p.Normal ∧ p.isUnder (.ofString "/w/p") ∧ p.isProtoFile ∧
    (recorded (.ofString "/w") tangledCalls p.components).any MemoryEntry.isFile := by
  decide +kernel

theorem discover_run_tangled :
    discover tangledTree (.ofString "/w/p") = .ok tangledFiles ∧
      ∀ calls' : List MemoryCall,
        (∀ parts, calls'.filter (·.leadsTo (.ofString "/w") parts) =
          tangledCalls.filter (·.leadsTo (.ofString "/w") parts)) →
        (discover (run (.ofString "/w") calls') (.ofString "/w/p")).toOption = some tangledFiles := by
  have each : ∀ call ∈ tangledCalls, .parent ∉ call.path.components := by decide
  obtain ⟨fails, exact, reordered⟩ := discover_run
    (by decide : .parent ∉ (Path.ofString "/w").components) (fun p entry added => each (.add p entry) added)
    (by decide : (Path.ofString "/w/p").isAbsolute) (by decide)
  rw [← tangledTree] at fails exact reordered
  have rooted {m : MemoryFiles} {p : Path} (under : p.isUnder (.ofString "/w/p")) : m.locate p = p :=
    locate_of_absolute (Path.isAbsolute_of_isUnder (by decide) under)
  have found : discover tangledTree (.ofString "/w/p") = .ok tangledFiles := by
    cases answer : discover tangledTree (.ofString "/w/p") with
    | error e =>
      rcases fails.mp ⟨e, answer⟩ with missing | ⟨p, under, refused⟩
      · rw [isDir_tangledTree] at missing
        cases missing
      · rw [unreadable_iff_entryAt, rooted under, tangledTree, entryAt_run] at refused
        exact absurd rfl (recorded_tangledCalls under refused (by decide)).1
    | ok files =>
      obtain ⟨increasing, -, members⟩ := exact files answer
      rw [increasing.eq_of_mem_iff (by decide : Path.Increasing tangledFiles) fun p => ?_]
      rw [members]
      constructor
      · rintro ⟨normal, file, ⟨names, -, split⟩, ending⟩
        have under := Path.isUnder_iff.mpr ⟨names, split.symm⟩
        rw [tangledTree, isFile_run, rooted under, Option.any_eq_true] at file
        obtain ⟨entry, kept, isFile⟩ := file
        have listed := (recorded_tangledCalls under kept (by rintro rfl; cases isFile)).2
          (Path.isProtoFile_iff_endsInProto.mpr ending)
        obtain ⟨q, member, same⟩ := List.mem_map.mp listed
        rwa [normal.eq_of_components (tangledFiles_kept q member).1 same.symm]
      · intro member
        obtain ⟨normal, under, proto, kept⟩ := tangledFiles_kept p member
        have file : tangledTree.isFile p := by
          rwa [tangledTree, isFile_run, rooted under]
        exact ⟨normal, file, (isUnder_iff_of_isFile (by decide) isDir_tangledTree file).mp under,
          Path.isProtoFile_iff_endsInProto.mp proto⟩
  refine ⟨found, fun calls' same => ?_⟩
  rw [reordered calls' same, found]
  rfl

end MemoryFiles

end ProtoTree
