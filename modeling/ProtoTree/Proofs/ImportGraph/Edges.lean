import ProtoTree.Proofs.Distinct
import ProtoTree.Proofs.Path.Normalization

/-! # Edges of an import graph

The graph has one edge for every file and distinct literal. The edge leads to
what the search of the file's directories finds: to the given file under that
key when there is one, and outside the given files otherwise.
-/

namespace ProtoTree

namespace SearchSpace

/-- Whether a file stands at the literal under a directory. -/
def holds (isFile : Path → Bool) (literal : String) (dir : Path) : Bool :=
  isFile (candidate dir literal)

theorem candidate_normal (dir : Path) (literal : String) : (candidate dir literal).Normal :=
  Path.normal_normalize _

theorem candidate_normalize (dir : Path) (literal : String) :
    candidate dir.normalize literal = candidate dir literal :=
  Path.normalize_join_normalize dir (.ofString literal)

/-- What a search gives: the first direct directory that holds the literal, or else the first such ancestor. -/
theorem find?_cases (s : SearchSpace) (isFile : Path → Bool) (file : Path) (literal : String) :
    (∃ dir, (s.direct file).find? (holds isFile literal) = some dir ∧
      s.find? isFile file literal = some ⟨candidate dir literal, none⟩) ∨
    ((s.direct file).find? (holds isFile literal) = none ∧
      ∃ dir, s.ancestors.find? (holds isFile literal) = some dir ∧
        s.find? isFile file literal = some ⟨candidate dir literal, some dir⟩) ∨
    ((s.direct file).find? (holds isFile literal) = none ∧
      s.ancestors.find? (holds isFile literal) = none ∧ s.find? isFile file literal = none) := by
  have test : (fun dir => isFile (candidate dir literal)) = holds isFile literal := rfl
  simp only [find?, findAmong, test]
  cases direct : (s.direct file).find? (holds isFile literal) with
  | some dir => exact .inl ⟨dir, rfl, rfl⟩
  | none =>
      cases walk : s.ancestors.find? (holds isFile literal) with
      | some dir => exact .inr (.inl ⟨rfl, dir, rfl, rfl⟩)
      | none => exact .inr (.inr ⟨rfl, rfl, rfl⟩)

/-- A search finds nothing when no directory holds the literal. -/
theorem isNone_find? (s : SearchSpace) (isFile : Path → Bool) (file : Path) (literal : String) :
    (s.find? isFile file literal).isNone =
      (s.direct file ++ s.ancestors).all fun dir => !holds isFile literal dir := by
  rw [List.all_append]
  rcases s.find?_cases isFile file literal with ⟨dir, first, eq⟩ | ⟨missed, dir, first, eq⟩ | ⟨missed, beyond, eq⟩
  · have held : (s.direct file).all (fun dir => !holds isFile literal dir) = false := by
      rw [List.all_eq_false]
      exact ⟨dir, List.mem_of_find?_eq_some first, by simpa using List.find?_some first⟩
    rw [eq, held]
    rfl
  · have held : s.ancestors.all (fun dir => !holds isFile literal dir) = false := by
      rw [List.all_eq_false]
      exact ⟨dir, List.mem_of_find?_eq_some first, by simpa using List.find?_some first⟩
    rw [eq, held, Bool.and_false]
    rfl
  · have direct : (s.direct file).all (fun dir => !holds isFile literal dir) := by
      simpa using missed
    have ancestors : s.ancestors.all (fun dir => !holds isFile literal dir) := by
      simpa using beyond
    rw [eq, direct, ancestors]
    rfl

/-- The directories are searched as one list, the ancestors after the others. -/
theorem map_path_find? (s : SearchSpace) (isFile : Path → Bool) (file : Path) (literal : String) :
    (s.find? isFile file literal).map (·.path) =
      ((s.direct file ++ s.ancestors).find? (holds isFile literal)).map (candidate · literal) := by
  rw [List.find?_append]
  rcases s.find?_cases isFile file literal with ⟨dir, first, eq⟩ | ⟨missed, dir, first, eq⟩ | ⟨missed, beyond, eq⟩
  · rw [eq, first]
    rfl
  · rw [eq, missed, first]
    rfl
  · rw [eq, missed, beyond]
    rfl

/-- What a search gives is the first of the candidates at which there is a file. -/
theorem find?_candidates (s : SearchSpace) (isFile : Path → Bool) (file : Path) (literal : String) :
    (s.candidates file literal).find? isFile = (s.find? isFile file literal).map (·.path) := by
  rw [map_path_find?, candidates, List.find?_map]
  rfl

theorem path_of_find? {s : SearchSpace} {isFile : Path → Bool} {file : Path} {literal : String}
    {found : FoundImport} (h : s.find? isFile file literal = some found) :
    isFile found.path ∧ ∃ dir ∈ s.direct file ++ s.ancestors, found.path = candidate dir literal := by
  rcases s.find?_cases isFile file literal with ⟨dir, first, eq⟩ | ⟨-, dir, first, eq⟩ | ⟨-, -, eq⟩
  · obtain rfl := Option.some.inj (h.symm.trans eq)
    exact ⟨List.find?_some (p := holds isFile literal) first, dir,
      List.mem_append_left _ (List.mem_of_find?_eq_some first), rfl⟩
  · obtain rfl := Option.some.inj (h.symm.trans eq)
    exact ⟨List.find?_some (p := holds isFile literal) first, dir,
      List.mem_append_right _ (List.mem_of_find?_eq_some first), rfl⟩
  · rw [h] at eq
    cases eq

end SearchSpace

namespace ImportGraph

/-! ## Files by key -/

/-- The position of the last file with a key. -/
def lastWithKey (files : List SourceFile) (key : String) : Option Nat :=
  (files.zipIdx.reverse.find? fun item => item.1.path.key == key).map (·.2)

theorem getElem?_positions (files : List SourceFile) (key : String) :
    (positions files)[key]? = lastWithKey files key := by
  induction files using List.reverseRecOn with
  | nil => simp [positions, lastWithKey]
  | append_singleton files file ih =>
      have step : positions (files ++ [file]) =
          (positions files).insert file.path.key files.length := by
        simp [positions, List.zipIdx_append]
      rw [step, Std.HashMap.getElem?_insert, ih]
      simp only [lastWithKey, List.zipIdx_append, List.reverse_append, Nat.zero_add,
        List.zipIdx_singleton, List.reverse_singleton, List.singleton_append, List.find?_cons]
      cases same : file.path.key == key <;> simp

theorem lastWithKey_eq_some {files : List SourceFile} {key : String} {i : Nat}
    (h : lastWithKey files key = some i) : ∃ file, files[i]? = some file ∧ file.path.key = key := by
  obtain ⟨item, found, rfl⟩ := Option.map_eq_some_iff.mp h
  have member := List.mem_reverse.mp (List.mem_of_find?_eq_some found)
  exact ⟨item.1, List.mem_zipIdx_iff_getElem?.mp member, by simpa using List.find?_some found⟩

theorem lastWithKey_eq_none {files : List SourceFile} {key : String} :
    lastWithKey files key = none ↔ ∀ file ∈ files, file.path.key ≠ key := by
  simp only [lastWithKey, Option.map_eq_none_iff, List.find?_eq_none, List.mem_reverse, beq_iff_eq]
  constructor
  · intro h file member
    obtain ⟨i, at_i⟩ := List.getElem?_of_mem member
    exact h (file, i) (List.mem_zipIdx_iff_getElem?.mpr at_i)
  · intro h item member
    exact h item.1 (List.mem_of_getElem? (List.mem_zipIdx_iff_getElem?.mp member))

/-- The target of a path, without the table of positions. -/
def targetIn (files : List SourceFile) (found : Path) : Option Nat × ImportTarget :=
  match lastWithKey files found.key with
  | none => (none, .external found)
  | some i => (some i, .discovered ((files[i]?.map (·.path)).getD found))

theorem targetOf_eq (files : List SourceFile) (found : Path) :
    targetOf files.toArray (positions files) found = targetIn files found := by
  rw [targetOf, targetIn, getElem?_positions]
  cases lastWithKey files found.key with
  | none => rfl
  | some i => simp only [List.getElem?_toArray]

theorem targetIn_cases (files : List SourceFile) (found : Path) :
    ((∀ file ∈ files, file.path.key ≠ found.key) ∧ targetIn files found = (none, .external found)) ∨
    ∃ i file, files[i]? = some file ∧ file.path.key = found.key ∧
      targetIn files found = (some i, .discovered file.path) := by
  rw [targetIn]
  cases last : lastWithKey files found.key with
  | none => exact .inl ⟨lastWithKey_eq_none.mp last, rfl⟩
  | some i =>
      obtain ⟨file, at_i, same⟩ := lastWithKey_eq_some last
      exact .inr ⟨i, file, at_i, same, by simp [at_i]⟩

/-! ## Links -/

/-- The link of one literal, without the table of positions. -/
def linkIn (s : SearchSpace) (isFile : Path → Bool) (files : List SourceFile) (source : Nat)
    (file : SourceFile) (literal : String) : ImportLink :=
  match s.find? isFile file.path literal with
  | none => ⟨source, none, ⟨file.path, literal, .unresolved, none⟩⟩
  | some found =>
    ⟨source, (targetIn files found.path).1,
      ⟨file.path, literal, (targetIn files found.path).2, found.ancestor⟩⟩

@[simp] theorem source_linkIn (s : SearchSpace) (isFile : Path → Bool) (files : List SourceFile) (source : Nat)
    (file : SourceFile) (literal : String) : (linkIn s isFile files source file literal).source = source := by
  rw [linkIn]
  split
  · rfl
  · rfl

/-- The links of all files, without the table of positions. -/
def linksIn (s : SearchSpace) (isFile : Path → Bool) (files : List SourceFile) : List ImportLink :=
  files.zipIdx.flatMap fun item =>
    (distinctBy id item.1.imports).map (linkIn s isFile files item.2 item.1)

theorem links_eq (s : SearchSpace) (isFile : Path → Bool) (files : List SourceFile) :
    links s isFile files = linksIn s isFile files := by
  have each (file : SourceFile) (i : Nat) (literal : String) :
      link files.toArray (positions files) i file literal
        (s.findAmong s.ancestors isFile file.path literal) = linkIn s isFile files i file literal := by
    rw [linkIn, SearchSpace.find?]
    cases s.findAmong s.ancestors isFile file.path literal with
    | none => rfl
    | some found => simp only [link, targetOf_eq]
  simp only [links, linksIn, each]

/-- The graph, without the table of positions. -/
def buildIn (s : SearchSpace) (isFile : Path → Bool) (files : List SourceFile) : ImportGraph :=
  ⟨(linksIn s isFile files).map (·.edge), countImporters (linksIn s isFile files) files⟩

theorem build_eq (s : SearchSpace) (isFile : Path → Bool) (files : List SourceFile) :
    build s isFile files = buildIn s isFile files := by
  simp only [build, buildIn, links_eq]

/-! ## Edges of declared imports -/

/-- The imports of some files: file by file, each literal at its first place. -/
def declared (files : List SourceFile) : List (Path × String) :=
  files.flatMap fun file => file.imports.eraseDups.map fun literal => (file.path, literal)

/-- The edge of one literal of a file. -/
def edgeIn (s : SearchSpace) (isFile : Path → Bool) (files : List SourceFile)
    (pair : Path × String) : ImportEdge :=
  match s.find? isFile pair.1 pair.2 with
  | none => ⟨pair.1, pair.2, .unresolved, none⟩
  | some found => ⟨pair.1, pair.2, (targetIn files found.path).2, found.ancestor⟩

theorem edge_linkIn (s : SearchSpace) (isFile : Path → Bool) (files : List SourceFile) (source : Nat)
    (file : SourceFile) (literal : String) :
    (linkIn s isFile files source file literal).edge = edgeIn s isFile files (file.path, literal) := by
  rw [linkIn, edgeIn]
  cases s.find? isFile file.path literal with
  | none => rfl
  | some found => rfl

/-- There is one edge for each declared import, in the order in which they are declared. -/
theorem edges_build (s : SearchSpace) (isFile : Path → Bool) (files : List SourceFile) :
    (build s isFile files).edges = (declared files).map (edgeIn s isFile files) := by
  have positions : files = files.zipIdx.map Prod.fst := (List.zipIdx_map_fst 0 files).symm
  conv_rhs => rw [declared, positions, List.flatMap_map]
  rw [build_eq, buildIn, linksIn, List.map_flatMap, List.map_flatMap, ← positions]
  refine List.flatMap_congr fun item _ => ?_
  rw [List.map_map, List.map_map, distinctBy_id_eq_eraseDups]
  exact List.map_congr_left fun literal _ => edge_linkIn s isFile files item.2 item.1 literal

section EdgeIn

variable (s : SearchSpace) (isFile : Path → Bool) (files : List SourceFile) (pair : Path × String)

@[simp] theorem source_edgeIn : (edgeIn s isFile files pair).source = pair.1 := by
  rw [edgeIn]
  split
  · rfl
  · rfl

@[simp] theorem literal_edgeIn : (edgeIn s isFile files pair).literal = pair.2 := by
  rw [edgeIn]
  split
  · rfl
  · rfl

/-- An edge leads nowhere when its search finds nothing. -/
theorem isResolved_edgeIn :
    (edgeIn s isFile files pair).target.isResolved = (s.find? isFile pair.1 pair.2).isSome := by
  rw [edgeIn]
  cases s.find? isFile pair.1 pair.2 with
  | none => rfl
  | some found =>
      rcases targetIn_cases files found.path with ⟨-, eq⟩ | ⟨i, other, -, -, eq⟩
      · simp [eq, ImportTarget.isResolved, ImportTarget.path?]
      · simp [eq, ImportTarget.isResolved, ImportTarget.path?]

/-- An edge leads to the target of the first candidate at which there is a file. -/
theorem target_edgeIn_candidates :
    (edgeIn s isFile files pair).target =
      ((s.candidates pair.1 pair.2).find? isFile).elim .unresolved fun p => (targetIn files p).2 := by
  rw [SearchSpace.find?_candidates, edgeIn]
  cases s.find? isFile pair.1 pair.2 with
  | none => rfl
  | some found => rfl

/-- An edge goes through an ancestor only when no other directory holds its literal, and then through the nearest
    ancestor that does. -/
theorem ancestor_edgeIn :
    (edgeIn s isFile files pair).ancestor =
      if (s.direct pair.1).any (SearchSpace.holds isFile pair.2) then none
      else s.ancestors.find? (SearchSpace.holds isFile pair.2) := by
  have through : (edgeIn s isFile files pair).ancestor = (s.find? isFile pair.1 pair.2).bind (·.ancestor) := by
    rw [edgeIn]
    cases s.find? isFile pair.1 pair.2 with
    | none => rfl
    | some found => rfl
  rcases s.find?_cases isFile pair.1 pair.2 with ⟨dir, first, eq⟩ | ⟨missed, dir, first, eq⟩ | ⟨missed, beyond, eq⟩
  · have held : (s.direct pair.1).any (SearchSpace.holds isFile pair.2) :=
      List.any_eq_true.mpr ⟨dir, List.mem_of_find?_eq_some first, List.find?_some first⟩
    rw [through, eq, if_pos held]
    rfl
  · have none : (s.direct pair.1).any (SearchSpace.holds isFile pair.2) = false := by simpa using missed
    rw [through, eq, none, first]
    rfl
  · have none : (s.direct pair.1).any (SearchSpace.holds isFile pair.2) = false := by simpa using missed
    rw [through, eq, none, beyond]
    rfl

/-- The edges that lead nowhere are those of the declared imports that no search finds. -/
theorem unresolved_build :
    ((build s isFile files).unresolved.map fun e => (e.source, e.literal)) =
      (declared files).filter fun pair => (s.find? isFile pair.1 pair.2).isNone := by
  have lost : ∀ pair ∈ declared files,
      ((fun e => !ImportTarget.isResolved e.target) ∘ edgeIn s isFile files) pair =
        (s.find? isFile pair.1 pair.2).isNone := fun pair _ => by
    simp [isResolved_edgeIn]
  rw [unresolved, edges_build, List.filter_map, List.filter_congr lost, List.map_map]
  refine (List.map_congr_left fun pair _ => ?_).trans (List.map_id _)
  simp

end EdgeIn

/-! ## Members -/

theorem mem_links {s : SearchSpace} {isFile : Path → Bool} {files : List SourceFile}
    {l : ImportLink} :
    l ∈ links s isFile files ↔ ∃ i file, files[i]? = some file ∧
      ∃ literal ∈ file.imports, linkIn s isFile files i file literal = l := by
  simp only [links_eq, linksIn, List.mem_flatMap, List.mem_map, mem_distinctBy_id, Prod.exists,
    List.mem_zipIdx_iff_getElem?]
  exact ⟨fun ⟨file, i, h⟩ => ⟨i, file, h⟩, fun ⟨i, file, h⟩ => ⟨file, i, h⟩⟩

theorem mem_edges {s : SearchSpace} {isFile : Path → Bool} {files : List SourceFile}
    {e : ImportEdge} :
    e ∈ (build s isFile files).edges ↔ ∃ i file, files[i]? = some file ∧
      ∃ literal ∈ file.imports, (linkIn s isFile files i file literal).edge = e := by
  simp only [build, List.mem_map, mem_links]
  constructor
  · rintro ⟨_, ⟨i, file, at_i, literal, declared, rfl⟩, rfl⟩
    exact ⟨i, file, at_i, literal, declared, rfl⟩
  · rintro ⟨i, file, at_i, literal, declared, rfl⟩
    exact ⟨_, ⟨i, file, at_i, literal, declared, rfl⟩, rfl⟩

/-- What an edge says: its literal was declared by a file, and its target is what the search found. -/
theorem edge_cases {s : SearchSpace} {isFile : Path → Bool} {files : List SourceFile}
    {e : ImportEdge} (h : e ∈ (build s isFile files).edges) :
    (∃ file ∈ files, file.path = e.source ∧ e.literal ∈ file.imports) ∧
    ((s.find? isFile e.source e.literal = none ∧ e.target = .unresolved ∧ e.ancestor = none) ∨
      ∃ found, s.find? isFile e.source e.literal = some found ∧ e.ancestor = found.ancestor ∧
        e.target = (targetIn files found.path).2) := by
  obtain ⟨i, file, at_i, literal, declared, rfl⟩ := mem_edges.mp h
  rw [linkIn]
  cases search : s.find? isFile file.path literal with
  | none => exact ⟨⟨file, List.mem_of_getElem? at_i, rfl, declared⟩, .inl ⟨search, rfl, rfl⟩⟩
  | some found =>
      exact ⟨⟨file, List.mem_of_getElem? at_i, rfl, declared⟩, .inr ⟨found, search, rfl, rfl⟩⟩

end ImportGraph

end ProtoTree
