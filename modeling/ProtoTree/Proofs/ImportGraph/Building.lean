import ProtoTree.Proofs.ImportGraph.InDegree

/-! # Literal by literal

A graph can be built by walking over the files and their literals once. The walk
appends to the edges, and tables tell it what is new: the literals of the file
that it has followed, the keys of the ancestors that were needed, and the pairs
of positions that were counted. What has been built after some links is what the
graph says about these links, and so it is the graph in the end.
-/

namespace ProtoTree

/-- An import graph that is being built. -/
structure GraphBuilding where
  edges : List ImportEdge := []
  /-- The imports that lead nowhere. -/
  unresolved : List (Path × String) := []
  ancestorRoots : List Path := []
  /-- The keys of the ancestor roots. -/
  ancestorKeys : List String := []
  /-- The positions of importers, each with that of a file it was counted for. -/
  counted : List (Nat × Nat) := []
  inDegrees : List (Path × Nat) := []

namespace GraphBuilding

open ImportGraph SearchSpace

/-- Counts one more importer of the file at a path. -/
def increment (degrees : List (Path × Nat)) (p : Path) : List (Path × Nat) :=
  degrees.map fun entry => (entry.1, if entry.1.components = p.components then entry.2 + 1 else entry.2)

/-- Nothing but the given paths, in path order, none of them imported. -/
def start (files : List SourceFile) : GraphBuilding :=
  { inDegrees := (Path.sort (distinctBy Path.components (files.map (·.path)))).map fun p => (p, 0) }

/-- Adds the ancestor that a literal was found in, unless its key is known. -/
def needAncestor (b : GraphBuilding) : Option Path → GraphBuilding
  | none => b
  | some dir =>
    if dir.key ∈ b.ancestorKeys then b
    else { b with ancestorRoots := b.ancestorRoots ++ [dir], ancestorKeys := dir.key :: b.ancestorKeys }

/-- Counts an importer of a file at another position, unless the pair was counted. -/
def countImporter (b : GraphBuilding) (source target : Nat) (path : Path) : GraphBuilding :=
  if target ≠ source ∧ (source, target) ∉ b.counted then
    { b with counted := (source, target) :: b.counted, inDegrees := increment b.inDegrees path }
  else b

def addEdge (b : GraphBuilding) (e : ImportEdge) : GraphBuilding := { b with edges := b.edges ++ [e] }

/-- Follows one literal of the file at a position. -/
def follow (s : SearchSpace) (isFile : Path → Bool) (files : List SourceFile) (source : Nat) (file : SourceFile)
    (b : GraphBuilding) (literal : String) : GraphBuilding :=
  match s.find? isFile file.path literal with
  | none =>
    { b with unresolved := b.unresolved ++ [(file.path, literal)] }.addEdge ⟨file.path, literal, .unresolved, none⟩
  | some found =>
    let b := b.needAncestor found.ancestor
    match (positions files)[found.path.key]? with
    | none => b.addEdge ⟨file.path, literal, .external found.path, found.ancestor⟩
    | some target =>
      let path := (files[target]?.map (·.path)).getD found.path
      (b.countImporter source target path).addEdge ⟨file.path, literal, .discovered path, found.ancestor⟩

/-- Follows the literals of a file, but none of them twice. -/
def followFile (s : SearchSpace) (isFile : Path → Bool) (files : List SourceFile) (b : GraphBuilding)
    (item : SourceFile × Nat) : GraphBuilding :=
  (item.1.imports.foldl
    (fun (b, seen) literal =>
      if literal ∈ seen then (b, seen) else (follow s isFile files item.2 item.1 b literal, literal :: seen))
    (b, [])).1

/-- Follows all files in order. -/
def run (s : SearchSpace) (isFile : Path → Bool) (files : List SourceFile) : GraphBuilding :=
  files.zipIdx.foldl (followFile s isFile files) (start files)

/-! ## A walk over links -/

/-- Takes in one link. -/
def take (b : GraphBuilding) (l : ImportLink) : GraphBuilding :=
  let b := b.needAncestor l.edge.ancestor
  match l.edge.target, l.target with
  | .unresolved, _ => { b with unresolved := b.unresolved ++ [(l.edge.source, l.edge.literal)] }.addEdge l.edge
  | .discovered path, some target => (b.countImporter l.source target path).addEdge l.edge
  | _, _ => b.addEdge l.edge

/-- Skipping what was seen before is going through first occurrences. -/
theorem foldl_unseen {α β : Type} [BEq α] [LawfulBEq α] [DecidableEq α] (step : β → α → β) (items : List α) (b : β) :
    items.foldl (fun (b, seen) item => if item ∈ seen then (b, seen) else (step b item, item :: seen)) (b, []) =
      ((distinctBy id items).foldl step b, (distinctBy id items).reverse) := by
  induction items using List.reverseRecOn with
  | nil => rfl
  | append_singleton items last ih =>
      have known : (distinctBy id items).any (fun item => id item == id last) ↔
          last ∈ (distinctBy id items).reverse := by
        simp
      rw [List.foldl_concat, ih, distinctBy_concat]
      dsimp only
      by_cases old : last ∈ (distinctBy id items).reverse
      · rw [if_pos old, if_pos (known.mpr old)]
      · rw [if_neg old, if_neg (mt known.mp old), List.foldl_concat, List.reverse_concat]

section Walk

variable {s : SearchSpace} {isFile : Path → Bool} {files : List SourceFile}

theorem follow_eq (source : Nat) (file : SourceFile) (b : GraphBuilding) (literal : String) :
    follow s isFile files source file b literal = b.take (linkIn s isFile files source file literal) := by
  rw [follow, linkIn]
  cases s.find? isFile file.path literal with
  | none => rfl
  | some found =>
      simp only [targetIn, getElem?_positions]
      cases lastWithKey files found.path.key with
      | none => rfl
      | some i => rfl

theorem run_eq_foldl (s : SearchSpace) (isFile : Path → Bool) (files : List SourceFile) :
    run s isFile files = (links s isFile files).foldl take (start files) := by
  have each (b : GraphBuilding) (item : SourceFile × Nat) : followFile s isFile files b item =
      ((distinctBy id item.1.imports).map (linkIn s isFile files item.2 item.1)).foldl take b := by
    have step : follow s isFile files item.2 item.1 =
        fun b literal => b.take (linkIn s isFile files item.2 item.1 literal) := by
      funext b literal
      exact follow_eq item.2 item.1 b literal
    rw [followFile, foldl_unseen, List.foldl_map, step]
  have walk : followFile s isFile files = _ := funext fun b => funext (each b)
  rw [run, links_eq, linksIn, List.foldl_flatMap, walk]

end Walk

/-! ## What some links add up to -/

/-- Some link leads from one position to another. -/
def Joined (ls : List ImportLink) (source target : Nat) : Prop :=
  ∃ l ∈ ls, l.target = some target ∧ l.source = source ∧ source ≠ target

/-- A link that joins two positions for the first time. -/
def Joins (ls : List ImportLink) (l : ImportLink) (target : Nat) : Prop :=
  l.target = some target ∧ l.source ≠ target ∧ ¬ Joined ls l.source target

open scoped Classical in
theorem importerCount_concat (ls : List ImportLink) (l : ImportLink) (target : Nat) :
    importerCount (ls ++ [l]) target = importerCount ls target + if Joins ls l target then 1 else 0 := by
  rw [importerCount, importerCount, List.filter_append, List.map_append]
  by_cases leads : l.target = some target ∧ l.source ≠ target
  · have counts : [l].filter (fun l => l.target == some target && l.source != target) = [l] := by
      simp [leads.1, leads.2]
    have known : (distinctBy id ((ls.filter fun l => l.target == some target && l.source != target).map
        (·.source))).any (fun source => id source == id l.source) ↔ Joined ls l.source target := by
      simp only [List.any_eq_true, mem_distinctBy_id, List.mem_map, List.mem_filter, Bool.and_eq_true, beq_iff_eq,
        bne_iff_ne, id, Joined]
      constructor
      · rintro ⟨_, ⟨earlier, ⟨member, there, other⟩, rfl⟩, same⟩
        exact ⟨earlier, member, there, same, leads.2⟩
      · rintro ⟨earlier, member, there, same, other⟩
        exact ⟨earlier.source, ⟨earlier, ⟨member, there, same ▸ other⟩, rfl⟩, same⟩
    rw [counts, List.map_singleton, distinctBy_concat]
    by_cases old : Joined ls l.source target
    · rw [if_pos (known.mpr old), if_neg fun new : Joins ls l target => new.2.2 old, Nat.add_zero]
    · rw [if_neg (mt known.mp old), if_pos ⟨leads.1, leads.2, old⟩, List.length_append, List.length_singleton]
  · have skipped : [l].filter (fun l => l.target == some target && l.source != target) = [] := by
      simpa using leads
    rw [skipped, List.map_nil, List.append_nil, if_neg fun new : Joins ls l target => leads ⟨new.1, new.2.1⟩,
      Nat.add_zero]

/-- A sum over positions grows by one when one of them counts one more. -/
theorem foldr_add_at {items : List (SourceFile × Nat)} (once : (items.map (·.2)).Nodup) (count : Nat → Nat)
    (target : Nat) :
    items.foldr (fun item sum => (count item.2 + if item.2 = target then 1 else 0) + sum) 0 =
      items.foldr (fun item sum => count item.2 + sum) 0 + if target ∈ items.map (·.2) then 1 else 0 := by
  induction items with
  | nil => rfl
  | cons item items ih =>
      obtain ⟨apart, rest⟩ := List.nodup_cons.mp once
      rw [List.foldr_cons, List.foldr_cons, ih rest, List.map_cons]
      by_cases here : item.2 = target
      · subst here
        simp [apart]
        omega
      · have elsewhere : (target ∈ item.2 :: items.map (·.2)) ↔ target ∈ items.map (·.2) := by
          simp [Ne.symm here]
        simp only [if_neg here, elsewhere]
        omega

section Counting

variable {ls : List ImportLink} {l : ImportLink} {files : List SourceFile}

theorem not_joins_of_none (nowhere : l.target = none) (target : Nat) : ¬ Joins ls l target := by
  intro new
  rw [new.1] at nowhere
  cases nowhere

theorem countImporters_congr {ls' : List ImportLink} (same : ∀ i, importerCount ls' i = importerCount ls i) :
    countImporters ls' files = countImporters ls files := by
  simp only [countImporters, same]

/-- A link that joins no positions anew changes no in-degree. -/
theorem countImporters_concat_old (old : ∀ target, ¬ Joins ls l target) :
    countImporters (ls ++ [l]) files = countImporters ls files :=
  countImporters_congr fun i => by rw [importerCount_concat, if_neg (old i), Nat.add_zero]

/-- A link that joins two positions anew adds one to the in-degree of the file that it leads to. -/
theorem countImporters_concat_new {target : Nat} {file : SourceFile} (at_target : files[target]? = some file)
    (new : Joins ls l target) :
    countImporters (ls ++ [l]) files = increment (countImporters ls files) file.path := by
  have only (i : Nat) : Joins ls l i ↔ i = target := by
    constructor
    · intro also
      exact Option.some.inj (also.1.symm.trans new.1)
    · rintro rfl
      exact new
  have total (parts : List Component) : totalCount (ls ++ [l]) files parts =
      if parts = file.path.components then totalCount ls files parts + 1 else totalCount ls files parts := by
    have once : ((files.zipIdx.filter fun item => item.1.path.components == parts).map (·.2)).Nodup :=
      (nodup_places files).sublist (List.filter_sublist.map _)
    have inside : target ∈ (files.zipIdx.filter fun item => item.1.path.components == parts).map (·.2) ↔
        parts = file.path.components := by
      simp only [List.mem_map, List.mem_filter, beq_iff_eq]
      constructor
      · rintro ⟨⟨other, i⟩, ⟨member, same⟩, rfl⟩
        rw [List.mem_zipIdx_iff_getElem?, at_target] at member
        rw [← same, Option.some.inj member]
      · rintro rfl
        exact ⟨(file, target), ⟨List.mem_zipIdx_iff_getElem?.mpr at_target, rfl⟩, rfl⟩
    simp only [totalCount, importerCount_concat, only]
    rw [foldr_add_at once]
    simp only [inside]
    split
    · rfl
    · rfl
  simp only [countImporters_eq, increment, List.map_map, Function.comp_def, total]

end Counting

/-- The ancestors that were needed, and the keys that tell them apart. -/
structure Needed (dirs : List Path) (b : GraphBuilding) : Prop where
  roots : b.ancestorRoots = distinctBy Path.key dirs
  keys : ∀ key, key ∈ b.ancestorKeys ↔ ∃ dir ∈ b.ancestorRoots, dir.key = key

/-- The pairs that some links join, and the in-degrees that they make. -/
structure Counted (files : List SourceFile) (ls : List ImportLink) (b : GraphBuilding) : Prop where
  pairs : ∀ source target, (source, target) ∈ b.counted ↔ Joined ls source target
  inDegrees : b.inDegrees = countImporters ls files

/-- What has been built once some links were taken in. -/
structure Built (files : List SourceFile) (ls : List ImportLink) (b : GraphBuilding) : Prop where
  edges : b.edges = ls.map (·.edge)
  unresolved : b.unresolved =
    ((ls.map (·.edge)).filter fun e => !e.target.isResolved).map fun e => (e.source, e.literal)
  needed : Needed ((ls.map (·.edge)).filterMap (·.ancestor)) b
  counted : Counted files ls b

theorem built_start (files : List SourceFile) : Built files [] (start files) where
  edges := rfl
  unresolved := rfl
  needed := ⟨rfl, by simp [start]⟩
  counted := by
    have none (items : List (SourceFile × Nat)) :
        items.foldr (fun item sum => importerCount [] item.2 + sum) 0 = 0 := by
      induction items with
      | nil => rfl
      | cons item items ih => rw [List.foldr_cons, ih]; rfl
    constructor
    case pairs => simp [start, Joined]
    case inDegrees => simp only [start, countImporters_eq, totalCount, none]

/-! ## Taking in one link -/

/-- An ancestor changes nothing but the ancestors. -/
theorem needAncestor_kept (b : GraphBuilding) (dir : Option Path) :
    (b.needAncestor dir).edges = b.edges ∧ (b.needAncestor dir).unresolved = b.unresolved ∧
      (b.needAncestor dir).counted = b.counted ∧ (b.needAncestor dir).inDegrees = b.inDegrees := by
  fun_cases needAncestor b dir with
  | case1 => exact ⟨rfl, rfl, rfl, rfl⟩
  | case2 => exact ⟨rfl, rfl, rfl, rfl⟩
  | case3 => exact ⟨rfl, rfl, rfl, rfl⟩

/-- An importer changes nothing but the counts. -/
theorem countImporter_kept (b : GraphBuilding) (source target : Nat) (path : Path) :
    (b.countImporter source target path).edges = b.edges ∧
      (b.countImporter source target path).unresolved = b.unresolved ∧
      (b.countImporter source target path).ancestorRoots = b.ancestorRoots ∧
      (b.countImporter source target path).ancestorKeys = b.ancestorKeys := by
  fun_cases countImporter b source target path with
  | case1 => exact ⟨rfl, rfl, rfl, rfl⟩
  | case2 => exact ⟨rfl, rfl, rfl, rfl⟩

theorem joined_concat {ls : List ImportLink} {l : ImportLink} {source target : Nat} :
    Joined (ls ++ [l]) source target ↔
      Joined ls source target ∨ l.target = some target ∧ l.source = source ∧ source ≠ target := by
  simp only [Joined, List.mem_append, List.mem_singleton]
  constructor
  · rintro ⟨other, member | rfl, joins⟩
    · exact .inl ⟨other, member, joins⟩
    · exact .inr joins
  · rintro (⟨other, member, joins⟩ | joins)
    · exact ⟨other, .inl member, joins⟩
    · exact ⟨l, .inr rfl, joins⟩

section Step

variable {files : List SourceFile} {ls : List ImportLink} {b : GraphBuilding} {l : ImportLink}

/-- An ancestor is added exactly when its key is new. -/
theorem Needed.needAncestor {dirs : List Path} (needed : Needed dirs b) (dir : Option Path) :
    Needed (dirs ++ dir.toList) (b.needAncestor dir) := by
  cases dir with
  | none =>
      rw [Option.toList_none, List.append_nil]
      exact needed
  | some dir =>
      have known : (distinctBy Path.key dirs).any (·.key == dir.key) ↔ dir.key ∈ b.ancestorKeys := by
        rw [needed.keys, needed.roots, List.any_eq_true]
        simp only [beq_iff_eq]
      rw [Option.toList_some, GraphBuilding.needAncestor]
      by_cases old : dir.key ∈ b.ancestorKeys
      · rw [if_pos old]
        refine ⟨?_, needed.keys⟩
        rw [distinctBy_concat, if_pos (known.mpr old), needed.roots]
      · rw [if_neg old]
        constructor
        case roots => rw [distinctBy_concat, if_neg (mt known.mp old), needed.roots]
        case keys =>
          intro key
          simp only [List.mem_cons, needed.keys, List.mem_append, List.mem_nil_iff, or_false]
          constructor
          · rintro (rfl | ⟨other, inside, same⟩)
            · exact ⟨dir, .inr rfl, rfl⟩
            · exact ⟨other, .inl inside, same⟩
          · rintro ⟨other, inside | rfl, same⟩
            · exact .inr ⟨other, inside, same⟩
            · exact .inl same.symm

/-- A link that leads nowhere counts for nothing. -/
theorem Counted.concat (counted : Counted files ls b) (nowhere : l.target = none) :
    Counted files (ls ++ [l]) b := by
  constructor
  case pairs =>
    intro source target
    rw [counted.pairs, joined_concat, nowhere]
    simp
  case inDegrees => rw [counted.inDegrees, countImporters_concat_old (not_joins_of_none nowhere)]

/-- A pair is counted when a link joins its positions for the first time. -/
theorem Counted.countImporter (counted : Counted files ls b) {target : Nat} {file : SourceFile}
    (leads : l.target = some target) (at_target : files[target]? = some file) :
    Counted files (ls ++ [l]) (b.countImporter l.source target file.path) := by
  rw [GraphBuilding.countImporter]
  by_cases new : Joins ls l target
  · rw [if_pos ⟨Ne.symm new.2.1, mt (counted.pairs _ _).mp new.2.2⟩]
    constructor
    case pairs =>
      intro source target'
      rw [List.mem_cons, counted.pairs, joined_concat, Prod.mk.injEq, or_comm, leads, Option.some_inj]
      refine or_congr_right ⟨?_, ?_⟩
      · rintro ⟨rfl, rfl⟩
        exact ⟨rfl, rfl, new.2.1⟩
      · rintro ⟨rfl, rfl, -⟩
        exact ⟨rfl, rfl⟩
    case inDegrees => rw [countImporters_concat_new at_target new, counted.inDegrees]
  · have again : ¬ (target ≠ l.source ∧ (l.source, target) ∉ b.counted) := fun counts =>
      new ⟨leads, Ne.symm counts.1, mt (counted.pairs _ _).mpr counts.2⟩
    have old (target' : Nat) : ¬ Joins ls l target' := by
      intro joins
      obtain rfl := Option.some.inj (joins.1.symm.trans leads)
      exact new joins
    rw [if_neg again]
    constructor
    case pairs =>
      intro source target'
      rw [counted.pairs, joined_concat, or_iff_left_of_imp]
      rintro ⟨there, rfl, other⟩
      by_contra first
      exact old target' ⟨there, other, first⟩
    case inDegrees => rw [countImporters_concat_old old, counted.inDegrees]

theorem Needed.congr {dirs : List Path} {b' : GraphBuilding} (needed : Needed dirs b)
    (roots : b'.ancestorRoots = b.ancestorRoots) (keys : b'.ancestorKeys = b.ancestorKeys) : Needed dirs b' :=
  ⟨roots.trans needed.roots, by rw [roots, keys]; exact needed.keys⟩

theorem Counted.congr {b' : GraphBuilding} (counted : Counted files ls b) (pairs : b'.counted = b.counted)
    (degrees : b'.inDegrees = b.inDegrees) : Counted files ls b' :=
  ⟨by rw [pairs]; exact counted.pairs, degrees.trans counted.inDegrees⟩

/-- What one more link of a graph does. -/
theorem Built.take (built : Built files ls b)
    (joins : (l.target = none ∧ ∀ p, l.edge.target ≠ .discovered p) ∨
      ∃ i file, l.target = some i ∧ files[i]? = some file ∧ l.edge.target = .discovered file.path) :
    Built files (ls ++ [l]) (b.take l) := by
  obtain ⟨edges, lost, pairs, degrees⟩ := needAncestor_kept b l.edge.ancestor
  have needed := built.needed.needAncestor l.edge.ancestor
  have counted := built.counted.congr pairs degrees
  have through : ((ls ++ [l]).map (·.edge)).filterMap (·.ancestor) =
      (ls.map (·.edge)).filterMap (·.ancestor) ++ l.edge.ancestor.toList := by
    rw [List.map_append, List.filterMap_append]
    cases h : l.edge.ancestor <;> simp [h]
  rw [GraphBuilding.take]
  generalize b.needAncestor l.edge.ancestor = b' at *
  rcases joins with ⟨nowhere, outside⟩ | ⟨i, file, to_i, at_i, leads⟩
  · cases target : l.edge.target with
    | discovered p => exact absurd target (outside p)
    | external | unresolved =>
        dsimp only
        constructor
        case edges => simp [addEdge, edges, built.edges]
        case unresolved => simp [addEdge, lost, built.unresolved, target, ImportTarget.isResolved, ImportTarget.path?]
        case needed => rw [through]; exact needed.congr rfl rfl
        case counted => exact (counted.concat nowhere).congr rfl rfl
  · obtain ⟨edges', lost', roots', keys'⟩ := countImporter_kept b' l.source i file.path
    simp only [leads, to_i]
    constructor
    case edges => simp [addEdge, edges', edges, built.edges]
    case unresolved => simp [addEdge, lost', lost, built.unresolved, leads, ImportTarget.isResolved, ImportTarget.path?]
    case needed => rw [through]; exact needed.congr roots' keys'
    case counted => exact (counted.countImporter to_i at_i).congr rfl rfl

end Step

/-! ## The graph in the end -/

/-- A walk over links of a graph builds what they add up to. -/
theorem Built.foldl {files : List SourceFile} {done rest : List ImportLink} {b : GraphBuilding}
    (built : Built files done b)
    (joins : ∀ l ∈ rest, (l.target = none ∧ ∀ p, l.edge.target ≠ .discovered p) ∨
      ∃ i file, l.target = some i ∧ files[i]? = some file ∧ l.edge.target = .discovered file.path) :
    Built files (done ++ rest) (rest.foldl GraphBuilding.take b) := by
  induction rest generalizing done b with
  | nil => rwa [List.append_nil]
  | cons l rest ih =>
      obtain ⟨first, others⟩ := List.forall_mem_cons.mp joins
      rw [List.foldl_cons, List.append_cons]
      exact ih (built.take first) others

section Run

variable (s : SearchSpace) (isFile : Path → Bool) (files : List SourceFile)

theorem built_run : Built files (links s isFile files) (run s isFile files) := by
  rw [run_eq_foldl, ← List.nil_append (links s isFile files)]
  exact (built_start files).foldl fun l member => (target_of_mem_links member).2

/-- Walking over the files once builds their graph. -/
theorem run_eq_build :
    (run s isFile files).edges = (build s isFile files).edges ∧
      (run s isFile files).unresolved = (build s isFile files).unresolved.map (fun e => (e.source, e.literal)) ∧
      (run s isFile files).ancestorRoots = (build s isFile files).ancestorRoots ∧
      (run s isFile files).inDegrees = (build s isFile files).inDegrees := by
  have built := built_run s isFile files
  exact ⟨built.edges, built.unresolved, built.needed.roots, built.counted.inDegrees⟩

end Run

end GraphBuilding

end ProtoTree
