import ProtoTree.Proofs.RootSearch

/-! # Needed ancestors

The emitted roots are the given ones, each once, and behind them the directories
above the primary root that some import was found in by climbing. Where a given
root holds a literal there is no climbing, so the ancestors are never among the
given roots. None is dropped, unless it is no more than a lookalike of a root
before it.
-/

namespace ProtoTree

namespace SearchSpace

open ImportGraph (rel_of_find?)

/-- A literal is found by climbing to a directory: neither the file's own directory nor a given root holds it, and
    the directory is the nearest one above the primary root, within the limit, that does. -/
structure ClimbsTo (s : SearchSpace) (isFile : Path → Bool) (file : Path) (literal : String) (dir : Path) :
    Prop where
  missed : ∀ other ∈ s.direct file, ¬ isFile (candidate other literal)
  above : dir.Above s.primary
  within : dir.levelsAbove s.primary ≤ s.maxAscent
  held : isFile (candidate dir literal)
  nearest : ∀ other : Path, other.Above s.primary →
    other.levelsAbove s.primary < dir.levelsAbove s.primary → ¬ isFile (candidate other literal)

variable {s : SearchSpace} {isFile : Path → Bool} (normal : s.primary.Normal) (absolute : s.primary.isAbsolute)
include normal absolute

/-- Climbing ends at the first ancestor that holds the literal. -/
theorem climbsTo_iff {file : Path} {literal : String} {dir : Path} :
    s.ClimbsTo isFile file literal dir ↔
      (s.direct file).any (holds isFile literal) = false ∧
        s.ancestors.find? (holds isFile literal) = some dir := by
  have listed (other : Path) : other ∈ s.ancestors ↔
      other.Above s.primary ∧ other.levelsAbove s.primary ≤ s.maxAscent :=
    normal.mem_ancestors_iff absolute
  have ordered : s.ancestors.Pairwise fun near far => Path.Above far near :=
    normal.pairwise_ancestors absolute s.maxAscent
  constructor
  · intro climb
    refine ⟨by simpa [holds] using climb.missed, ?_⟩
    have member : dir ∈ s.ancestors := (listed dir).mpr ⟨climb.above, climb.within⟩
    have held : holds isFile literal dir := climb.held
    obtain ⟨first, found⟩ := Option.isSome_iff_exists.mp (List.find?_isSome.mpr ⟨dir, member, held⟩)
    by_cases same : dir = first
    · rw [found, same]
    · -- a nearer directory would have ended the climb
      have firstAbove := ((listed first).mp (List.mem_of_find?_eq_some found)).1
      have farther : Path.Above dir first := rel_of_find? ordered found member held same
      exact absurd (List.find?_some found) (climb.nearest first firstAbove (farther.levelsAbove_lt firstAbove))
  · rintro ⟨missed, found⟩
    obtain ⟨above, within⟩ := (listed dir).mp (List.mem_of_find?_eq_some found)
    have held : holds isFile literal dir := List.find?_some found
    refine ⟨by simpa [holds] using missed, above, within, held, ?_⟩
    intro other otherAbove nearer held
    have member : other ∈ s.ancestors :=
      (listed other).mpr ⟨otherAbove, Nat.le_trans (Nat.le_of_lt nearer) within⟩
    have different : other ≠ dir := by
      rintro rfl
      exact Nat.lt_irrefl _ nearer
    have farther : Path.Above other dir := rel_of_find? ordered found member held different
    exact Nat.lt_asymm nearer (farther.levelsAbove_lt above)

theorem ClimbsTo.find? {file : Path} {literal : String} {dir : Path}
    (climb : s.ClimbsTo isFile file literal dir) :
    s.find? isFile file literal = some ⟨candidate dir literal, some dir⟩ := by
  obtain ⟨missed, climbed⟩ := (climbsTo_iff normal absolute).mp climb
  rcases s.find?_cases isFile file literal with ⟨other, first, -⟩ | ⟨-, other, first, eq⟩ | ⟨-, beyond, -⟩
  · have held : (s.direct file).any (holds isFile literal) :=
      List.any_eq_true.mpr ⟨other, List.mem_of_find?_eq_some first, List.find?_some first⟩
    rw [held] at missed
    cases missed
  · obtain rfl := Option.some.inj (climbed.symm.trans first)
    exact eq
  · rw [climbed] at beyond
    cases beyond

/-- An edge goes through the directory that its literal climbs to. -/
theorem through_edgeIn {files : List SourceFile} {pair : Path × String} {dir : Path} :
    (ImportGraph.edgeIn s isFile files pair).ancestor = some dir ↔ s.ClimbsTo isFile pair.1 pair.2 dir := by
  rw [climbsTo_iff normal absolute, ImportGraph.ancestor_edgeIn]
  split
  · next held => simp [held]
  · next missed => simp [missed]

end SearchSpace

namespace SourceSetRequest

open ImportGraph SearchSpace

variable {σ : Type} [FileSystem σ] {r : SourceSetRequest} (fs : σ) (discovered : List Path)

/-- The ancestor roots are the directories that some edge was resolved in by climbing. -/
theorem mem_ancestorRoots_iff_climbsTo (absolute : r.base.isAbsolute) (detects : r.detectImports) {dir : Path} :
    dir ∈ (r.resolve fs discovered).graph.ancestorRoots ↔
      ∃ e ∈ (r.resolve fs discovered).graph.edges,
        r.space.ClimbsTo (FileSystem.isFile fs) e.source e.literal dir ∧
          ∃ p, e.target.path? = some p ∧ p.key = (candidate dir e.literal).key := by
  obtain ⟨primary, rooted⟩ := primary_rooted absolute
  rw [mem_ancestorRoots_resolve fs discovered absolute detects]
  refine exists_congr fun e => and_congr_right fun edge => ?_
  have through : e.ancestor = some dir ↔ r.space.ClimbsTo (FileSystem.isFile fs) e.source e.literal dir := by
    rw [graph_resolve r fs discovered detects, edges_build] at edge
    obtain ⟨pair, -, rfl⟩ := List.mem_map.mp edge
    rw [through_edgeIn primary rooted, source_edgeIn, literal_edgeIn]
  rw [through]
  refine ⟨fun climb => ⟨climb, ?_⟩, And.left⟩
  obtain ⟨p, target, same, -⟩ := path?_target r fs discovered detects edge (climb.find? primary rooted)
  exact ⟨p, target, same⟩

/-- The emitted roots are the first ones with each text among the given roots and the ancestors that imports climbed
    to. Where the given directories are text, these are the given roots, each once, and all the ancestors. -/
theorem roots_given_then_needed (absolute : r.base.isAbsolute) (detects : r.detectImports) :
    (r.resolve fs discovered).roots =
        (r.primaryRoot :: r.extraRoots ++ (r.resolve fs discovered).graph.ancestorRoots).eraseDupsBy
          (fun p q => p.text == q.text) ∧
      (r.IsText → (r.resolve fs discovered).roots =
        (r.primaryRoot :: r.extraRoots).eraseDups ++ (r.resolve fs discovered).graph.ancestorRoots) ∧
      (r.resolve fs discovered).graph.ancestorRoots.Nodup ∧
      (∀ dir ∈ (r.resolve fs discovered).graph.ancestorRoots, dir ∉ r.primaryRoot :: r.extraRoots ∧
        dir.Above r.primaryRoot ∧ dir.levelsAbove r.primaryRoot ≤ r.maxAscent) ∧
      ∀ dir, dir ∈ (r.resolve fs discovered).graph.ancestorRoots ↔
        ∃ e ∈ (r.resolve fs discovered).graph.edges,
          r.space.ClimbsTo (FileSystem.isFile fs) e.source e.literal dir ∧
            ∃ p, e.target.path? = some p ∧ p.key = (candidate dir e.literal).key := by
  have needed (dir : Path) := @mem_ancestorRoots_iff_climbsTo _ _ r fs discovered absolute detects dir
  have outside : ∀ dir ∈ (r.resolve fs discovered).graph.ancestorRoots,
      dir ∉ r.primaryRoot :: r.extraRoots := fun dir member given => by
    obtain ⟨e, -, climb, -⟩ := (needed dir).mp member
    exact climb.missed dir (List.mem_append_right _ given) climb.held
  have apart := (r.resolve fs discovered).graph.nodup_ancestorRoots
  refine ⟨?_, fun text => ?_, apart, fun dir member => ?_, needed⟩
  · rw [roots_eq fs discovered absolute detects, ← distinctBy_eq_eraseDupsBy Path.text]
    refine distinctBy_congr fun dir member => ?_
    rw [Path.key_eq, (emitted_normal fs discovered absolute detects member).1.normalize_eq_self]
  · rw [roots_eq_eraseDups fs discovered absolute text detects, ← distinctBy_id_eq_eraseDups,
      ← distinctBy_id_eq_eraseDups]
    refine distinctBy_append_of_new apart fun given listed dir member same => ?_
    obtain rfl : given = dir := same
    exact outside given member listed
  · obtain ⟨e, -, climb, -⟩ := (needed dir).mp member
    exact ⟨outside dir member, climb.above, climb.within⟩

/-- Of two extra roots that look alike only one is emitted, and an ancestor that looks like an extra root is not
    emitted though an import needs it. -/
theorem roots_lookalike :
    (resolveHidden "/p" [hiddenDir, hidingDir]).roots ≠
        [.ofString "/p", hiddenDir, hidingDir].eraseDups ++
          (resolveHidden "/p" [hiddenDir, hidingDir]).graph.ancestorRoots ∧
      (resolveHidden "/\uFFFD/p" [hiddenDir]).graph.ancestorRoots = [hidingDir] ∧
      hidingDir ∉ (resolveHidden "/\uFFFD/p" [hiddenDir]).roots := by
  rw [hidden_roots.1, hidden_roots.2, ancestorRoots, ancestorRoots, hidden_edges.1, hidden_edges.2]
  decide

/-! ## An ancestor among the given roots -/

/-- An ancestor of the primary root is one of the extra roots, and another extra root is given twice. -/
def overlapping : SourceSetRequest :=
  { base := .ofString "/a", primary := .ofString "b"
    extra := [.ofString "/l", .ofString ".", .ofString "../l/."] }

def resolveOverlapping : SourceSet := overlapping.resolve scatteredTree [importer.1]

theorem overlapping_text : overlapping.IsText where
  base := Path.isText_ofString "/a"
  primary := Path.isText_ofString "b"
  extra := by
    have texts (text : String) := Path.isText_ofString text
    simp [overlapping, texts]

theorem needed_overlapping : resolveOverlapping.graph.ancestorRoots = [.ofString "/"] := by
  rw [resolveOverlapping, scatteredTree, resolve_ofFiles rfl (by decide), List.map_singleton,
    scanned_importer (by decide)]
  decide

/-- One import climbs past the ancestor that is given, to the root directory. -/
theorem roots_given_then_needed_overlapping :
    resolveOverlapping.roots = [.ofString "/a/b", .ofString "/l", .ofString "/a", .ofString "/"] ∧
      .ofString "/a" ∉ resolveOverlapping.graph.ancestorRoots ∧
      ∃ e ∈ resolveOverlapping.graph.edges,
        overlapping.space.ClimbsTo (FileSystem.isFile scatteredTree) e.source e.literal (.ofString "/") := by
  obtain ⟨-, roots, -, outside, needed⟩ :=
    roots_given_then_needed (r := overlapping) scatteredTree [importer.1] rfl rfl
  rw [← resolveOverlapping] at roots outside needed
  refine ⟨?_, fun member => (outside _ member).1 (by decide), ?_⟩
  · rw [roots overlapping_text, needed_overlapping]
    decide
  · obtain ⟨e, edge, climb, -⟩ := (needed (.ofString "/")).mp (needed_overlapping ▸ List.mem_singleton_self _)
    exact ⟨e, edge, climb⟩

end SourceSetRequest

end ProtoTree
