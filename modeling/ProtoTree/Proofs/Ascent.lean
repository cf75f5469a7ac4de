import ProtoTree.Proofs.Importers
import ProtoTree.Proofs.NeededAncestors

/-! # Climbing farther

Raising the limit of the upward walk adds candidates behind the ones there were.
What was found is found at the same place, so in-degrees and ancestor roots only
grow, and fewer files are listed.
-/

namespace ProtoTree

namespace SearchSpace

/-- The same directories, with a limit of its own to the upward walk. -/
def upTo (s : SearchSpace) (levels : Nat) : SearchSpace := { s with maxAscent := levels }

variable {s : SearchSpace} {isFile : Path → Bool} {n m : Nat} (raised : n ≤ m)
include raised

theorem candidates_upTo (file : Path) (literal : String) :
    (s.upTo n).candidates file literal <+: (s.upTo m).candidates file literal := by
  refine List.IsPrefix.map _ ?_
  exact (List.prefix_append_right_inj _).mpr (Path.ancestors_prefix raised s.primary)

/-- What is found keeps its place. -/
theorem find?_candidates_upTo {file : Path} {literal : String} {p : Path}
    (found : ((s.upTo n).candidates file literal).find? isFile = some p) :
    ((s.upTo m).candidates file literal).find? isFile = some p :=
  (candidates_upTo raised file literal).find?_eq_some found

end SearchSpace

/-- Searching the beginning of a list finds what is found in the whole list, if it stands in that beginning. -/
theorem find?_prefix {α : Type} {holds inside : α → Bool} {near far : List α} (first : near <+: far)
    (tells : ∀ a ∈ far, inside a ↔ a ∈ near) : near.find? holds = (far.find? holds).filter inside := by
  obtain ⟨rest, rfl⟩ := first
  rw [List.find?_append]
  cases found : near.find? holds with
  | some a =>
      have member := List.mem_of_find?_eq_some found
      rw [Option.some_or, Option.filter_some, (tells a (List.mem_append_left _ member)).mpr member, if_pos rfl]
  | none =>
      rw [Option.none_or]
      cases later : rest.find? holds with
      | none => rfl
      | some a =>
          have listed := List.mem_append_right near (List.mem_of_find?_eq_some later)
          have outside : ¬ inside a := fun inner =>
            List.find?_eq_none.mp found a ((tells a listed).mp inner) (List.find?_some later)
          rw [Option.filter_some, if_neg outside]

/-- The same import in another graph, with the same target if it had one. -/
structure ImportEdge.KeptBy (e later : ImportEdge) : Prop where
  source : later.source = e.source
  literal : later.literal = e.literal
  target : e.target.isResolved → later.target = e.target

namespace ImportGraph

open SearchSpace

variable {s : SearchSpace} {isFile : Path → Bool} {files : List SourceFile} {n m : Nat}

theorem keptBy_edgeIn_upTo (raised : n ≤ m) (pair : Path × String) :
    (edgeIn (s.upTo n) isFile files pair).KeptBy (edgeIn (s.upTo m) isFile files pair) := by
  refine ⟨by simp, by simp, fun resolved => ?_⟩
  rw [target_edgeIn_candidates] at resolved ⊢
  cases found : ((s.upTo n).candidates pair.1 pair.2).find? isFile with
  | none =>
      rw [found] at resolved
      cases resolved
  | some p => rw [target_edgeIn_candidates, found, find?_candidates_upTo raised found]

theorem edges_upTo (raised : n ≤ m) :
    List.Forall₂ ImportEdge.KeptBy (build (s.upTo n) isFile files).edges
      (build (s.upTo m) isFile files).edges := by
  rw [edges_build, edges_build, List.forall₂_map_left_iff, List.forall₂_map_right_iff, List.forall₂_same]
  exact fun pair _ => keptBy_edgeIn_upTo raised pair

/-- A file that imports another one still does. -/
theorem Imports.upTo (raised : n ≤ m) {p q : Path} (imports : (build (s.upTo n) isFile files).Imports q p) :
    (build (s.upTo m) isFile files).Imports q p := by
  obtain ⟨e, edge, source, target⟩ := imports
  rw [edges_build] at edge
  obtain ⟨pair, declared, rfl⟩ := List.mem_map.mp edge
  have kept := @keptBy_edgeIn_upTo s isFile files n m raised pair
  refine ⟨edgeIn (s.upTo m) isFile files pair, ?_, kept.source.trans source, ?_⟩
  · rw [edges_build]
    exact List.mem_map_of_mem declared
  · exact (kept.target (by rw [target]; rfl)).trans target

theorem importers_upTo (raised : n ≤ m) (p : Path) :
    ((build (s.upTo n) isFile files).importers files p).Sublist
      ((build (s.upTo m) isFile files).importers files p) := by
  refine List.monotone_filter_right files fun file importer => ?_
  rw [decide_eq_true_eq] at importer ⊢
  exact ⟨importer.1, importer.2.upTo raised⟩

/-- Of the ancestors that edges go through, those within the lower limit were gone through before. -/
theorem ancestor_edgeIn_upTo (normal : s.primary.Normal) (absolute : s.primary.isAbsolute) (raised : n ≤ m)
    (pair : Path × String) :
    (edgeIn (s.upTo n) isFile files pair).ancestor =
      (edgeIn (s.upTo m) isFile files pair).ancestor.filter fun dir => dir.levelsAbove s.primary ≤ n := by
  have direct : (s.upTo n).direct pair.1 = (s.upTo m).direct pair.1 := rfl
  rw [ancestor_edgeIn, ancestor_edgeIn, direct]
  split
  · rfl
  · refine find?_prefix (Path.ancestors_prefix raised s.primary) fun dir listed => ?_
    have above := ((normal.mem_ancestors_iff absolute).mp listed).1
    rw [decide_eq_true_eq]
    exact ⟨fun near => (normal.mem_ancestors_iff absolute).mpr ⟨above, near⟩,
      fun member => ((normal.mem_ancestors_iff absolute).mp member).2⟩

theorem ancestorRoots_upTo (normal : s.primary.Normal) (absolute : s.primary.isAbsolute) (raised : n ≤ m) :
    (build (s.upTo n) isFile files).ancestorRoots =
      (build (s.upTo m) isFile files).ancestorRoots.filter fun dir => dir.levelsAbove s.primary ≤ n := by
  have through (levels : Nat) : (build (s.upTo levels) isFile files).edges.filterMap (·.ancestor) =
      (declared files).filterMap fun pair => (edgeIn (s.upTo levels) isFile files pair).ancestor := by
    rw [edges_build, List.filterMap_map]
    rfl
  rw [ancestorRoots, ancestorRoots, through, through, ← distinctBy_filter, List.filter_filterMap]
  · simp only [ancestor_edgeIn_upTo normal absolute raised]
  · have above : ∀ dir ∈ (declared files).filterMap fun pair => (edgeIn (s.upTo m) isFile files pair).ancestor,
        dir.Above s.primary := by
      intro dir listed
      obtain ⟨pair, -, climbed⟩ := List.mem_filterMap.mp listed
      exact ((through_edgeIn (s := s.upTo m) normal absolute).mp climbed).above
    intro a ha b hb same
    rw [(above a ha).eq_of_key (above b hb) same]

/-- Climbing farther keeps every target that was found. In-degrees do not fall, the earlier ancestor roots are the
    later ones within the lower limit, and of the files that were left out none is listed, unless all are. -/
theorem build_raised (primary : s.primary.Normal) (absolute : s.primary.isAbsolute)
    (distinct : (files.map (·.path)).Nodup) (normal : ∀ file ∈ files, file.path.Normal) (raised : n ≤ m) :
    List.Forall₂ ImportEdge.KeptBy (build (s.upTo n) isFile files).edges (build (s.upTo m) isFile files).edges ∧
      (∀ file ∈ files,
        (build (s.upTo n) isFile files).inDegree file.path ≤ (build (s.upTo m) isFile files).inDegree file.path) ∧
      (build (s.upTo n) isFile files).ancestorRoots =
        (build (s.upTo m) isFile files).ancestorRoots.filter (fun dir => dir.levelsAbove s.primary ≤ n) ∧
      ((Inclusion.ofGraph files (build (s.upTo m) isFile files)).fallbackApplied = false →
        (Inclusion.ofGraph files (build (s.upTo n) isFile files)).fallbackApplied = false ∧
          (Inclusion.ofGraph files (build (s.upTo m) isFile files)).compile ⊆
            (Inclusion.ofGraph files (build (s.upTo n) isFile files)).compile) := by
  have settled : ∀ p ∈ files.map (·.path), p.Normal := List.forall_mem_map.mpr normal
  have grows {file : SourceFile} (member : file ∈ files) :
      (build (s.upTo n) isFile files).inDegree file.path ≤ (build (s.upTo m) isFile files).inDegree file.path := by
    rw [inDegree_eq_importers distinct settled member, inDegree_eq_importers distinct settled member]
    exact (importers_upTo raised file.path).length_le
  have stays {file : SourceFile} (member : file ∈ files)
      (kept : Inclusion.keeps file ((build (s.upTo m) isFile files).inDegree file.path)) :
      Inclusion.keeps file ((build (s.upTo n) isFile files).inDegree file.path) := by
    rw [Inclusion.keeps_iff] at kept ⊢
    exact kept.imp_left fun unused => Nat.le_zero.mp (Nat.le_trans (grows member) (Nat.le_of_eq unused))
  refine ⟨edges_upTo raised, fun file member => grows member, ancestorRoots_upTo primary absolute raised, ?_⟩
  intro chosen
  rcases Inclusion.ofGraph_cases files (build (s.upTo m) isFile files) with ⟨-, later⟩ | ⟨filled, later⟩
  · rw [later] at chosen
    cases chosen
  · rcases Inclusion.ofGraph_cases files (build (s.upTo n) isFile files) with ⟨⟨some, dropped⟩, -⟩ | ⟨-, earlier⟩
    · obtain ⟨file, member, kept⟩ := filled some
      have lost := dropped file member
      rw [stays member kept] at lost
      cases lost
    · rw [later, earlier]
      refine ⟨rfl, fun p listed => ?_⟩
      obtain ⟨file, kept, rfl⟩ := List.mem_map.mp listed
      obtain ⟨member, keeps⟩ := List.mem_filter.mp kept
      exact List.mem_map_of_mem (List.mem_filter.mpr ⟨member, stays member keeps⟩)

/-! ## A file found by climbing farther -/

/-- The first file imports others from the three directories above the primary root, one of them given too. -/
def climbers : List SourceFile :=
  [⟨.ofString "/w/p/q/a.proto", { imports := ["far.proto", "near.proto", "b.proto"] }, none⟩,
    ⟨.ofString "/w/b.proto", {}, none⟩]

def climbersSpace : SearchSpace := { primary := .ofString "/w/p/q", maxAscent := 8 }

def isClimbed (p : Path) : Bool :=
  p ∈ [.ofString "/far.proto", .ofString "/w/p/near.proto"] ++ climbers.map (·.path)

theorem climbed_far :
    (build (climbersSpace.upTo 3) isClimbed climbers).ancestorRoots =
      [.ofString "/", .ofString "/w/p", .ofString "/w"] := by
  rw [build_eq]
  decide

theorem chosen_climbers :
    (Inclusion.ofGraph climbers (build (climbersSpace.upTo 3) isClimbed climbers)).fallbackApplied = false := by
  have member : climbers[0] ∈ climbers := List.getElem_mem _
  refine Inclusion.fallbackApplied_of_keeps member (Inclusion.keeps_iff.mpr (.inl ?_))
  rw [inDegree_eq_importers (by decide) (by decide) member, build_eq]
  decide

/-- One level up, only the nearest directory is needed, and no file is dropped that three levels would list. -/
theorem build_raised_climbers :
    (build (climbersSpace.upTo 1) isClimbed climbers).ancestorRoots = [.ofString "/w/p"] ∧
      (build (climbersSpace.upTo 1) isClimbed climbers).inDegree (.ofString "/w/b.proto") ≤
        (build (climbersSpace.upTo 3) isClimbed climbers).inDegree (.ofString "/w/b.proto") ∧
      (Inclusion.ofGraph climbers (build (climbersSpace.upTo 3) isClimbed climbers)).compile ⊆
        (Inclusion.ofGraph climbers (build (climbersSpace.upTo 1) isClimbed climbers)).compile := by
  obtain ⟨-, degrees, needed, listed⟩ := @build_raised climbersSpace isClimbed climbers 1 3 (by decide) rfl
    (by decide) (by decide) (by decide)
  rw [climbed_far] at needed
  exact ⟨needed.trans (by decide), degrees climbers[1] (List.getElem_mem _), (listed chosen_climbers).2⟩

end ImportGraph

end ProtoTree
