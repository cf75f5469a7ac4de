import Mathlib.Dynamics.PeriodicPts.Defs
import Mathlib.Order.Preorder.Finite
import ProtoTree.Proofs.ImportGraph.InDegree

/-! # Import loops

When every file of a finite set is imported by another file of the set, walking
from importer to importer must come back to a file that was met before. The
files in between form a loop.
-/

namespace ProtoTree.ImportGraph

open Function

/-- Whether an edge leads from one file to another that is not the same. -/
def ImportsOther (g : ImportGraph) (source target : Path) : Prop :=
  source ≠ target ∧ g.Imports source target

/-- Several files in a circle, each imported by the next one. -/
structure Loop (g : ImportGraph) (members : Cycle Path) : Prop where
  distinct : members.Nodup
  several : members.Nontrivial
  imported : members.Chain fun p q => g.ImportsOther q p

/-- Every file of a loop has an importer there. -/
theorem Loop.exists_importer {g : ImportGraph} {loop : Cycle Path} (circle : g.Loop loop) {p : Path}
    (onLoop : p ∈ loop) : ∃ q ∈ loop, g.ImportsOther q p := by
  induction loop using Quot.inductionOn with
  | h members =>
      obtain ⟨before, after, rfl⟩ := List.append_of_mem (Cycle.mem_coe_iff.mp onLoop)
      -- the same circle, read from the file on
      have turned : (before ++ p :: after : List Path) = ((p :: (after ++ before) : List Path) : Cycle Path) :=
        Cycle.coe_eq_coe.mpr ⟨before.length, by simp⟩
      have chain := circle.imported
      rw [Cycle.mk_eq_coe, turned, Cycle.chain_coe_cons, List.isChain_cons] at chain
      rw [Cycle.mk_eq_coe, turned]
      cases next : after ++ before with
      | nil => exact ⟨p, by simp, chain.1 p (by simp [next])⟩
      | cons q rest => exact ⟨q, by simp, chain.1 q (by simp [next])⟩

/-- There is no loop when files can be numbered so that importers come first. -/
theorem not_loop_of_rank {g : ImportGraph} {rank : Path → Nat}
    (before : ∀ q p, g.ImportsOther q p → rank q < rank p) (loop : Cycle Path) : ¬ g.Loop loop := by
  intro circle
  obtain ⟨p, -, -, onLoop, -⟩ := circle.several
  induction place : rank p using Nat.strong_induction_on generalizing p with
  | h place ih =>
      obtain ⟨q, also, edge⟩ := circle.exists_importer onLoop
      exact ih (rank q) (by rw [← place]; exact before q p edge) q also rfl

/-- Walking back along imports inside a finite set runs into a loop. -/
theorem exists_loop {g : ImportGraph} {within : Set Path} (finite : within.Finite)
    (nonempty : within.Nonempty) (imported : ∀ p ∈ within, ∃ q ∈ within, g.ImportsOther q p) :
    ∃ loop, g.Loop loop ∧ ∀ p ∈ loop, p ∈ within := by
  choose! importer inside edge using imported
  obtain ⟨start, begins⟩ := nonempty
  have stays {p : Path} (member : p ∈ within) (steps : Nat) : importer^[steps] p ∈ within :=
    Set.MapsTo.iterate inside steps member
  obtain ⟨first, again, later, met⟩ :=
    Set.Finite.exists_lt_map_eq_of_forall_mem (stays begins) finite
  -- the file that the walk meets twice comes back to itself
  set back := importer^[first] start with backIs
  have member : back ∈ within := stays begins first
  have periodic : back ∈ periodicPts importer := by
    refine ⟨again - first, Nat.sub_pos_of_lt later, ?_⟩
    rw [IsPeriodicPt, IsFixedPt, backIs, ← iterate_add_apply, Nat.sub_add_cancel (Nat.le_of_lt later)]
    exact met.symm
  refine ⟨periodicOrbit importer back, ⟨nodup_periodicOrbit, ?_, ?_⟩, ?_⟩
  · exact ⟨importer back, back, (edge back member).1, iterate_mem_periodicOrbit periodic 1,
      self_mem_periodicOrbit periodic⟩
  · refine (periodicOrbit_chain' _ periodic).mpr fun steps => ?_
    rw [iterate_succ_apply']
    exact edge _ (stays member steps)
  · intro p onLoop
    obtain ⟨steps, rfl⟩ := (mem_periodicOrbit_iff periodic).mp onLoop
    exact stays member steps

end ProtoTree.ImportGraph
