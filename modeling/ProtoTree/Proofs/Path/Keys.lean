import ProtoTree.Proofs.Path.Canonical
import ProtoTree.Proofs.Path.Repaired

/-! # Keys of directories

Paths that are text and have one key lead to one place from every directory.
From a directory that is deep enough and whose names occur in neither, paths
with different canonical forms lead apart, so a key tells exactly the
directories that differ.
-/

namespace ProtoTree

open Text (Bytes)

open Path (slash dot)

open Component

namespace CanonicalPath

theorem names_join {f : CanonicalPath} (relative : f.absolute = false) (base : CanonicalPath) :
    (base.join f).names = base.names.take (base.names.length - f.climbed) ++ f.names := by
  rw [join, if_neg (by simp [relative])]

/-- The absolute path that goes down through one name a number of times. -/
def repeated (name : Bytes) (plain : PlainName name) (times : Nat) : CanonicalPath where
  absolute := true
  climbed := 0
  names := List.replicate times name
  grounded := fun _ => rfl
  plain := fun _ member => (List.mem_replicate.mp member).2 ▸ plain

theorem names_repeated_join {f : CanonicalPath} (relative : f.absolute = false) {name : Bytes}
    (plain : PlainName name) (times : Nat) :
    ((repeated name plain times).join f).names = List.replicate (times - f.climbed) name ++ f.names := by
  rw [names_join relative, repeated, List.length_replicate, List.take_replicate,
    Nat.min_eq_left (Nat.sub_le times f.climbed)]

/-- How often a name that a path does not go through is left below the directory that repeats it. -/
theorem count_repeated_join {f : CanonicalPath} {name : Bytes} (plain : PlainName name)
    (fresh : name ∉ f.names) (times : Nat) :
    ((repeated name plain times).join f).names.count name = if f.absolute then 0 else times - f.climbed := by
  split
  · next absolute => rw [join_of_absolute absolute, List.count_eq_zero_of_not_mem fresh]
  · next relative =>
      rw [names_repeated_join (Bool.eq_false_iff.mpr relative), List.count_append, List.count_replicate_self,
        List.count_eq_zero_of_not_mem fresh, Nat.add_zero]

theorem exists_fresh (names : List Bytes) : ∃ name, PlainName name ∧ name ∉ names := by
  have notSlash : slash ≠ 0x61 := by decide
  have notDot : (0x61 : UInt8) ≠ dot := by decide
  refine ⟨List.replicate (names.flatten.length + 1) 0x61, ⟨?_, ?_, ?_, ?_⟩, fun member => ?_⟩
  · simp
  · simp [notSlash]
  · simp [List.replicate_succ, notDot]
  · simp [List.replicate_succ, notDot]
  · have short := (List.sublist_flatten_of_mem member).length_le
    rw [List.length_replicate] at short
    omega

/-- Paths that lead to one place from every directory are one canonical path. -/
theorem eq_of_join_eq {f g : CanonicalPath}
    (same : ∀ base : CanonicalPath, base.absolute → base.join f = base.join g) : f = g := by
  obtain ⟨name, plain, fresh⟩ := exists_fresh (f.names ++ g.names)
  rw [List.mem_append, not_or] at fresh
  -- deep enough that neither climb reaches the root
  have deep := same (repeated name plain (f.climbed + g.climbed + 1)) rfl
  have counts := congrArg (fun h : CanonicalPath => h.names.count name) deep
  simp only [count_repeated_join plain fresh.1, count_repeated_join plain fresh.2] at counts
  cases absolute : f.absolute with
  | true =>
      cases other : g.absolute with
      | true => rwa [join_of_absolute absolute, join_of_absolute other] at deep
      | false =>
          simp only [absolute, other, if_true, Bool.false_eq_true, if_false] at counts
          omega
  | false =>
      cases other : g.absolute with
      | true =>
          simp only [absolute, other, if_true, Bool.false_eq_true, if_false] at counts
          omega
      | false =>
          simp only [absolute, other, Bool.false_eq_true, if_false] at counts
          have climbs : f.climbed = g.climbed := by omega
          have names := congrArg CanonicalPath.names deep
          rw [names_repeated_join absolute, names_repeated_join other, ← climbs] at names
          exact CanonicalPath.ext (absolute.trans other.symm) climbs (List.append_cancel_left names)

end CanonicalPath

namespace Path

open CanonicalPath

theorem absolutize_eq_path (p dir : Path) : p.absolutize dir = (dir.canonical.join p.canonical).path := by
  rw [absolutize]
  split
  · next absolute => rw [join_of_absolute absolute, normalize_eq_path]
  · rw [normalize_eq_path, canonical_join]

/-- Two paths have one normal form just when they lead to one place from every directory. -/
theorem normalize_eq_iff_leads {p q : Path} :
    p.normalize = q.normalize ↔ ∀ dir : Path, dir.isAbsolute → p.absolutize dir = q.absolutize dir := by
  rw [← canonical_eq_iff]
  constructor
  · intro same dir _
    rw [absolutize_eq_path, absolutize_eq_path, same]
  · intro leads
    refine eq_of_join_eq fun base absolute => ?_
    have led := leads base.path (base.isAbsolute_path.trans absolute)
    rw [absolutize_eq_path, absolutize_eq_path, canonical_path] at led
    rw [← canonical_path (base.join p.canonical), led, canonical_path]

theorem normalize_eq_iff_components {p q : Path} :
    p.normalize = q.normalize ↔ p.normalize.components = q.normalize.components :=
  ⟨congrArg components, (normal_normalize p).eq_of_components (normal_normalize q)⟩

/-- Two paths that are text have one key just when their normal forms have the same components, which is just when they
    lead to one place from every directory. -/
theorem key_eq_iff_components {p q : Path} (hp : p.IsText) (hq : q.IsText) :
    (p.key = q.key ↔ p.normalize.components = q.normalize.components) ∧
      (p.key = q.key ↔ ∀ dir : Path, dir.isAbsolute → p.absolutize dir = q.absolutize dir) := by
  rw [hp.key_eq_iff hq]
  exact ⟨normalize_eq_iff_components, normalize_eq_iff_leads⟩

/-- Two spellings of one directory share a key that the same names without the root do not have. -/
theorem key_eq_iff_components_spelled :
    ((ofString "/a//x/../b/.").IsText ∧ (ofString "/../a/b/").IsText ∧ (ofString "a/b").IsText ∧
      (ofString "/a/b").IsText) ∧
      (ofString "/a//x/../b/.").key = (ofString "/../a/b/").key ∧ (ofString "a/b").key ≠ (ofString "/a/b").key := by
  refine ⟨⟨⟨_, rfl⟩, ⟨_, rfl⟩, ⟨_, rfl⟩, ⟨_, rfl⟩⟩, ?_, fun same => ?_⟩
  · exact (key_eq_iff_components ⟨_, rfl⟩ ⟨_, rfl⟩).1.mpr (by decide)
  · have elsewhere := (key_eq_iff_components ⟨_, rfl⟩ ⟨_, rfl⟩).2.mp same (ofString "/c") rfl
    exact absurd elsewhere (by decide)

end Path

end ProtoTree
