import Mathlib.Data.Finset.Card
import ProtoTree.Proofs.Distinct
import ProtoTree.Proofs.Path.Repaired
import ProtoTree.SearchRoots

/-! # Search roots as first occurrences

Adding directories one by one keeps the first occurrence of every key. The keys
that membership is looked up by stay those of the members, and the key of a
normal form is its text, so every call is answered as a set of texts would
answer it: as a set of directories, as long as the directories are text.
-/

namespace ProtoTree

/-- The directory that a call inserts. -/
def RootCall.inserted? : RootCall → Option Path
  | .insert dir => some dir
  | .contains _ => none

namespace SearchRoots

open ImportGraph

variable {s : SearchRoots} {dirs : List Path}

/-- The roots hold some directories: their members are the first normal forms with each key, and their keys are those
    of the members. -/
structure Holds (s : SearchRoots) (dirs : List Path) : Prop where
  roots : s.roots = distinctBy Path.key (dirs.map (·.absolutize s.base))
  keys : ∀ key, key ∈ s.keys ↔ ∃ member ∈ s.roots, member.key = key

theorem holds_empty (base : Path) : (empty base).Holds [] where
  roots := rfl
  keys := by simp [empty]

/-- A key is known exactly when one of the directories has it. -/
theorem Holds.mem_keys (h : s.Holds dirs) {key : String} :
    key ∈ s.keys ↔ ∃ dir ∈ dirs, (dir.absolutize s.base).key = key := by
  rw [h.keys, h.roots]
  constructor
  · rintro ⟨member, kept, rfl⟩
    obtain ⟨dir, given, rfl⟩ := List.mem_map.mp (mem_of_mem_distinctBy kept)
    exact ⟨dir, given, rfl⟩
  · rintro ⟨dir, given, rfl⟩
    exact exists_mem_distinctBy (List.mem_map_of_mem given)

theorem Holds.contains_iff (h : s.Holds dirs) (dir : Path) :
    s.contains dir ↔ ∃ other ∈ dirs, (other.absolutize s.base).key = (dir.absolutize s.base).key := by
  rw [contains, canonical, List.contains_iff_mem, h.mem_keys]

/-! ## One call -/

theorem add_of_contains {dir : Path} (known : s.contains dir) : s.add dir = (s, false) := by
  rw [contains] at known
  rw [add, if_pos known]

theorem add_of_not_contains {dir : Path} (new : ¬ s.contains dir) :
    s.add dir = ({ s with roots := s.roots ++ [s.canonical dir], keys := (s.canonical dir).key :: s.keys }, true) := by
  rw [contains] at new
  rw [add, if_neg new]

theorem answer_add (s : SearchRoots) (dir : Path) : (s.add dir).2 = !s.contains dir := by
  by_cases known : s.contains dir
  · rw [add_of_contains known, known, Bool.not_true]
  · rw [add_of_not_contains known, Bool.eq_false_of_not_eq_true known, Bool.not_false]

@[simp] theorem base_add (s : SearchRoots) (dir : Path) : (s.add dir).1.base = s.base := by
  by_cases known : s.contains dir
  · rw [add_of_contains known]
  · rw [add_of_not_contains known]

theorem Holds.add (h : s.Holds dirs) (dir : Path) : (s.add dir).1.Holds (dirs ++ [dir]) := by
  have kept : distinctBy Path.key ((dirs ++ [dir]).map (·.absolutize s.base)) =
      if s.contains dir then s.roots else s.roots ++ [s.canonical dir] := by
    have listed : (s.roots.any fun member => member.key == (dir.absolutize s.base).key) = s.contains dir := by
      rw [Bool.eq_iff_iff, contains, canonical, List.contains_iff_mem, h.keys, List.any_eq_true]
      simp only [beq_iff_eq]
    rw [List.map_append, List.map_singleton, distinctBy_concat, ← h.roots, listed]
    rfl
  by_cases known : s.contains dir
  · rw [add_of_contains known]
    rw [if_pos known] at kept
    exact ⟨kept.symm, h.keys⟩
  · rw [add_of_not_contains known]
    rw [if_neg known] at kept
    refine ⟨kept.symm, fun key => ?_⟩
    simp only [List.mem_cons, h.keys, List.mem_append, List.mem_nil_iff, or_false]
    constructor
    · rintro (rfl | ⟨member, inside, same⟩)
      · exact ⟨_, .inr rfl, rfl⟩
      · exact ⟨member, .inl inside, same⟩
    · rintro ⟨member, inside | rfl, same⟩
      · exact .inr ⟨member, inside, same⟩
      · exact .inl same.symm

theorem Holds.call (h : s.Holds dirs) (call : RootCall) :
    (s.call call).1.Holds (dirs ++ call.inserted?.toList) := by
  cases call with
  | insert dir => exact h.add dir
  | contains dir =>
      rw [RootCall.inserted?, Option.toList_none, List.append_nil]
      exact h

@[simp] theorem base_call (s : SearchRoots) (call : RootCall) : (s.call call).1.base = s.base := by
  cases call with
  | insert dir => exact base_add s dir
  | contains dir => rfl

/-! ## Calls in order -/

/-- The directories that calls insert, in order. -/
def inserted (calls : List RootCall) : List Path := calls.filterMap RootCall.inserted?

theorem Holds.after (h : s.Holds dirs) (calls : List RootCall) :
    (s.after calls).Holds (dirs ++ inserted calls) := by
  induction calls generalizing s dirs with
  | nil => simpa [inserted, SearchRoots.after] using h
  | cons call calls ih =>
      have split : inserted (call :: calls) = call.inserted?.toList ++ inserted calls := by
        rw [inserted, List.filterMap_cons]
        cases call.inserted? <;> rfl
      rw [split, ← List.append_assoc]
      exact ih (h.call call)

@[simp] theorem base_after (s : SearchRoots) (calls : List RootCall) : (s.after calls).base = s.base := by
  induction calls generalizing s with
  | nil => rfl
  | cons call calls ih => exact (ih _).trans (base_call s call)

theorem holds_after (base : Path) (calls : List RootCall) :
    ((empty base).after calls).Holds (inserted calls) := (holds_empty base).after calls

/-- What a call answers is settled by the calls before it. -/
theorem getElem?_run (s : SearchRoots) (calls : List RootCall) (call : RootCall) (later : List RootCall) :
    (s.run (calls ++ call :: later))[calls.length]? = some ((s.after calls).call call).2 := by
  induction calls generalizing s with
  | nil => rfl
  | cons first calls ih => exact ih (s.call first).1

/-- An earlier call has inserted a directory whose normal form has the same text, under whichever spelling. -/
def Known (base : Path) (calls : List RootCall) (dir : Path) : Prop :=
  ∃ earlier ∈ inserted calls, (earlier.absolutize base).text = (dir.absolutize base).text

instance (base : Path) (calls : List RootCall) (dir : Path) : Decidable (Known base calls dir) :=
  inferInstanceAs (Decidable (∃ earlier ∈ inserted calls, _))

/-- The key of a directory as a member is the text of its normal form. -/
theorem key_absolutize (p base : Path) : (p.absolutize base).key = (p.absolutize base).text := by
  rw [Path.key_eq, (Path.normal_absolutize p base).normalize_eq_self]

theorem contains_after_eq (base : Path) (calls : List RootCall) (dir : Path) :
    ((empty base).after calls).contains dir = decide (Known base calls dir) := by
  rw [Bool.eq_iff_iff, decide_eq_true_iff, (holds_after base calls).contains_iff, base_after]
  simp only [key_absolutize]
  rfl

theorem roots_after (base : Path) (calls : List RootCall) :
    ((empty base).after calls).roots = distinctBy Path.key ((inserted calls).map (·.absolutize base)) := by
  have roots := (holds_after base calls).roots
  rwa [base_after] at roots

/-- There are as many members as texts of inserted directories. -/
theorem size_after (base : Path) (calls : List RootCall) :
    ((empty base).after calls).size =
      ((inserted calls).map fun dir => (dir.absolutize base).text).toFinset.card := by
  have apart : (((empty base).after calls).roots.map Path.key).Nodup := by
    rw [roots_after]
    exact List.pairwise_map.mpr (pairwise_distinctBy Path.key _)
  have classes : (((empty base).after calls).roots.map Path.key).toFinset =
      ((inserted calls).map fun dir => (dir.absolutize base).text).toFinset := by
    ext text
    simp only [List.mem_toFinset, List.mem_map, ← (holds_after base calls).keys, (holds_after base calls).mem_keys,
      base_after, key_absolutize]
    rfl
  rw [← classes, List.toFinset_card_of_nodup apart, List.length_map, size]

/-- Normal forms are told apart by their keys as by their texts. -/
theorem distinctBy_key_absolutize (base : Path) (dirs : List Path) :
    distinctBy Path.key (dirs.map (·.absolutize base)) =
      (dirs.map (·.absolutize base)).eraseDupsBy fun p q => p.text == q.text := by
  rw [← distinctBy_eq_eraseDupsBy Path.text]
  exact distinctBy_congr (List.forall_mem_map.mpr fun dir _ => key_absolutize dir base)

/-- Among directories that are text, texts are as good as directories. -/
theorem text_eq_iff {base dir other : Path} (first : (dir.absolutize base).IsText)
    (second : (other.absolutize base).IsText) :
    (dir.absolutize base).text = (other.absolutize base).text ↔ dir.absolutize base = other.absolutize base := by
  rw [← Path.repaired_eq_iff, first.repaired_eq_self, second.repaired_eq_self]

/-- Search roots are a set of texts over any calls, however the directories are spelled: a directory is new when no
    earlier call has inserted one whose normal form has its text and contained when one has, there are as many members
    as texts, and the members are the normal forms that first had each text, in the order in which they were inserted.
    As long as the normal forms are text, this is a set of directories. -/
theorem run_as_set (base : Path) (calls : List RootCall) :
    (∀ dir later, ((empty base).run (calls ++ .insert dir :: later))[calls.length]? =
        some (decide ¬ Known base calls dir)) ∧
      (∀ dir later, ((empty base).run (calls ++ .contains dir :: later))[calls.length]? =
        some (decide (Known base calls dir))) ∧
      ((empty base).after calls).size =
        ((inserted calls).map fun dir => (dir.absolutize base).text).toFinset.card ∧
      ((empty base).after calls).roots =
        ((inserted calls).map (·.absolutize base)).eraseDupsBy (fun p q => p.text == q.text) ∧
      ((∀ dir ∈ inserted calls, (dir.absolutize base).IsText) →
        (∀ dir : Path, (dir.absolutize base).IsText →
          (Known base calls dir ↔ ∃ earlier ∈ inserted calls, earlier.absolutize base = dir.absolutize base)) ∧
        ((empty base).after calls).size = ((inserted calls).map (·.absolutize base)).toFinset.card ∧
        ((empty base).after calls).roots = ((inserted calls).map (·.absolutize base)).eraseDups) := by
  refine ⟨fun dir later => ?_, fun dir later => ?_, size_after base calls, ?_, fun texts => ?_⟩
  · rw [getElem?_run, call, answer_add, contains_after_eq, decide_not]
  · rw [getElem?_run, call, contains_after_eq]
  · rw [roots_after, distinctBy_key_absolutize]
  · have tells : ∀ p ∈ (inserted calls).map (·.absolutize base), ∀ q ∈ (inserted calls).map (·.absolutize base),
        p.key = q.key → p = q := by
      refine List.forall_mem_map.mpr fun dir given => List.forall_mem_map.mpr fun other also same => ?_
      rw [key_absolutize, key_absolutize] at same
      exact (text_eq_iff (texts dir given) (texts other also)).mp same
    have roots := roots_after base calls
    rw [distinctBy_eq_eraseDups tells] at roots
    refine ⟨fun dir text => ?_, ?_, roots⟩
    · exact exists_congr fun earlier => and_congr_right fun given => text_eq_iff (texts earlier given) text
    · have members : ((inserted calls).map (·.absolutize base)).eraseDups.toFinset =
          ((inserted calls).map (·.absolutize base)).toFinset := by
        ext root
        rw [List.mem_toFinset, List.mem_toFinset, List.mem_eraseDups]
      rw [size, roots, ← members, List.toFinset_card_of_nodup (nodup_eraseDups _)]

/-- Three spellings of one directory, and the directory above it. -/
theorem run_as_set_spelled :
    (∀ dir ∈ [Path.ofString "/work/a", .ofString "a/"], (dir.absolutize (.ofString "/work")).IsText) ∧
      ((empty (.ofString "/work")).after [.insert (.ofString "/work/a"), .insert (.ofString "a/")]).roots =
        [.ofString "/work/a"] ∧
      ((empty (.ofString "/work")).run [.insert (.ofString "/work/a"), .insert (.ofString "a/"),
        .contains (.ofString "./a")])[2]? = some true ∧
      ((empty (.ofString "/work")).run [.insert (.ofString "/work/a"), .insert (.ofString "a/"),
        .insert (.ofString "..")])[2]? = some true := by
  obtain ⟨new, old, -, -, asDirs⟩ :=
    run_as_set (.ofString "/work") [.insert (.ofString "/work/a"), .insert (.ofString "a/")]
  have texts : ∀ dir ∈ [Path.ofString "/work/a", .ofString "a/"], (dir.absolutize (.ofString "/work")).IsText := by
    have base := Path.isText_ofString "/work"
    simpa using ⟨(Path.isText_ofString "/work/a").absolutize base, (Path.isText_ofString "a/").absolutize base⟩
  refine ⟨texts, (asDirs texts).2.2.trans (by decide), (old (.ofString "./a") []).trans (by decide +kernel),
    (new (.ofString "..") []).trans (by decide +kernel)⟩

/-- A directory whose name is no text, and the one whose name is what that name is read as, are one member. -/
theorem insert_lookalike :
    (empty (.ofString "/w")).run [.insert (.withByte "/a/" 0xFF ""), .insert (.ofString "/a/\uFFFD")] = [true, false] ∧
      ((empty (.ofString "/w")).after [.insert (.withByte "/a/" 0xFF ""), .insert (.ofString "/a/\uFFFD")]).size = 1 ∧
      (Path.withByte "/a/" 0xFF "").absolutize (.ofString "/w") ≠
        (Path.ofString "/a/\uFFFD").absolutize (.ofString "/w") := by
  decide +kernel

/-! ## Deduplication -/

theorem insertAll_eq_after (s : SearchRoots) (dirs : List Path) :
    s.insertAll dirs = s.after (dirs.map .insert) := by
  rw [insertAll, after, List.foldl_map]
  rfl

/-- The emitted roots are the first occurrences among the primary root, the extra roots and the ancestors. -/
theorem dedupe_eq (base primary : Path) (extra ancestors : List Path) :
    dedupe base primary extra ancestors =
      distinctBy Path.key ((primary :: extra ++ ancestors).map (·.absolutize base)) := by
  have all (dirs : List Path) : inserted (dirs.map .insert) = dirs := by
    rw [inserted, List.filterMap_map]
    exact List.filterMap_some
  rw [dedupe, insertAll_eq_after, (holds_after base _).roots, base_after, all]
  rfl

theorem map_absolutize_dedupe {base : Path} (absolute : base.isAbsolute) (primary : Path)
    (extra ancestors : List Path) (base' : Path) :
    (dedupe base primary extra ancestors).map (·.absolutize base') = dedupe base primary extra ancestors := by
  refine (List.map_congr_left fun root member => ?_).trans (List.map_id _)
  rw [dedupe_eq] at member
  obtain ⟨dir, -, rfl⟩ := List.mem_map.mp (mem_of_mem_distinctBy member)
  exact (Path.normal_absolutize dir base).absolutize_eq_self (Path.isAbsolute_absolutize absolute dir) base'

/-- The emitted roots start with the primary root, and they come out unchanged when they are deduplicated again, from
    whichever base and wherever they are split into extra roots and ancestors. -/
theorem dedupe_settled {base : Path} (absolute : base.isAbsolute) (primary : Path) (extra ancestors : List Path) :
    ∃ rest, dedupe base primary extra ancestors = primary.absolutize base :: rest ∧
      ∀ base' k, dedupe base' (primary.absolutize base) (rest.take k) (rest.drop k) =
        primary.absolutize base :: rest := by
  have emitted := dedupe_eq base primary extra ancestors
  rw [List.cons_append, List.map_cons, distinctBy_cons] at emitted
  refine ⟨_, emitted, fun base' k => ?_⟩
  rw [dedupe_eq, List.cons_append, List.take_append_drop, ← emitted, map_absolutize_dedupe absolute, dedupe_eq]
  exact distinctBy_of_pairwise (pairwise_distinctBy Path.key _)

/-- Roots given with trailing separators, twice and from above the root directory. -/
theorem dedupe_settled_respelled :
    let emitted := dedupe (.ofString "/work") (.ofString "proto/")
      [.ofString "../../shared//", .ofString "./proto"] [.ofString "/"]
    emitted = [.ofString "/work/proto", .ofString "/shared", .ofString "/"] ∧
      dedupe (.ofString "/other") (.ofString "/work/proto") [.ofString "/shared"] [.ofString "/"] = emitted := by
  intro emitted
  have roots : emitted = [.ofString "/work/proto", .ofString "/shared", .ofString "/"] := by decide +kernel
  obtain ⟨rest, first, settled⟩ := @dedupe_settled (.ofString "/work") rfl (.ofString "proto/")
    [.ofString "../../shared//", .ofString "./proto"] [.ofString "/"]
  obtain ⟨-, rfl⟩ := List.cons.inj (roots.symm.trans first)
  exact ⟨roots, (settled (.ofString "/other") 1).trans first.symm⟩

end SearchRoots

end ProtoTree
