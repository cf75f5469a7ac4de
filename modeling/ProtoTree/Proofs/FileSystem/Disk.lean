import ProtoTree.FileSystem.Disk
import ProtoTree.Proofs.Discovery

/-! # Listings of disks

No name on a disk holds a separator, because new entries are named after parts
of the paths that they are put at. So the names that a listing follows lead
further down from its directory.
-/

namespace ProtoTree.Disk

open Path (slash)

/-- Whether no entry has a separator in its name. -/
def Plain (d : Disk) : Prop := ∀ home ∈ d.homes, slash ∉ home.bytes

variable {d : Disk}

theorem Plain.homeOf (plain : d.Plain) (n : Nat) : slash ∉ (d.homeOf n).bytes := by
  rw [Disk.homeOf, Array.getD_eq_getD_getElem?]
  cases home : d.homes[n]? with
  | none => simp
  | some name => exact plain name (Array.mem_of_getElem? home)

theorem Plain.namesFrom (plain : d.Plain) {dir steps n : Nat} {below names : List (Text.Bytes)}
    (clean : ∀ name ∈ below, slash ∉ name) (found : d.namesFrom dir steps n below = some names) :
    ∀ name ∈ names, slash ∉ name := by
  induction steps generalizing n below with
  | zero =>
      rw [Disk.namesFrom] at found
      split at found
      · cases found
        exact clean
      · cases found
  | succ steps ih =>
      rw [Disk.namesFrom] at found
      split at found
      · cases found
        exact clean
      · split at found
        · cases found
        · exact ih (List.forall_mem_cons.mpr ⟨plain.homeOf n, clean⟩) found

theorem Plain.below (plain : d.Plain) {dir : Nat} {names : List (Text.Bytes)} {entry : DiskEntry}
    (member : (names, entry) ∈ d.below dir) : ∀ name ∈ names, slash ∉ name := by
  obtain ⟨⟨name, n⟩, -, kept⟩ := List.mem_filterMap.mp member
  obtain ⟨-, kept⟩ := Option.ite_none_left_eq_some.mp kept
  obtain ⟨found, led, same⟩ := Option.map_eq_some_iff.mp kept
  cases same
  exact plain.namesFrom (by simp) led

theorem isAbsolute_of_clean {name : Text.Bytes} (clean : slash ∉ name) : Path.isAbsolute ⟨name⟩ = false := by
  rw [Path.isAbsolute, beq_eq_false_iff_ne]
  exact fun head => clean (List.mem_of_head? head)

/-- Names without separators lead further down. -/
theorem isUnder_foldl_join {names : List (Text.Bytes)} (clean : ∀ name ∈ names, slash ∉ name) {dir : Path}
    (absolute : dir.isAbsolute) : (names.foldl (fun p name => p.join ⟨name⟩) dir).isUnder dir := by
  induction names generalizing dir with
  | nil => exact Path.isUnder_iff.mpr List.prefix_rfl
  | cons name names ih =>
      rw [List.forall_mem_cons] at clean
      have step := Path.isUnder_join absolute (isAbsolute_of_clean clean.1)
      have rest := ih clean.2 (Path.isAbsolute_of_isUnder absolute step)
      rw [Path.isUnder_iff] at step rest ⊢
      exact step.trans rest

theorem listsBelow_of_plain (plain : d.Plain) : ListsBelow d := by
  intro dir listed absolute list p member
  have list : refuse .readDirectory dir (d.filesBelow dir) = .ok listed := list
  cases found : d.filesBelow dir with
  | error e => simp [found, refuse] at list
  | ok files =>
      simp only [found, refuse, Except.ok.injEq] at list
      subst list
      rw [filesBelow] at found
      split at found
      · cases found
      · split at found
        · cases found
          cases member
        · cases found
          obtain ⟨⟨names, entry⟩, below, kept⟩ := List.mem_filterMap.mp member
          obtain ⟨-, same⟩ := Option.ite_none_right_eq_some.mp kept
          cases same
          exact isUnder_foldl_join (plain.below below) absolute

/-! ## New entries -/

theorem clean_of_mem_segments {p : Path} {part : Text.Bytes} (member : part ∈ p.segments) : slash ∉ part :=
  Text.not_mem_of_mem_splitOn member

/-- A name that is free where a walk ends is one of the parts that the walk went along. -/
theorem clean_of_walk {follow : Bool} {links here : Nat} {parts : List (Text.Bytes)} {name : DiskName}
    (clean : ∀ part ∈ parts, slash ∉ part)
    (spot : d.walk follow links here parts = .ok (.vacant name)) : slash ∉ name.bytes := by
  fun_induction Disk.walk d follow links here parts
  case case1 | case4 | case6 | case7 | case8 | case11 => cases spot
  case case2 ih | case3 ih | case10 ih => exact ih (List.forall_mem_cons.mp clean).2 spot
  case case5 =>
    cases spot
    exact clean _ List.mem_cons_self
  case case9 ih =>
    -- the parts of a link's target come before those that are left
    refine ih (fun part member => ?_) spot
    rcases List.mem_append.mp member with linked | left
    · exact clean_of_mem_segments linked
    · exact clean part (List.mem_cons_of_mem _ left)

theorem clean_of_spot {p : Path} {follow : Bool} {name : DiskName}
    (spot : d.spot? p follow = .ok (.vacant name)) : slash ∉ name.bytes := by
  rw [spot?] at spot
  split at spot
  · cases spot
  · exact clean_of_walk (fun part => clean_of_mem_segments) spot

theorem clean_of_nameSpot {p : Path} {name : DiskName}
    (spot : d.nameSpot? p = .ok (.vacant name)) : slash ∉ name.bytes := by
  rw [nameSpot?] at spot
  split at spot
  · cases spot
  · exact clean_of_walk (fun part => clean_of_mem_segments) spot

theorem plain_empty : empty.Plain := by simp [Plain, empty]

theorem Plain.make (plain : d.Plain) {name : DiskName} (clean : slash ∉ name.bytes) (entry : DiskEntry) :
    (d.make name entry).Plain := by
  intro home member
  rcases Array.mem_push.mp member with old | rfl
  · exact plain home old
  · exact clean

theorem Plain.makeDir (plain : d.Plain) (p : Path) : (d.makeDir p).2.Plain := by
  rw [Disk.makeDir]
  split
  · exact plain
  · exact plain
  · next spot => exact plain.make (clean_of_nameSpot spot) .directory

/-- What making one directory keeps, making a directory unless it is there keeps too. -/
theorem kept_ensureDir {kept : Disk → Prop} (making : ∀ d p, kept d → kept (d.makeDir p).2) (start : kept d)
    (p : Path) : kept (d.ensureDir p).2 := by
  have made := making d p start
  rw [Disk.ensureDir]
  split
  · next eq => rwa [eq] at made
  · next eq =>
      rw [eq] at made
      split <;> exact made

/-- It is kept as well when the directories above are made before. -/
theorem kept_makeDirs {kept : Disk → Prop} (making : ∀ d p, kept d → kept (d.makeDir p).2) (start : kept d)
    (p : Path) (levels : Nat) : kept (d.makeDirs p levels).2 := by
  induction levels generalizing d p with
  | zero => exact start
  | succ levels ih =>
      have made := making d p start
      rw [Disk.makeDirs]
      split
      · exact start
      · split
        · next eq => rwa [eq] at made
        · next eq =>
            rw [eq] at made
            split
            · exact kept_ensureDir making made p
            · split
              · exact made
              · next dir _ =>
                  have above := ih made dir
                  split
                  · next eq => rwa [eq] at above
                  · next eq =>
                      rw [eq] at above
                      exact kept_ensureDir making above p

theorem Plain.makeAllDirs (plain : d.Plain) (p : Path) : (d.makeAllDirs p).2.Plain :=
  kept_makeDirs (fun _ p plain => plain.makeDir p) plain p _

theorem cwd_makeAllDirs (d : Disk) (p : Path) : (d.makeAllDirs p).2.cwd = d.cwd := by
  refine @kept_makeDirs d (fun other => other.cwd = d.cwd) (fun other p same => ?_) rfl p _
  rw [makeDir]
  split <;> exact same

theorem Plain.put (plain : d.Plain) (p : Path) (entry : DiskEntry) (follow : Bool) :
    (d.put p entry follow).Plain := by
  cases above : p.parent? with
  | none =>
      simp only [Disk.put, above]
      split
      · split <;> exact plain
      · next spot => exact plain.make (clean_of_spot spot) entry
      · exact plain
  | some dir =>
      have ready := plain.makeAllDirs dir
      simp only [Disk.put, above]
      split
      · split <;> exact ready
      · next spot => exact ready.make (clean_of_spot spot) entry
      · exact ready

end ProtoTree.Disk
