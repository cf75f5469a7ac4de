import ProtoTree.Proofs.Path.Ancestors
import ProtoTree.Proofs.Plan

/-! # Checks and their order

Validation runs its checks in one order and reports the first that fails, in the
caller's spelling. The paths that it gives are absolute and have nothing left to
work off, so a configuration with these paths in place of its own passes all the
checks again and gets the same paths.
-/

namespace ProtoTree

theorem Text.any_isBlankText_iff {names : List String} :
    names.any isBlankText ↔ (names.all fun name => name.toList.any fun char => !isBlank char) = false := by
  simp [isBlankText]

namespace Path

theorem isEmpty_iff {p : Path} : p.isEmpty ↔ p = .empty := by
  rw [isEmpty, List.isEmpty_iff, empty, mk.injEq]

theorem isNone_relativeTo?_iff {p dir : Path} : (p.relativeTo? dir).isNone ↔ ¬dir.components <+: p.components := by
  rw [← isUnder_iff, ← isSome_relativeTo?, Option.not_isSome_iff_eq_none, Option.isNone_iff_eq_none]

/-- Whether a path is absolute and in normal form, and is spelled without a `.` or a `..`. -/
structure Canonical (p : Path) : Prop where
  absolute : p.isAbsolute
  normal : p.Normal
  noCurrent : [dot] ∉ p.segments
  noParent : [dot, dot] ∉ p.segments

theorem Normal.canonical {p : Path} (normal : p.Normal) (absolute : p.isAbsolute) : p.Canonical := by
  obtain ⟨names, named, rfl⟩ := normal.exists_names absolute
  have plain : ∀ part ∈ (rooted names).segments, part ≠ [dot] ∧ part ≠ [dot, dot] := by
    by_cases filled : names = []
    case pos =>
      rw [filled]
      decide
    case neg =>
      rw [segments_rooted named filled, List.forall_mem_cons, List.forall_mem_map]
      refine ⟨by decide, fun c member => ?_⟩
      obtain ⟨spelled, isName⟩ := named c member
      refine ⟨spelled.bytes_ne_dot, fun dots => ?_⟩
      have back := spelled.2
      rw [dots] at back
      rw [← Option.some.inj back] at isName
      cases isName
  exact ⟨absolute, normal, fun member => (plain _ member).1 rfl, fun member => (plain _ member).2 rfl⟩

end Path

namespace Config

/-- What a configuration is checked for. -/
inductive Check where
  | protoDirGiven
  | workspaceDirGiven
  | outputDirGiven
  | pluginsNamed
  | ascentLimited
  | timeoutPositive
  | protoDirExists
  | workspaceDirExists
  | protoDirWithin
  deriving DecidableEq, Repr

namespace Check

/-- The checks that need no file system, in order. -/
def plain : List Check :=
  [protoDirGiven, workspaceDirGiven, outputDirGiven, pluginsNamed, ascentLimited, timeoutPositive]

/-- The checks of directories, in order. -/
def ofDirectories : List Check := [protoDirExists, workspaceDirExists, protoDirWithin]

def inOrder : List Check := plain ++ ofDirectories

variable {σ : Type} [FileSystem σ]

/-- Whether a configuration passes a check, with relative paths taken from a base. -/
def passes (c : Config) (fs : σ) (base : Path) : Check → Bool
  | protoDirGiven => c.protoDir ≠ .empty
  | workspaceDirGiven => c.workspaceDir ≠ .empty
  | outputDirGiven => c.outputDir ≠ .empty
  | pluginsNamed => c.plugins.all fun name => name.toList.any fun char => !Text.isBlank char
  | ascentLimited => c.maxAscent ≤ 64
  | timeoutPositive => c.timeout ≠ some .zero
  | protoDirExists => FileSystem.isDir fs (c.protoDir.absolutize base)
  | workspaceDirExists => FileSystem.isDir fs (c.workspaceDir.absolutize base)
  | protoDirWithin => (c.workspaceDir.absolutize base).components <+: (c.protoDir.absolutize base).components

/-- What is reported when a check fails. -/
def fault (c : Config) : Check → ConfigError
  | protoDirGiven => .missingProtoDir
  | workspaceDirGiven => .missingWorkspaceDir
  | outputDirGiven => .missingOutputDir
  | pluginsNamed => .validationFailed "Plugin names cannot be empty"
  | ascentLimited => .validationFailed "Max ascent cannot exceed 64 levels"
  | timeoutPositive => .validationFailed "Timeout must be greater than zero"
  | protoDirExists => .protoDirNotFound c.protoDir
  | workspaceDirExists => .workspaceDirNotFound c.workspaceDir
  | protoDirWithin => .notWithinWorkspace c.protoDir c.workspaceDir

/-- The first of some checks that fails. -/
def firstFailing? (c : Config) (fs : σ) (base : Path) (checks : List Check) : Option Check :=
  checks.find? fun check => !check.passes c fs base

end Check

variable {σ : Type} [FileSystem σ] {c : Config} {fs : σ} {base : Path}

theorem map_firstFailing?_cons (check : Check) (rest : List Check) :
    (Check.firstFailing? c fs base (check :: rest)).map (Check.fault c) =
      if check.passes c fs base = false then some (check.fault c)
      else (Check.firstFailing? c fs base rest).map (Check.fault c) := by
  rw [Check.firstFailing?, List.find?_cons]
  cases check.passes c fs base <;> rfl

theorem plainFault?_eq (fs : σ) (base : Path) :
    c.plainFault? = (Check.firstFailing? c fs base Check.plain).map (Check.fault c) := by
  simp only [Check.plain, map_firstFailing?_cons, plainFault?, Check.passes, decide_eq_false_iff_not, Path.isEmpty_iff,
    Text.any_isBlankText_iff, Nat.not_le, not_not, gt_iff_lt, ne_eq]
  rfl

theorem directoryFault?_eq : c.directoryFault? fs (c.resolvePaths base) =
    (Check.firstFailing? c fs base Check.ofDirectories).map (Check.fault c) := by
  simp only [Check.ofDirectories, map_firstFailing?_cons, directoryFault?, resolvePaths, Check.passes,
    Bool.not_eq_true', decide_eq_false_iff_not, Path.isNone_relativeTo?_iff]
  rfl

/-- Validation fails at the first check that fails. -/
theorem validate_eq (current : FileSystem.currentDir fs = .ok base) :
    c.validate fs =
      match Check.firstFailing? c fs base Check.inOrder with
      | some check => .error (check.fault c)
      | none => .ok (c.resolvePaths base) := by
  have split : Check.firstFailing? c fs base Check.inOrder =
      (Check.firstFailing? c fs base Check.plain).or (Check.firstFailing? c fs base Check.ofDirectories) :=
    List.find?_append
  rw [split, validate, plainFault?_eq fs base]
  cases Check.firstFailing? c fs base Check.plain with
  | some check => rfl
  | none =>
    simp only [Option.map_none, current, directoryFault?_eq, Option.none_or]
    cases Check.firstFailing? c fs base Check.ofDirectories with
    | some check => rfl
    | none => rfl

theorem validate_eq_error_iff (current : FileSystem.currentDir fs = .ok base) {e : ConfigError} :
    c.validate fs = .error e ↔ ∃ earlier check later, Check.inOrder = earlier ++ check :: later ∧
      (∀ other ∈ earlier, other.passes c fs base) ∧ check.passes c fs base = false ∧ e = check.fault c := by
  have first : c.validate fs = .error e ↔
      ∃ check, Check.firstFailing? c fs base Check.inOrder = some check ∧ e = check.fault c := by
    rw [validate_eq current]
    cases Check.firstFailing? c fs base Check.inOrder with
    | some check => simp [eq_comm]
    | none => simp
  rw [first]
  simp only [Check.firstFailing?, List.find?_eq_some_iff_append, Bool.not_eq_true', Bool.not_not]
  constructor
  · rintro ⟨check, ⟨fails, earlier, later, order, passed⟩, fault⟩
    exact ⟨earlier, check, later, order, passed, fails, fault⟩
  · rintro ⟨earlier, check, later, order, passed, fails, fault⟩
    exact ⟨check, ⟨fails, earlier, later, order, passed⟩, fault⟩

theorem Check.mem_inOrder (check : Check) : check ∈ inOrder := by
  cases check <;> decide

theorem validate_eq_ok_iff (current : FileSystem.currentDir fs = .ok base) {r : ResolvedPaths} :
    c.validate fs = .ok r ↔ (∀ check : Check, check.passes c fs base) ∧ c.resolvePaths base = r := by
  have passed : Check.firstFailing? c fs base Check.inOrder = none ↔ ∀ check : Check, check.passes c fs base := by
    simp [Check.firstFailing?, Check.mem_inOrder]
  rw [validate_eq current, ← passed]
  cases Check.firstFailing? c fs base Check.inOrder with
  | some check => simp
  | none => simp

/-! ## Resolved paths -/

/-- A configuration with resolved paths in place of its own. -/
def withPaths (c : Config) (r : ResolvedPaths) : Config :=
  { c with
    protoDir := r.protoDir, workspaceDir := r.workspaceDir, outputDir := r.outputDir, protoPaths := r.protoPaths }

theorem resolvePaths_withPaths (absolute : base.isAbsolute) :
    (c.withPaths (c.resolvePaths base)).resolvePaths base = c.resolvePaths base := by
  have again : (Path.absolutize · base) ∘ (Path.absolutize · base) = (Path.absolutize · base) :=
    funext (Path.absolutize_absolutize absolute)
  simp only [resolvePaths, withPaths, Path.absolutize_absolutize absolute, List.map_map, again]

theorem passes_withPaths (absolute : base.isAbsolute) {check : Check} (passed : check.passes c fs base) :
    check.passes (c.withPaths (c.resolvePaths base)) fs base := by
  have given (p : Path) : p.absolutize base ≠ .empty := by
    intro blank
    have rooted := Path.isAbsolute_absolutize absolute p
    rw [blank] at rooted
    cases rooted
  cases check with
  | protoDirGiven => exact decide_eq_true (given c.protoDir)
  | workspaceDirGiven => exact decide_eq_true (given c.workspaceDir)
  | outputDirGiven => exact decide_eq_true (given c.outputDir)
  | pluginsNamed | ascentLimited | timeoutPositive => exact passed
  | protoDirExists | workspaceDirExists | protoDirWithin =>
    simpa only [Check.passes, withPaths, resolvePaths, Path.absolutize_absolutize absolute] using passed

/-- Every resolved path is absolute and normal. -/
theorem canonical_resolvePaths (absolute : base.isAbsolute) {p : Path}
    (member : p ∈ (c.resolvePaths base).protoDir :: (c.resolvePaths base).workspaceDir ::
      (c.resolvePaths base).outputDir :: (c.resolvePaths base).protoPaths) : p.Canonical := by
  have resolved : ∃ q : Path, q.absolutize base = p := by
    simp only [resolvePaths, List.mem_cons, List.mem_map] at member
    rcases member with rfl | rfl | rfl | ⟨q, -, rfl⟩
    · exact ⟨_, rfl⟩
    · exact ⟨_, rfl⟩
    · exact ⟨_, rfl⟩
    · exact ⟨_, rfl⟩
  obtain ⟨q, rfl⟩ := resolved
  exact (Path.normal_absolutize q base).canonical (Path.isAbsolute_absolutize absolute q)

/-- Validation gives the configuration's paths in a form that it gives again for themselves, or else the fault of the
    first check that fails. -/
theorem validate_canonical (current : FileSystem.currentDir fs = .ok base) (absolute : base.isAbsolute) :
    (∀ r, c.validate fs = .ok r →
      c.resolvePaths base = r ∧
      (∀ p ∈ r.protoDir :: r.workspaceDir :: r.outputDir :: r.protoPaths, p.Canonical) ∧
      r.workspaceDir.components <+: r.protoDir.components ∧
      FileSystem.isDir fs r.protoDir ∧ FileSystem.isDir fs r.workspaceDir ∧
      (c.withPaths r).validate fs = .ok r) ∧
    ∀ e, c.validate fs = .error e ↔ ∃ earlier check later, Check.inOrder = earlier ++ check :: later ∧
      (∀ other ∈ earlier, other.passes c fs base) ∧ check.passes c fs base = false ∧ e = check.fault c := by
  refine ⟨fun r valid => ?_, fun e => validate_eq_error_iff current⟩
  obtain ⟨passed, rfl⟩ := (validate_eq_ok_iff current).mp valid
  refine ⟨rfl, fun p => canonical_resolvePaths absolute, ?_, passed .protoDirExists, passed .workspaceDirExists, ?_⟩
  · exact of_decide_eq_true (passed .protoDirWithin)
  · exact (validate_eq_ok_iff current).mpr
      ⟨fun check => passes_withPaths absolute (passed check), resolvePaths_withPaths absolute⟩

/-! ### Roundabout paths -/

/-- Paths that climb above the root and come back. -/
def roundabout : Config := ofPaths "./q/../../../w/./p/" "/../w//." "out/../out" ["../../../l"]

/-- The paths that these come to. -/
def straight : ResolvedPaths where
  base := .ofString "/w"
  protoDir := .ofString "/w/p"
  workspaceDir := .ofString "/w"
  outputDir := .ofString "/w/out"
  protoPaths := [.ofString "/l"]

/-- Directories the wrong way round. -/
def insideOut : Config := ofPaths "./." "q/../p" "out" []

theorem validate_canonical_pairTree :
    (∀ p ∈ [Path.ofString "/w/p", .ofString "/w", .ofString "/w/out", .ofString "/l"], p.Canonical) ∧
      (roundabout.withPaths straight).validate pairTree = .ok straight ∧
      insideOut.validate pairTree = .error (.notWithinWorkspace (.ofString "./.") (.ofString "q/../p")) := by
  have current : FileSystem.currentDir pairTree = .ok (.ofString "/w") := MemoryFiles.currentDir_ofFiles
  have protoDir : pairTree.isDir (.ofString "/w/p") := MemoryFiles.isDir_ofFiles rfl (by decide)
  have workspaceDir : pairTree.isDir (.ofString "/w") := MemoryFiles.isDir_ofFiles rfl (by decide)
  have valid : roundabout.validate pairTree = .ok straight := by
    refine (validate_eq_ok_of_currentDir current).mpr ⟨by decide, ?_, by decide⟩
    exact directoryFault?_eq_none.mpr ⟨protoDir, workspaceDir, by decide⟩
  obtain ⟨-, canonical, -, -, -, again⟩ := (validate_canonical current (by decide)).1 straight valid
  refine ⟨canonical, again, ((validate_canonical current (by decide)).2 _).mpr ?_⟩
  refine ⟨Check.plain ++ [.protoDirExists, .workspaceDirExists], .protoDirWithin, [], rfl, ?_, by decide, rfl⟩
  rw [List.forall_mem_append, List.forall_mem_cons, List.forall_mem_singleton]
  exact ⟨by decide, workspaceDir, protoDir⟩

end Config

end ProtoTree
