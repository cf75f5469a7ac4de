import ProtoTree.Proofs.Path.Ancestors
import ProtoTree.Proofs.Path.Relative

/-! # Canonical paths

A canonical path has a root or climbs some levels, and then goes down through
names. It is written in one way and is read back from that text. What a joined
path leads to depends on the canonical paths of its two sides only.
-/

namespace ProtoTree

open Text (Bytes)

open Path (slash dot)

open Component

/-- A name as it may stand between separators. -/
def PlainName (name : Bytes) : Prop :=
  name ≠ [] ∧ slash ∉ name ∧ name ≠ [dot] ∧ name ≠ [dot, dot]

theorem PlainName.ofSegment {name : Bytes} (h : PlainName name) :
    Component.ofSegment name = some (.name name) := by
  obtain ⟨filled, -, notDot, notDots⟩ := h
  rw [Component.ofSegment, if_neg (by simp [filled, notDot]), if_neg notDots]

theorem PlainName.spelled {name : Bytes} (h : PlainName name) : (Component.name name).Spelled :=
  ⟨h.2.1, h.ofSegment⟩

theorem Component.Spelled.plainName {name : Bytes} (h : (Component.name name).Spelled) :
    PlainName name := by
  refine ⟨h.bytes_ne_nil, h.1, h.bytes_ne_dot, ?_⟩
  rintro rfl
  have denotes := h.2
  simp [Component.bytes, Component.ofSegment] at denotes

/-- A path in canonical form. -/
@[ext]
structure CanonicalPath where
  absolute : Bool
  /-- The number of `..` parts. -/
  climbed : Nat
  names : List Bytes
  /-- There is nothing above the root. -/
  grounded : absolute → climbed = 0
  plain : ∀ name ∈ names, PlainName name

namespace CanonicalPath

/-- The parts behind the root. -/
def parts (f : CanonicalPath) : List Component :=
  List.replicate f.climbed .parent ++ f.names.map .name

def components (f : CanonicalPath) : List Component :=
  if f.absolute then .root :: f.parts else f.parts

/-- The parts in order, with one separator between any two of them and none at the end. -/
def bytes (f : CanonicalPath) : Bytes :=
  let written := [slash].intercalate (List.replicate f.climbed [dot, dot] ++ f.names)
  if f.absolute then slash :: written else written

def path (f : CanonicalPath) : Path := ⟨f.bytes⟩

theorem map_bytes_parts (f : CanonicalPath) :
    f.parts.map Component.bytes = List.replicate f.climbed [dot, dot] ++ f.names := by
  simp [parts, Component.bytes, Function.comp_def]

theorem names_of_map (f : CanonicalPath) : Path.Names (f.names.map .name) := by
  intro c member
  obtain ⟨name, inside, rfl⟩ := List.mem_map.mp member
  exact ⟨(f.plain name inside).spelled, rfl⟩

theorem spelled_parts (f : CanonicalPath) : ∀ c ∈ f.parts, c.Spelled := by
  refine List.forall_mem_append.mpr ⟨Path.spelled_of_mem_parents, fun c member => ?_⟩
  exact (f.names_of_map c member).1

theorem path_eq (f : CanonicalPath) : f.path = Path.ofComponents f.components := by
  cases absolute : f.absolute with
  | true => simp [path, bytes, components, absolute, Path.ofComponents, Path.joinComponents, map_bytes_parts]
  | false =>
      simp [path, bytes, components, absolute, Path.ofComponents,
        Path.joinComponents_of_spelled f.spelled_parts, map_bytes_parts]

/-- A canonical path is read back from its text. -/
@[simp] theorem components_path (f : CanonicalPath) : f.path.components = f.components := by
  rw [path_eq, components]
  split
  · exact Path.components_ofComponents_rooted f.spelled_parts
  · exact Path.components_ofComponents f.spelled_parts

theorem isAbsolute_path (f : CanonicalPath) : f.path.isAbsolute = f.absolute := by
  rw [Bool.eq_iff_iff, Path.head_components_absolute, components_path, components]
  cases f.absolute with
  | true => simp
  | false =>
      simp only [Bool.false_eq_true, if_false, iff_false]
      exact fun first => not_spelled_root (f.spelled_parts .root (List.mem_of_head? first))

theorem count_parent_parts (f : CanonicalPath) : f.parts.count .parent = f.climbed := by
  have below : Component.parent ∉ f.names.map Component.name := by simp
  rw [parts, List.count_append, List.count_replicate_self, List.count_eq_zero_of_not_mem below, Nat.add_zero]

theorem parts_injective {f g : CanonicalPath} (same : f.parts = g.parts) :
    f.climbed = g.climbed ∧ f.names = g.names := by
  have climbs : f.climbed = g.climbed := by
    rw [← count_parent_parts f, same, count_parent_parts]
  rw [parts, parts, climbs, List.append_cancel_left_eq] at same
  exact ⟨climbs, List.map_injective_iff.mpr (fun _ _ => Component.name.inj) same⟩

/-- No two canonical paths have the same components. -/
theorem components_injective {f g : CanonicalPath} (same : f.components = g.components) : f = g := by
  have roots : f.absolute = g.absolute := by
    rw [← isAbsolute_path f, ← isAbsolute_path g, Bool.eq_iff_iff, Path.head_components_absolute,
      Path.head_components_absolute, components_path, components_path, same]
  have behind : f.parts = g.parts := by
    rw [components, components, roots] at same
    split at same
    · exact (List.cons.inj same).2
    · exact same
  obtain ⟨climbs, names⟩ := parts_injective behind
  exact CanonicalPath.ext roots climbs names

/-! ## How a canonical path is written -/

theorem nil_mem_of_doubled {cs : Bytes} (doubled : [slash, slash] <:+: cs) :
    [] ∈ (cs.splitOn slash).tail := by
  obtain ⟨front, back, rfl⟩ := doubled
  rw [List.append_assoc, List.cons_append, List.singleton_append, List.splitOn_append_cons_self,
    Path.splitOn_separator_cons, List.tail_append_of_ne_nil (List.splitOn_ne_nil slash front)]
  exact List.mem_append_right _ List.mem_cons_self

theorem nil_mem_of_trailing {cs : Bytes} (trailing : cs.getLast? = some slash) :
    [] ∈ (cs.splitOn slash).tail := by
  obtain ⟨front, rfl⟩ := List.getLast?_eq_some_iff.mp trailing
  rw [List.splitOn_append_cons_self, List.tail_append_of_ne_nil (List.splitOn_ne_nil slash front)]
  exact List.mem_append_right _ List.mem_cons_self

theorem filled_written (f : CanonicalPath) :
    ∀ part ∈ List.replicate f.climbed [dot, dot] ++ f.names, part ≠ [] ∧ slash ∉ part := by
  intro part member
  rw [← map_bytes_parts] at member
  obtain ⟨c, inside, rfl⟩ := List.mem_map.mp member
  have spelled := f.spelled_parts c inside
  exact ⟨spelled.bytes_ne_nil, spelled.1⟩

/-- Behind the first separator, a canonical path has no part without characters, unless it is the root. -/
theorem nil_not_mem_segments (f : CanonicalPath) :
    f.bytes = [slash] ∨ [] ∉ (f.bytes.splitOn slash).tail := by
  have filled := f.filled_written
  rw [bytes]
  generalize List.replicate f.climbed [dot, dot] ++ f.names = written at filled
  have clean : ∀ part ∈ written, slash ∉ part := fun part member => (filled part member).2
  have apart : [] ∉ written := fun member => (filled [] member).1 rfl
  cases written with
  | nil => cases f.absolute <;> simp
  | cons part rest =>
      refine .inr fun member => ?_
      have split := List.splitOn_intercalate slash clean (List.cons_ne_nil part rest)
      cases absolute : f.absolute with
      | true =>
          simp only [absolute, if_true, Path.splitOn_separator_cons, split, List.tail_cons] at member
          exact apart member
      | false =>
          simp only [absolute, Bool.false_eq_true, if_false, split, List.tail_cons] at member
          exact apart (List.mem_cons_of_mem part member)

theorem not_doubled (f : CanonicalPath) : ¬ [slash, slash] <:+: f.bytes := by
  intro doubled
  rcases f.nil_not_mem_segments with root | apart
  · have short := doubled.length_le
    rw [root] at short
    simp at short
  · exact apart (nil_mem_of_doubled doubled)

theorem root_of_trailing (f : CanonicalPath) (trailing : f.bytes.getLast? = some slash) : f.bytes = [slash] :=
  f.nil_not_mem_segments.resolve_right fun apart => apart (nil_mem_of_trailing trailing)

/-! ## Following canonical paths -/

/-- What `f` leads to from `base`: below the root there is nothing to climb to. -/
def join (base f : CanonicalPath) : CanonicalPath :=
  if f.absolute then f
  else
    { absolute := base.absolute
      climbed := if base.absolute then 0 else base.climbed + (f.climbed - base.names.length)
      names := base.names.take (base.names.length - f.climbed) ++ f.names
      grounded := fun absolute => if_pos absolute
      plain := List.forall_mem_append.mpr
        ⟨fun name kept => base.plain name (List.mem_of_mem_take kept), f.plain⟩ }

theorem join_of_absolute {f : CanonicalPath} (h : f.absolute) (base : CanonicalPath) : base.join f = f :=
  if_pos h

theorem components_join {f : CanonicalPath} (relative : f.absolute = false) (base : CanonicalPath) :
    (base.join f).components =
      (if base.absolute then [.root]
        else List.replicate (base.climbed + (f.climbed - base.names.length)) .parent) ++
      ((base.names.map .name).take (base.names.length - f.climbed) ++ f.names.map .name) := by
  rw [join, if_neg (by simp [relative])]
  simp only [components, parts]
  split
  · simp
  · simp

end CanonicalPath

namespace Path

open Trail CanonicalPath

/-- The canonical path of a spelled one. -/
def canonical (p : Path) : CanonicalPath where
  absolute := p.isAbsolute
  climbed := if p.isAbsolute then 0 else (along p.body).climbed
  names := (along p.body).names.reverse.map Component.bytes
  grounded := fun absolute => if_pos absolute
  plain := by
    intro name member
    obtain ⟨c, inside, rfl⟩ := List.mem_map.mp member
    have name := mem_names (List.mem_reverse.mp inside)
    cases c with
    | name cs => exact (spelled_of_mem_body name.1).plainName
    | root | current | parent => cases name.2

theorem map_name_canonical (p : Path) :
    p.canonical.names.map Component.name = (along p.body).names.reverse := by
  rw [canonical, List.map_map]
  refine (List.map_congr_left fun c member => ?_).trans (List.map_id _)
  have named := isName_of_mem_reverse p.body c member
  cases c with
  | name cs => rfl
  | root | current | parent => cases named

theorem components_canonical (p : Path) : p.canonical.components = p.stack.reverse := by
  rw [CanonicalPath.components, CanonicalPath.parts, map_name_canonical]
  cases absolute : p.isAbsolute with
  | true => simp [canonical, absolute, stack_of_absolute absolute]
  | false => simp [canonical, absolute, stack_of_relative absolute]

/-- The normal form is the canonical path, written out. -/
theorem normalize_eq_path (p : Path) : p.normalize = p.canonical.path := by
  rw [normalize_eq, ← components_canonical, path_eq]

theorem canonical_eq_iff {p q : Path} : p.canonical = q.canonical ↔ p.normalize = q.normalize := by
  rw [normalize_eq_iff, ← List.reverse_inj, ← components_canonical, ← components_canonical]
  exact ⟨congrArg CanonicalPath.components, CanonicalPath.components_injective⟩

theorem climbed_canonical {p : Path} (relative : p.isAbsolute = false) :
    p.canonical.climbed = (along p.body).climbed :=
  if_neg (by simp [relative])

theorem length_names_canonical (p : Path) : p.canonical.names.length = (along p.body).names.length := by
  rw [canonical, List.length_map, List.length_reverse]

/-- The canonical path of a joined path is what the one side leads to from the other. -/
theorem canonical_join (base p : Path) : (base.join p).canonical = base.canonical.join p.canonical := by
  cases rooted : p.isAbsolute with
  | true =>
      have replaced : base.join p = p := by simp [Path.join, rooted]
      rw [replaced, CanonicalPath.join_of_absolute rooted]
  | false =>
      have free : ∀ c ∈ p.body, c ≠ .root := fun c => ne_root_of_mem_body
      have named : ∀ c ∈ (along base.body).names, c.isName := fun c member => (mem_names member).2
      have relative : p.canonical.absolute = false := rooted
      apply components_injective
      rw [components_canonical, stack_join rooted, CanonicalPath.components_join relative, map_name_canonical,
        map_name_canonical, climbed_canonical rooted, length_names_canonical]
      cases top : base.isAbsolute with
      | true =>
          have absolute : base.canonical.absolute = true := top
          rw [stack_of_absolute top, foldl_push_rooted free named, if_pos absolute]
          simp [List.reverse_drop]
      | false =>
          have climbing : base.canonical.absolute = false := top
          have sinks (depth : Nat) :
              push (List.replicate ((along base.body).climbed + depth) .parent) .parent =
                List.replicate ((along base.body).climbed + (depth + 1)) .parent := by
            rw [← Nat.add_assoc]
            cases (along base.body).climbed + depth <;> rfl
          have followed := foldl_push_floor sinks free named
          rw [Nat.add_zero] at followed
          rw [stack_of_relative top, followed, if_neg (by simp [climbing]), climbed_canonical top]
          simp [List.reverse_drop]

@[simp] theorem canonical_path (f : CanonicalPath) : f.path.canonical = f := by
  have reduced : isReduced f.path.components := by
    have named : ∀ c ∈ f.names.map Component.name, c.isName := fun c member => (f.names_of_map c member).2
    have climbing : climbs f.parts := climbs_replicate_append named f.climbed
    rw [components_path, CanonicalPath.components]
    split
    · next absolute =>
        rw [CanonicalPath.parts, f.grounded absolute]
        simpa [isReduced] using named
    · exact isReduced_of_climbs climbing
  apply components_injective
  rw [components_canonical, stack_of_isReduced reduced, List.reverse_reverse, components_path]

end Path

end ProtoTree
