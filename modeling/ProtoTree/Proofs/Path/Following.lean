import ProtoTree.Proofs.Path.Canonical

/-! # Following a path on its text

A path can be followed part by part on a text that is read anew for every part.
The text stays that of a canonical path, so this comes to the normal form.
-/

namespace ProtoTree

open Text (Bytes)

namespace Path

open Component

/-- Adds a component to a path that is kept as a text. What the text ends in is read anew each time. -/
def follow (out : Path) : Component → Path
  | .current => out
  | .parent =>
    if out.fileName?.isSome then out.parent?.getD out
    else if out.isAbsolute then out
    else out.join ⟨Component.parent.bytes⟩
  | part => out.join ⟨part.bytes⟩

theorem intercalate_concat {separator : Bytes} {written : List Bytes} (filled : written ≠ [])
    (part : Bytes) :
    separator.intercalate (written ++ [part]) = separator.intercalate written ++ (separator ++ part) := by
  induction written with
  | nil => exact absurd rfl filled
  | cons first rest ih =>
      cases rest with
      | nil => simp
      | cons next rest =>
          rw [List.cons_append, List.cons_append, List.intercalate_cons_cons, ← List.cons_append,
            ih (List.cons_ne_nil next rest), List.intercalate_cons_cons, ← List.append_assoc]

theorem parent?_ofComponents {parts : List Component} (h : ∀ c ∈ parts, c.Spelled) (filled : parts ≠ []) :
    (ofComponents parts).parent? = some (ofComponents parts.dropLast) := by
  have written : parts.map Component.bytes ≠ [] := by simpa using filled
  have cut : (ofComponents parts).segments = parts.map Component.bytes := by
    rw [segments, ofComponents, joinComponents_of_spelled h, List.splitOn_intercalate slash (clean_bytes h) written]
  have bare : (ofComponents parts).lead = [] := by
    obtain ⟨c, rest, rfl⟩ := List.exists_cons_of_ne_nil filled
    have spelled := h c List.mem_cons_self
    rw [ofComponents, joinComponents_of_spelled h, List.map_cons,
      lead_intercalate spelled.1 spelled.bytes_ne_nil spelled.bytes_ne_dot]
  have above : ∀ c ∈ parts.dropLast, c.Spelled := fun c member => h c (parts.dropLast_subset member)
  simp only [parent?, bare, cut, trimSegments_bytes h, if_neg written, dropLastSegment_bytes h]
  rw [ofComponents, joinComponents_of_spelled above]

end Path

namespace CanonicalPath

open Component ProtoTree.Path

theorem join_bytes (f : CanonicalPath) {c : Component} (spelled : c.Spelled) :
    f.path.join ⟨c.bytes⟩ = ofComponents (f.components ++ [c]) := by
  have relative : (⟨c.bytes⟩ : Path).isAbsolute = false := by
    rw [isAbsolute, beq_eq_false_iff_ne]
    exact fun first => spelled.1 (List.mem_of_head? first)
  rw [Path.join, if_neg (by simp [relative]), path]
  by_cases bare : f.parts = []
  · have written := f.map_bytes_parts
    rw [bare, List.map_nil] at written
    cases absolute : f.absolute with
    | true => simp [bytes, components, bare, absolute, ← written, ofComponents, joinComponents]
    | false =>
        simp [bytes, components, bare, absolute, ← written, ofComponents, isEmpty,
          joinComponents_of_ne_root spelled.ne_root]
  · have unended : ¬ ((⟨f.bytes⟩ : Path).isEmpty ∨ f.bytes.getLast? = some slash) := by
      have back := f.components_path
      rintro (blank | trailing)
      · have none : f.bytes = [] := List.isEmpty_iff.mp blank
        rw [path, none, components] at back
        split at back
        · cases back
        · exact bare back.symm
      · rw [path, f.root_of_trailing trailing, components] at back
        split at back
        · exact bare (List.cons.inj back).2.symm
        · exact not_spelled_root (f.spelled_parts .root (back ▸ List.mem_cons_self))
    have filled : f.parts.map Component.bytes ≠ [] := by simpa using bare
    have added : [slash].intercalate (f.parts.map Component.bytes ++ [c.bytes]) =
        [slash].intercalate (f.parts.map Component.bytes) ++ ([slash] ++ c.bytes) := intercalate_concat filled c.bytes
    rw [if_neg unended]
    cases absolute : f.absolute with
    | true =>
        simp only [bytes, components, absolute, if_true, ← map_bytes_parts, ofComponents, joinComponents,
          List.cons_append, List.map_append, List.map_cons, List.map_nil, added, List.nil_append]
    | false =>
        have spelledAll : ∀ d ∈ f.parts ++ [c], d.Spelled :=
          List.forall_mem_append.mpr ⟨f.spelled_parts, List.forall_mem_singleton.mpr spelled⟩
        simp only [bytes, components, absolute, Bool.false_eq_true, if_false, ← map_bytes_parts, ofComponents,
          joinComponents_of_spelled spelledAll, List.map_append, List.map_cons, List.map_nil, added,
          List.cons_append, List.nil_append]

/-- Goes down to a name. -/
def enter (f : CanonicalPath) (name : Bytes) (plain : PlainName name) : CanonicalPath where
  absolute := f.absolute
  climbed := f.climbed
  names := f.names ++ [name]
  grounded := f.grounded
  plain := List.forall_mem_append.mpr ⟨f.plain, List.forall_mem_singleton.mpr plain⟩

theorem parts_enter (f : CanonicalPath) {name : Bytes} (plain : PlainName name) :
    (f.enter name plain).parts = f.parts ++ [.name name] := by
  simp [parts, enter]

theorem components_enter (f : CanonicalPath) {name : Bytes} (plain : PlainName name) :
    (f.enter name plain).components = f.components ++ [.name name] := by
  have rooted : (f.enter name plain).absolute = f.absolute := rfl
  rw [components, components, parts_enter, rooted]
  split
  · rfl
  · rfl

/-- Goes down to a name and comes back. -/
theorem parent?_enter (f : CanonicalPath) {name : Bytes} (plain : PlainName name) :
    (f.enter name plain).path.parent? = some f.path := by
  rw [path_eq, path_eq, components_enter, components]
  split
  · next absolute =>
      have named := (f.enter name plain).names_of_map
      rw [enter, List.map_append, List.map_singleton] at named
      have up := parent?_rooted named (by simp)
      rw [List.dropLast_concat] at up
      rw [parts, f.grounded absolute]
      exact up
  · have spelled := (f.enter name plain).spelled_parts
    rw [parts_enter] at spelled
    have up := parent?_ofComponents spelled (by simp)
    rwa [List.dropLast_concat] at up

theorem fileName?_enter (f : CanonicalPath) {name : Bytes} (plain : PlainName name) :
    (f.enter name plain).path.fileName? = some name := by
  rw [fileName?_eq_some, components_path, components_enter]
  exact ⟨f.components, rfl⟩

theorem fileName?_of_unnamed {f : CanonicalPath} (unnamed : f.names = []) : f.path.fileName? = none := by
  rw [Option.eq_none_iff_forall_ne_some]
  intro name named
  obtain ⟨front, split⟩ := fileName?_eq_some.mp named
  have member : Component.name name ∈ f.components := by
    rw [← components_path, split]
    simp
  simp only [components, parts, unnamed, List.map_nil, List.append_nil] at member
  split at member
  · simp at member
  · simp at member

/-- Climbs one level. -/
def up (f : CanonicalPath) : CanonicalPath where
  absolute := f.absolute
  climbed := if f.absolute ∨ f.names ≠ [] then f.climbed else f.climbed + 1
  names := f.names.dropLast
  grounded := fun absolute => (if_pos (.inl absolute)).trans (f.grounded absolute)
  plain := fun name member => f.plain name (f.names.dropLast_subset member)

theorem exists_enter_of_named {f : CanonicalPath} (named : f.names ≠ []) :
    ∃ name, ∃ plain : PlainName name, f = f.up.enter name plain := by
  refine ⟨f.names.getLast named, f.plain _ (List.getLast_mem named), CanonicalPath.ext rfl ?_ ?_⟩
  · exact (if_pos (.inr named)).symm
  · exact (List.dropLast_append_getLast named).symm

theorem components_up_of_unnamed {f : CanonicalPath} (unnamed : f.names = []) :
    f.up.components = if f.absolute then f.components else f.components ++ [.parent] := by
  cases absolute : f.absolute with
  | true => simp [components, parts, up, absolute, unnamed]
  | false => simp [components, parts, up, absolute, unnamed, List.replicate_succ']

theorem follow_parent (f : CanonicalPath) : f.path.follow .parent = f.up.path := by
  rw [follow]
  by_cases unnamed : f.names = []
  · have shown := components_up_of_unnamed unnamed
    rw [fileName?_of_unnamed unnamed, Option.isSome_none, if_neg Bool.false_ne_true, isAbsolute_path]
    split
    · next absolute =>
        rw [if_pos absolute] at shown
        rw [components_injective shown]
    · next relative =>
        rw [if_neg relative] at shown
        rw [f.join_bytes spelled_parent, ← shown, path_eq]
  · obtain ⟨name, plain, entered⟩ := exists_enter_of_named unnamed
    have named := f.up.fileName?_enter plain
    have above := f.up.parent?_enter plain
    rw [← entered] at named above
    rw [named, Option.isSome_some, if_pos rfl, above, Option.getD_some]

theorem follow_name (f : CanonicalPath) {name : Bytes} (plain : PlainName name) :
    f.path.follow (.name name) = (f.enter name plain).path := by
  rw [(f.enter name plain).path_eq, components_enter]
  exact f.join_bytes plain.spelled

theorem push_up (f : CanonicalPath) : push f.components.reverse .parent = f.up.components.reverse := by
  by_cases unnamed : f.names = []
  · rw [components_up_of_unnamed unnamed]
    cases absolute : f.absolute with
    | true => simp [components, parts, absolute, unnamed, f.grounded absolute, push]
    | false =>
        rw [if_neg Bool.false_ne_true, List.reverse_concat]
        simp only [components, parts, absolute, unnamed, Bool.false_eq_true, if_false, List.map_nil,
          List.append_nil, List.reverse_replicate]
        cases f.climbed <;> rfl
  · obtain ⟨name, plain, entered⟩ := exists_enter_of_named unnamed
    rw [entered, components_enter, List.reverse_concat, ← entered]
    rfl

/-- Following a part on the text of a canonical path leads to a canonical path. -/
theorem follow_path (f : CanonicalPath) {c : Component} (spelled : c.Spelled) :
    ∃ g : CanonicalPath, f.path.follow c = g.path ∧ push f.components.reverse c = g.components.reverse := by
  cases c with
  | root => exact absurd spelled not_spelled_root
  | current => exact absurd spelled not_spelled_current
  | parent => exact ⟨f.up, f.follow_parent, f.push_up⟩
  | name cs =>
      refine ⟨f.enter cs spelled.plainName, f.follow_name spelled.plainName, ?_⟩
      rw [components_enter, List.reverse_concat]
      rfl

theorem foldl_follow_path (f : CanonicalPath) {parts : List Component} (spelled : ∀ c ∈ parts, c.Spelled) :
    ∃ g : CanonicalPath, parts.foldl Path.follow f.path = g.path ∧
      parts.foldl push f.components.reverse = g.components.reverse := by
  induction parts generalizing f with
  | nil => exact ⟨f, rfl, rfl⟩
  | cons c parts ih =>
      obtain ⟨next, followed, pushed⟩ := f.follow_path (spelled c List.mem_cons_self)
      rw [List.foldl_cons, List.foldl_cons, followed, pushed]
      exact ih next fun d member => spelled d (List.mem_cons_of_mem c member)

end CanonicalPath

namespace Path

open CanonicalPath

/-- Following a path on its text, part by part, comes to its normal form. -/
theorem foldl_follow_components (p : Path) : p.components.foldl follow empty = p.normalize := by
  have spelled : ∀ c ∈ p.body, c.Spelled := fun c => spelled_of_mem_body
  have start (f : CanonicalPath) (stacked : p.stack = p.body.foldl push f.components.reverse) :
      p.body.foldl follow f.path = p.normalize := by
    obtain ⟨g, followed, pushed⟩ := f.foldl_follow_path spelled
    rw [followed, normalize_eq, stacked, pushed, List.reverse_reverse, path_eq]
  cases rooted : p.isAbsolute with
  | true =>
      have parts := components_of_absolute rooted
      rw [parts, List.foldl_cons]
      refine start ⟨true, 0, [], fun _ => rfl, by simp⟩ ?_
      rw [stack, parts, List.foldl_cons]
      rfl
  | false =>
      have stacked := foldl_push_components_of_relative rooted []
      have begun := start ⟨false, 0, [], fun _ => rfl, by simp⟩ stacked
      rcases lead_of_relative rooted with bare | dot
      · rw [components, bare]
        exact begun
      · rw [components, dot]
        exact begun

/-! ## Canonical and compositional -/

theorem normalize_join_up (p : Path) :
    ((ofString "/..").join p).normalize = ((ofString "/").join p).normalize := by
  have top : (ofString "/..").normalize = (ofString "/").normalize := by decide
  rw [← normalize_join_normalize, top, normalize_join_normalize]

theorem components_normalize_up_join (p : Path) :
    ((ofString "..").join p).normalize.components =
      if p.isAbsolute then p.normalize.components else .parent :: p.normalize.components := by
  have up : (ofString "..").canonical = ⟨false, 1, [], by simp, by simp⟩ := CanonicalPath.ext rfl rfl rfl
  rw [normalize_eq_path, normalize_eq_path, canonical_join, components_path, components_path, up]
  split
  · next absolute => rw [CanonicalPath.join_of_absolute absolute]
  · next relative =>
      have climbing : p.canonical.absolute = false := Bool.eq_false_iff.mpr relative
      rw [CanonicalPath.components_join climbing, CanonicalPath.components, climbing]
      simp [CanonicalPath.parts, Nat.add_comm 1, List.replicate_succ]

/-- The normal form of a path is its canonical path in writing, without a separator that is doubled or at the end,
    except for the root itself, and following the parts of the path on the text comes to it. A directory may be
    normalized before a path is joined to it, and a normal form is its own. Climbing above the root is dropped, and
    climbing at the start of a relative path is kept. -/
theorem normalize_canonical (b p : Path) :
    (p.normalize = p.canonical.path ∧ p.normalize.components = p.canonical.components ∧
        p.canonical.absolute = p.isAbsolute) ∧
      (¬ [slash, slash] <:+: p.normalize.bytes ∧
        (p.normalize.bytes = [slash] ∨ p.normalize.bytes.getLast? ≠ some slash)) ∧
      p.components.foldl follow empty = p.normalize ∧
      (b.normalize.join p).normalize.bytes = (b.join p).normalize.bytes ∧
      p.normalize.normalize.bytes = p.normalize.bytes ∧
      (b.join p).normalize = (b.canonical.join p.canonical).path ∧
      ((ofString "/..").join p).normalize = ((ofString "/").join p).normalize ∧
      ((ofString "..").join p).normalize.components =
        if p.isAbsolute then p.normalize.components else .parent :: p.normalize.components := by
  have shape := normalize_eq_path p
  refine ⟨⟨shape, by rw [shape, components_path], rfl⟩, ⟨?_, ?_⟩, foldl_follow_components p, ?_, ?_, ?_,
    normalize_join_up p, components_normalize_up_join p⟩
  · rw [shape]
    exact p.canonical.not_doubled
  · rw [shape]
    exact or_iff_not_imp_right.mpr fun ends => p.canonical.root_of_trailing (not_not.mp ends)
  · rw [normalize_join_normalize]
  · rw [normalize_normalize]
  · rw [normalize_eq_path, canonical_join]

example : ((ofString "/a/..").join (ofString "../b/./c//../d/")).normalize = ofString "/b/d" := by decide

end Path

end ProtoTree
