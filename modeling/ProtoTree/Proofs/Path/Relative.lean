import ProtoTree.Proofs.Path.Normalization

/-! # Relative paths

What is left of a path below a directory leads back to the path when it is
taken from that directory, and names joined to a directory are what is left
below it. Names put behind the components of a normal directory leave nothing
to work off.
-/

namespace ProtoTree

open Text (Bytes)

namespace Path

open Component

theorem relativeTo?_eq_some {p base rest : Path} :
    p.relativeTo? base = some rest ↔
      ∃ parts, p.components = base.components ++ parts ∧ rest = ofComponents parts := by
  rw [relativeTo?, Option.map_eq_some_iff]
  refine exists_congr fun parts => ?_
  rw [List.isPrefixOf?_eq_some_iff_append_eq, eq_comm, @eq_comm _ rest]

theorem isUnder_iff {p root : Path} : p.isUnder root ↔ root.components <+: p.components :=
  List.isPrefixOf_iff_prefix

/-- Something is left of a path below a directory just when it lies there. -/
theorem isSome_relativeTo? (p root : Path) : (p.relativeTo? root).isSome = p.isUnder root := by
  rw [relativeTo?, Option.isSome_map, List.isSome_isPrefixOf?_eq_isPrefixOf, isUnder]

theorem isAbsolute_of_isUnder {p root : Path} (absolute : root.isAbsolute) (under : p.isUnder root) :
    p.isAbsolute := by
  obtain ⟨parts, split⟩ := isUnder_iff.mp under
  rw [head_components_absolute, ← split, components_of_absolute absolute]
  rfl

theorem isUnder_join {base p : Path} (absolute : base.isAbsolute) (relative : p.isAbsolute = false) :
    (base.join p).isUnder base := by
  have rooted : (base.join p).isAbsolute := by rw [isAbsolute_join, absolute, Bool.true_or]
  rw [isUnder_iff, components_of_absolute rooted, components_of_absolute absolute, body_join relative]
  exact List.prefix_append (.root :: base.body) p.body

theorem isAbsolute_ofComponents {parts : List Component} (spelled : ∀ c ∈ parts, c.Spelled) :
    (ofComponents parts).isAbsolute = false := by
  rw [Bool.eq_false_iff, Ne, head_components_absolute, components_ofComponents spelled]
  exact fun first => not_spelled_root (spelled .root (List.mem_of_head? first))

theorem lead_ofComponents {parts : List Component} (spelled : ∀ c ∈ parts, c.Spelled) :
    (ofComponents parts).lead = [] := by
  rcases lead_of_relative (isAbsolute_ofComponents spelled) with bare | dot
  · exact bare
  · have whole := components_ofComponents spelled
    rw [components, dot] at whole
    have current : Component.current ∈ parts := whole ▸ List.mem_cons_self
    exact absurd (spelled .current current) not_spelled_current

theorem body_ofComponents {parts : List Component} (spelled : ∀ c ∈ parts, c.Spelled) :
    (ofComponents parts).body = parts := by
  have whole := components_ofComponents spelled
  rwa [components, lead_ofComponents spelled] at whole

/-- Behind an absolute directory, a normal path goes on through names only. -/
theorem Normal.names_of_append {p base : Path} (normal : p.Normal) (absolute : base.isAbsolute)
    {parts : List Component} (split : p.components = base.components ++ parts) :
    ∀ c ∈ parts, c.Spelled ∧ c.isName := by
  have under : p.isAbsolute :=
    isAbsolute_of_isUnder absolute (isUnder_iff.mpr ⟨parts, split.symm⟩)
  have inside : p.body = base.body ++ parts := by
    rw [components_of_absolute under, components_of_absolute absolute] at split
    exact (List.cons.inj split).2
  have reduced := normal.1
  rw [components_of_absolute under, inside] at reduced
  simp only [isReduced, List.all_append, Bool.and_eq_true, List.all_eq_true] at reduced
  intro c member
  exact ⟨spelled_of_mem_body (inside ▸ List.mem_append_right base.body member), reduced.2 c member⟩

/-- What is left of a path below a directory, taken from the directory, is the path again. -/
theorem absolutize_relativeTo {p base rest : Path} (normal : p.Normal) (baseNormal : base.Normal)
    (absolute : base.isAbsolute) (h : p.relativeTo? base = some rest) : rest.absolutize base = p := by
  obtain ⟨parts, split, rfl⟩ := relativeTo?_eq_some.mp h
  have names := normal.names_of_append absolute split
  have spelled : ∀ c ∈ parts, c.Spelled := fun c member => (names c member).1
  have named : ∀ c ∈ parts, c.isName := fun c member => (names c member).2
  have relative := isAbsolute_ofComponents spelled
  have followed : (base.join (ofComponents parts)).stack = p.components.reverse := by
    rw [stack_join relative, body_ofComponents spelled, foldl_push_names named,
      stack_of_isReduced baseNormal.1, split, List.reverse_append]
  rw [absolutize, if_neg (by simp [relative]), normalize_eq, followed, List.reverse_reverse]
  exact normal.2.symm

theorem climbs_append {parts names : List Component} (h : climbs parts)
    (named : ∀ c ∈ names, c.isName) : climbs (parts ++ names) := by
  induction parts with
  | nil => exact climbs_replicate_append named 0
  | cons c parts ih =>
      cases c with
      | parent => exact ih h
      | root | current => simp [climbs, isName] at h
      | name cs =>
          simp only [climbs, List.cons_append, List.all_cons, List.all_append, Bool.and_eq_true,
            List.all_eq_true] at h ⊢
          exact ⟨h.1, h.2, named⟩

/-- Going down through names leaves nothing to work off. -/
theorem isReduced_append {parts names : List Component} (h : isReduced parts)
    (named : ∀ c ∈ names, c.isName) : isReduced (parts ++ names) := by
  cases parts with
  | nil => exact isReduced_of_climbs (climbs_append rfl named)
  | cons c parts =>
      cases c with
      | root =>
          simp only [isReduced, List.cons_append, List.all_append, Bool.and_eq_true,
            List.all_eq_true] at h ⊢
          exact ⟨h, named⟩
      | current | parent | name => exact isReduced_of_climbs (climbs_append h named)

theorem components_normalize_of_isReduced {p : Path} (h : isReduced p.components) :
    p.normalize.components = p.components := by
  rw [components_normalize, stack_of_isReduced h, List.reverse_reverse]

/-! ## What is left, joined back -/

theorem spelled_of_mem_tail {p : Path} {c : Component} (member : c ∈ p.components.tail) : c.Spelled := by
  cases rooted : p.isAbsolute with
  | true =>
      rw [components_of_absolute rooted, List.tail_cons] at member
      exact spelled_of_mem_body member
  | false =>
      rcases lead_of_relative rooted with bare | dot
      · rw [components, bare, List.nil_append] at member
        exact spelled_of_mem_body (List.mem_of_mem_tail member)
      · rw [components, dot, List.singleton_append, List.tail_cons] at member
        exact spelled_of_mem_body member

/-- Only the path without characters has no components. -/
theorem eq_empty_of_components {p : Path} (none : p.components = []) : p = empty := by
  obtain ⟨bare, blank⟩ := List.append_eq_nil_iff.mp none
  obtain ⟨cs⟩ := p
  cases cs with
  | nil => rfl
  | cons c cs =>
      obtain ⟨part, rest, split⟩ := List.exists_cons_of_ne_nil (List.splitOn_ne_nil slash (c :: cs))
      have whole : [slash].intercalate ((c :: cs).splitOn slash) = c :: cs := List.intercalate_splitOn slash
      rw [split] at whole
      rw [segments, split] at blank
      have first := ofSegment_eq_none.mp (List.filterMap_eq_nil_iff.mp blank part List.mem_cons_self)
      -- the first part stands behind a root if it is empty, and is a leading dot otherwise
      exfalso
      cases rest with
      | nil =>
          rw [List.intercalate_singleton] at whole
          rcases first with rfl | rfl
          · cases whole
          · rw [← whole] at bare
            cases bare
      | cons next rest =>
          rw [List.intercalate_cons_cons] at whole
          rcases first with rfl | rfl
          · rw [← whole] at bare
            cases bare
          · rw [← whole] at bare
            cases bare

theorem empty_join (p : Path) : empty.join p = p := by
  rw [join]
  split
  · rfl
  · rfl

/-- What stands before all named parts is told from two bytes. -/
theorem lead_append {c : UInt8} {cs : Bytes} (filled : cs ≠ []) (more : Bytes) :
    (⟨c :: (cs ++ more)⟩ : Path).lead = (⟨c :: cs⟩ : Path).lead := by
  have inner : cs ++ more ≠ [] := by simp [filled]
  simp only [lead, filled, inner, false_or, List.head?_append_of_ne_nil _ filled]

theorem lead_join {base p : Path} (filled : base ≠ empty) (relative : p.isAbsolute = false) :
    (base.join p).lead = base.lead := by
  obtain ⟨cs⟩ := base
  rw [join, if_neg (by simp [relative])]
  cases cs with
  | nil => exact absurd rfl filled
  | cons c cs =>
      cases cs with
      | cons d cs =>
          have rest : d :: cs ≠ [] := List.cons_ne_nil d cs
          split
          · rw [List.cons_append, lead_append rest]
          · rw [List.cons_append, lead_append rest]
      | nil =>
          split
          · next closed =>
              have closed : c = slash := by simpa [isEmpty] using closed
              subst closed
              rfl
          · simp [lead]

/-- A path without a leading root or `.` adds its components to those of the directory. -/
theorem components_join {base p : Path} (bare : p.lead = []) :
    (base.join p).components = base.components ++ p.components := by
  by_cases blank : base = empty
  · rw [blank, empty_join]
    rfl
  · have relative : p.isAbsolute = false := by
      rw [Bool.eq_false_iff]
      intro absolute
      rw [lead_of_absolute absolute] at bare
      cases bare
    have inner : (base.join p).body = base.body ++ p.body := body_join relative
    rw [body, body, body] at inner
    rw [components, lead_join blank relative, inner, components, components, bare, List.nil_append,
      List.append_assoc]

theorem lead_of_names {p : Path} (named : ∀ c ∈ p.components, c.isName) : p.lead = [] := by
  have leading : ∀ c ∈ p.lead, c.isName := fun c member => named c (List.mem_append_left _ member)
  cases rooted : p.isAbsolute with
  | true =>
      rw [lead_of_absolute rooted] at leading
      cases leading .root (List.mem_singleton_self _)
  | false =>
      refine (lead_of_relative rooted).resolve_right fun dot => ?_
      rw [dot] at leading
      cases leading .current (List.mem_singleton_self _)

theorem components_join_of_relativeTo? {p base rest : Path} (left : p.relativeTo? base = some rest) :
    (base.join rest).components = p.components := by
  obtain ⟨parts, split, rfl⟩ := relativeTo?_eq_some.mp left
  cases above : base.components with
  | nil =>
      rw [above, List.nil_append] at split
      rw [eq_empty_of_components above, empty_join, ← split, components_ofComponents_components]
  | cons c cs =>
      have spelled : ∀ d ∈ parts, d.Spelled := by
        intro d member
        refine spelled_of_mem_tail (p := p) ?_
        rw [split, above, List.cons_append, List.tail_cons]
        exact List.mem_append_right cs member
      rw [components_join (lead_ofComponents spelled), components_ofComponents spelled, split]

theorem relativeTo?_join {base p : Path} (bare : p.lead = []) :
    (base.join p).relativeTo? base = some (ofComponents p.components) :=
  relativeTo?_eq_some.mpr ⟨p.components, components_join bare, rfl⟩

/-- Something is left of a path below a base just when the base's components come first in it, and joined to the base
    it has the components of the path again. Below any base, what is left of names that were joined to it are these
    names. -/
theorem relativeTo?_inverts_join (p base : Path) :
    ((p.relativeTo? base).isSome ↔ base.components <+: p.components) ∧
      (∀ rest, p.relativeTo? base = some rest → (base.join rest).components = p.components) ∧
      ∀ r : Path, (∀ c ∈ r.components, c.isName) →
        ∃ rest, (base.join r).relativeTo? base = some rest ∧ rest.components = r.components := by
  refine ⟨?_, fun rest => components_join_of_relativeTo?, fun r named => ?_⟩
  · rw [isSome_relativeTo?, isUnder_iff]
  · exact ⟨_, relativeTo?_join (lead_of_names named), components_ofComponents_components r⟩

/-- A path is left below a directory that is spelled otherwise and not below one whose name it continues. -/
theorem relativeTo?_inverts_join_spelled :
    ((ofString "/a//b/./c/").relativeTo? (ofString "/a/./b")).isSome ∧
      ((ofString "/a.b/c").relativeTo? (ofString "/a")).isSome = false ∧
      ((ofString "/a/./b").join (ofString "c")).components = (ofString "/a//b/./c/").components ∧
      ∃ rest, ((ofString "/").join (ofString "x//y/.")).relativeTo? (ofString "/") = some rest ∧
        rest.components = (ofString "x//y/.").components := by
  obtain ⟨under, joined, -⟩ := relativeTo?_inverts_join (ofString "/a//b/./c/") (ofString "/a/./b")
  obtain ⟨beside, -⟩ := relativeTo?_inverts_join (ofString "/a.b/c") (ofString "/a")
  refine ⟨under.mpr (by decide), ?_, joined (ofString "c") (by decide), ?_⟩
  · rw [Bool.eq_false_iff]
    exact fun some => absurd (beside.mp some) (by decide)
  · exact (relativeTo?_inverts_join (ofString "/") (ofString "/")).2.2 (ofString "x//y/.") (by decide)

end Path

end ProtoTree
