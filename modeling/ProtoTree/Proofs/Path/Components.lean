import Mathlib.Data.List.DropRight
import ProtoTree.Path.Normal
import ProtoTree.Proofs.Text.Repaired

/-! # Components of spelled paths

A path is read through its parts between separators. The parts that denote a
component survive joining, and a list of such components is read back from its
plainest spelling.
-/

namespace ProtoTree

open Text (Bytes)

namespace Component

open Path (slash dot)

/-- A component that stands between separators: `..` or a name. -/
def Spelled (c : Component) : Prop := slash ∉ c.bytes ∧ ofSegment c.bytes = some c

theorem bytes_of_ofSegment {segment : Bytes} {c : Component}
    (h : ofSegment segment = some c) : c.bytes = segment := by
  simp only [ofSegment] at h
  split at h
  · cases h
  · split at h
    · next dots => cases h; exact dots.symm
    · cases h; rfl

theorem Spelled.of_segment {segment : Bytes} {c : Component} (clean : slash ∉ segment)
    (h : ofSegment segment = some c) : c.Spelled := by
  have same := bytes_of_ofSegment h
  exact ⟨same ▸ clean, same.symm ▸ h⟩

theorem Spelled.bytes_ne_nil {c : Component} (h : c.Spelled) : c.bytes ≠ [] := by
  intro blank
  have := h.2
  simp [blank, ofSegment] at this

theorem Spelled.bytes_ne_dot {c : Component} (h : c.Spelled) : c.bytes ≠ [dot] := by
  intro same
  have := h.2
  simp [same, ofSegment] at this

theorem not_spelled_root : ¬ Component.root.Spelled := fun h => h.1 (by simp [bytes])

theorem not_spelled_current : ¬ Component.current.Spelled := fun h => absurd h.2 (by decide)

theorem Spelled.ne_root {c : Component} (h : c.Spelled) : c ≠ .root := fun same => not_spelled_root (same ▸ h)

theorem spelled_parent : Component.parent.Spelled := ⟨by simp [bytes], rfl⟩

theorem ofSegment_eq_none {segment : Bytes} : ofSegment segment = none ↔ segment = [] ∨ segment = [dot] := by
  rw [ofSegment]
  split
  · next blank => simp [blank]
  · next filled =>
      simp only [filled, iff_false]
      split
      · exact Option.some_ne_none _
      · exact Option.some_ne_none _

end Component

namespace Path

open Component

theorem splitOn_separator_cons (cs : Bytes) : (slash :: cs).splitOn slash = [] :: cs.splitOn slash :=
  List.splitOn_append_cons_self [] cs

/-- The components of a path behind its leading root or `.`. -/
def body (p : Path) : List Component := p.segments.filterMap ofSegment

theorem spelled_of_mem_body {p : Path} {c : Component} (h : c ∈ p.body) : c.Spelled := by
  obtain ⟨segment, member, denotes⟩ := List.mem_filterMap.mp h
  exact .of_segment (Text.not_mem_of_mem_splitOn member) denotes

theorem lead_of_absolute {p : Path} (h : p.isAbsolute) : p.lead = [.root] := by
  obtain ⟨cs⟩ := p
  cases cs with
  | nil => simp [isAbsolute] at h
  | cons c cs =>
      have closed : c = slash := by simpa [isAbsolute] using h
      subst closed
      rfl

theorem lead_of_relative {p : Path} (h : p.isAbsolute = false) :
    p.lead = [] ∨ p.lead = [.current] := by
  obtain ⟨bytes⟩ := p
  cases bytes with
  | nil => exact .inl rfl
  | cons first rest =>
      simp only [lead]
      split
      · next closed => simp [isAbsolute, closed] at h
      · split
        · exact .inr rfl
        · exact .inl rfl

theorem components_of_absolute {p : Path} (h : p.isAbsolute) : p.components = .root :: p.body := by
  simp [components, body, lead_of_absolute h]

/-- Two texts with a separator between them have the components of both. -/
theorem filterMap_splitOn_separated (front back : Bytes) :
    ((front ++ slash :: back).splitOn slash).filterMap ofSegment =
      (front.splitOn slash).filterMap ofSegment ++ (back.splitOn slash).filterMap ofSegment := by
  rw [List.splitOn_append_cons_self, List.filterMap_append]

theorem body_join {base p : Path} (relative : p.isAbsolute = false) :
    (base.join p).body = base.body ++ p.body := by
  simp only [join, relative, Bool.false_eq_true, if_false]
  split
  · next bare =>
      rcases bare with blank | closed
      · have none : base.bytes = [] := by simpa [isEmpty] using blank
        simp [body, segments, none, ofSegment]
      · obtain ⟨front, ends⟩ := List.getLast?_eq_some_iff.mp closed
        have tail : ([] : Bytes).splitOn slash = [[]] := rfl
        simp only [body, segments, ends, List.append_assoc, List.singleton_append,
          filterMap_splitOn_separated, tail]
        simp [ofSegment]
  · exact filterMap_splitOn_separated base.bytes p.bytes

theorem isAbsolute_join (base p : Path) :
    (base.join p).isAbsolute = (base.isAbsolute || p.isAbsolute) := by
  simp only [join]
  split
  · next rooted => simp [rooted]
  · next relative =>
      have relative : p.isAbsolute = false := by simpa using relative
      obtain ⟨cs⟩ := base
      cases cs with
      | nil => simp [isEmpty, isAbsolute] at relative ⊢
      | cons c cs => split <;> simp [isAbsolute] at relative ⊢ <;> simp [relative]

theorem head_components_absolute {p : Path} :
    p.isAbsolute ↔ p.components.head? = some .root := by
  constructor
  · intro h
    simp [components_of_absolute h]
  · intro h
    by_contra relative
    have relative : p.isAbsolute = false := by simpa using relative
    rcases lead_of_relative relative with bare | dot
    · have first : p.body.head? = some .root := by simpa [components, body, bare] using h
      exact not_spelled_root (spelled_of_mem_body (List.mem_of_head? first))
    · simp [components, dot] at h

/-! ## Spelling parts out -/

/-- Parts without separators are read back from their joined text. -/
theorem filterMap_splitOn_intercalate {parts : List Bytes}
    (clean : ∀ part ∈ parts, slash ∉ part) :
    (([slash].intercalate parts).splitOn slash).filterMap ofSegment = parts.filterMap ofSegment := by
  cases parts with
  | nil => rfl
  | cons part rest => rw [List.splitOn_intercalate slash clean (List.cons_ne_nil _ _)]

theorem filterMap_ofSegment_bytes {parts : List Component} (h : ∀ c ∈ parts, c.Spelled) :
    (parts.map Component.bytes).filterMap ofSegment = parts := by
  rw [List.filterMap_map]
  have each : ∀ c ∈ parts, (ofSegment ∘ Component.bytes) c = some c := fun c member => (h c member).2
  rw [List.filterMap_congr each, List.filterMap_some]

theorem clean_bytes {parts : List Component} (h : ∀ c ∈ parts, c.Spelled) :
    ∀ part ∈ parts.map Component.bytes, slash ∉ part := by
  intro part member
  obtain ⟨c, inside, rfl⟩ := List.mem_map.mp member
  exact (h c inside).1

theorem components_rooted (cs : Bytes) :
    (⟨slash :: cs⟩ : Path).components = .root :: (cs.splitOn slash).filterMap ofSegment := by
  have blank : ofSegment [] = none := rfl
  simp only [components, lead, if_true, segments, splitOn_separator_cons, List.filterMap_cons_none blank,
    List.singleton_append]

/-- A text whose first part denotes a component has no leading root and no leading `.`. -/
theorem lead_intercalate {part : Bytes} {rest : List Bytes} (clean : slash ∉ part)
    (filled : part ≠ []) (notDot : part ≠ [dot]) :
    (⟨[slash].intercalate (part :: rest)⟩ : Path).lead = [] := by
  obtain ⟨b, bs, rfl⟩ := List.exists_cons_of_ne_nil filled
  simp only [List.mem_cons, not_or] at clean
  have bare : b = dot → bs ≠ [] := fun first none => notDot (by rw [first, none])
  have inner : ∀ c ∈ bs.head?, c ≠ slash := fun c first same => clean.2 (same ▸ List.mem_of_head? first)
  have other : b ≠ slash := fun same => clean.1 same.symm
  obtain ⟨tail, spelled, outer⟩ : ∃ tail, [slash].intercalate ((b :: bs) :: rest) = b :: tail ∧
      (bs ≠ [] → tail ≠ [] ∧ tail.head? = bs.head?) := by
    cases rest with
    | nil => exact ⟨bs, List.intercalate_singleton, fun some => ⟨some, rfl⟩⟩
    | cons next rest =>
        refine ⟨_, by rw [List.intercalate_cons_cons, List.append_assoc, List.cons_append], fun some => ⟨?_, ?_⟩⟩
        · simp [some]
        · exact List.head?_append_of_ne_nil _ some
  rw [spelled]
  simp only [lead, if_neg other]
  rw [if_neg]
  rintro ⟨first, none | separated⟩
  · exact (outer (bare first)).1 none
  · rw [(outer (bare first)).2] at separated
    exact inner slash separated rfl

theorem components_ofComponents_rooted {parts : List Component} (h : ∀ c ∈ parts, c.Spelled) :
    (ofComponents (.root :: parts)).components = .root :: parts := by
  simp only [ofComponents, joinComponents]
  rw [components_rooted, filterMap_splitOn_intercalate (clean_bytes h), filterMap_ofSegment_bytes h]

theorem joinComponents_of_spelled {parts : List Component} (h : ∀ c ∈ parts, c.Spelled) :
    joinComponents parts = [slash].intercalate (parts.map Component.bytes) := by
  unfold joinComponents
  split
  · next rest => exact absurd (h .root List.mem_cons_self) not_spelled_root
  · rfl

theorem components_ofComponents {parts : List Component} (h : ∀ c ∈ parts, c.Spelled) :
    (ofComponents parts).components = parts := by
  have back := filterMap_splitOn_intercalate (clean_bytes h)
  rw [filterMap_ofSegment_bytes h] at back
  simp only [ofComponents, joinComponents_of_spelled h, components, segments, back]
  cases parts with
  | nil => rfl
  | cons c rest =>
      have spelled := h c List.mem_cons_self
      rw [List.map_cons, lead_intercalate spelled.1 spelled.bytes_ne_nil spelled.bytes_ne_dot,
        List.nil_append]

theorem components_ofComponents_current {parts : List Component} (h : ∀ c ∈ parts, c.Spelled) :
    (ofComponents (.current :: parts)).components = .current :: parts := by
  have clean : ∀ part ∈ (.current :: parts).map Component.bytes, slash ∉ part := by
    rw [List.map_cons, List.forall_mem_cons]
    exact ⟨by decide, clean_bytes h⟩
  have back := filterMap_splitOn_intercalate clean
  have dot : ofSegment Component.current.bytes = none := rfl
  rw [List.map_cons, List.filterMap_cons_none dot, filterMap_ofSegment_bytes h, ← List.map_cons] at back
  have lead : (ofComponents (.current :: parts)).lead = [.current] := by cases parts <;> rfl
  rw [components, lead]
  exact congrArg _ back

/-- Spelling out the components of a path gives a path with the same components. -/
theorem components_ofComponents_components (p : Path) :
    (ofComponents p.components).components = p.components := by
  have spelled : ∀ c ∈ p.body, c.Spelled := fun c => spelled_of_mem_body
  cases rooted : p.isAbsolute with
  | true =>
      rw [components_of_absolute rooted]
      exact components_ofComponents_rooted spelled
  | false =>
      rcases lead_of_relative rooted with bare | dot
      · have plain : p.components = p.body := by rw [components, bare, List.nil_append, body]
        rw [plain]
        exact components_ofComponents spelled
      · have dotted : p.components = .current :: p.body := by
          rw [components, dot, List.singleton_append, body]
        rw [dotted]
        exact components_ofComponents_current spelled

/-! ## Plainest spellings -/

theorem bytes_ne_nil_of_mem {p : Path} {c : Component} (member : c ∈ p.components) : c.bytes ≠ [] := by
  rw [components] at member
  rcases List.mem_append.mp member with leading | inner
  · have first : c = .root ∨ c = .current := by
      cases rooted : p.isAbsolute with
      | true =>
          rw [lead_of_absolute rooted] at leading
          exact .inl (List.mem_singleton.mp leading)
      | false =>
          rcases lead_of_relative rooted with bare | dotted
          · rw [bare] at leading
            cases leading
          · rw [dotted] at leading
            exact .inr (List.mem_singleton.mp leading)
    rcases first with rfl | rfl
    · simp [Component.bytes]
    · simp [Component.bytes]
  · exact (spelled_of_mem_body inner).bytes_ne_nil

theorem joinComponents_of_ne_root {c : Component} (other : c ≠ .root) (rest : List Component) :
    joinComponents (c :: rest) = [slash].intercalate (c.bytes :: rest.map Component.bytes) := by
  cases c with
  | root => exact absurd rfl other
  | current | parent | name => rfl

theorem head?_joinComponents {c : Component} (filled : c.bytes ≠ []) (rest : List Component) :
    (joinComponents (c :: rest)).head? = c.bytes.head? := by
  by_cases root : c = .root
  · subst root
    rfl
  · rw [joinComponents_of_ne_root root]
    cases rest with
    | nil => rw [List.map_nil, List.intercalate_singleton]
    | cons next rest =>
        rw [List.map_cons, List.intercalate_cons_cons, List.append_assoc,
          List.head?_append_of_ne_nil _ filled]

theorem length_le_intercalate {α : Type} {part separator : List α} {parts : List (List α)} (member : part ∈ parts) :
    part.length ≤ (separator.intercalate parts).length := by
  induction parts with
  | nil => cases member
  | cons first rest ih =>
      cases rest with
      | nil =>
          rw [List.intercalate_singleton, List.mem_singleton.mp member]
      | cons next rest =>
          rw [List.intercalate_cons_cons, List.length_append, List.length_append]
          rcases List.mem_cons.mp member with rfl | later
          · omega
          · have inner := ih later
            omega

/-- A joined text ends as its last part does. -/
theorem getLast?_intercalate {part separator : Bytes} {parts : List Bytes}
    (last : parts.getLast? = some part) (filled : part ≠ []) :
    (separator.intercalate parts).getLast? = part.getLast? := by
  induction parts with
  | nil => cases last
  | cons first rest ih =>
      cases rest with
      | nil =>
          rw [List.getLast?_singleton] at last
          rw [List.intercalate_singleton, Option.some.inj last]
      | cons next rest =>
          rw [List.getLast?_cons_cons] at last
          have inner := ih last
          have filledInner : separator.intercalate (next :: rest) ≠ [] := by
            intro blank
            rw [blank, List.getLast?_nil] at inner
            exact filled (List.getLast?_eq_none_iff.mp inner.symm)
          rw [List.intercalate_cons_cons, List.getLast?_append_of_ne_nil _ filledInner, inner]

theorem getLast?_intercalate_bytes {parts : List Component} (h : ∀ c ∈ parts, c.Spelled) :
    ([slash].intercalate (parts.map Component.bytes)).getLast? ≠ some slash := by
  intro slash
  cases last : parts.getLast? with
  | none =>
      rw [List.getLast?_eq_none_iff.mp last] at slash
      cases slash
  | some c =>
      have spelled := h c (List.mem_of_getLast? last)
      have lastChars : (parts.map Component.bytes).getLast? = some c.bytes := by
        rw [List.getLast?_map, last, Option.map_some]
      rw [getLast?_intercalate lastChars spelled.bytes_ne_nil] at slash
      exact spelled.1 (List.mem_of_getLast? slash)

/-- A spelling is at least as long as each of its components. -/
theorem length_bytes_le {parts : List Component} {c : Component} (member : c ∈ parts) (name : c.isName) :
    c.bytes.length ≤ (joinComponents parts).length := by
  cases parts with
  | nil => cases member
  | cons first rest =>
      by_cases root : first = .root
      · subst root
        rcases List.mem_cons.mp member with rfl | later
        · cases name
        · exact Nat.le_succ_of_le (length_le_intercalate (List.mem_map_of_mem later))
      · rw [joinComponents_of_ne_root root, ← List.map_cons]
        exact length_le_intercalate (List.mem_map_of_mem member)

end Path

end ProtoTree
