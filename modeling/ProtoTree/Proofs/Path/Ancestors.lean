import ProtoTree.Proofs.Path.Normalization

/-! # Ancestors

The directories above an absolute normal path drop its last names one by one.
A relative path that leads from two of them to one place climbs out of both, so
it leads from every directory farther out to that place as well.
-/

namespace ProtoTree

namespace Path

open Component Trail

/-- The absolute path through some names. -/
def rooted (names : List Component) : Path := ofComponents (.root :: names)

/-- Names that may stand between separators. -/
def Names (names : List Component) : Prop := ∀ c ∈ names, c.Spelled ∧ c.isName

theorem Names.take {names : List Component} (h : Names names) (count : Nat) :
    Names (names.take count) :=
  fun c member => h c (List.mem_of_mem_take member)

theorem components_rooted_names {names : List Component} (h : Names names) :
    (rooted names).components = .root :: names :=
  components_ofComponents_rooted fun c member => (h c member).1

theorem rooted_injective {names others : List Component} (h : Names names) (h' : Names others)
    (same : rooted names = rooted others) : names = others := by
  have parts := congrArg components same
  rw [components_rooted_names h, components_rooted_names h'] at parts
  exact (List.cons.inj parts).2

theorem rooted_isAbsolute {names : List Component} (h : Names names) : (rooted names).isAbsolute := by
  rw [head_components_absolute, components_rooted_names h]
  rfl

theorem rooted_normal {names : List Component} (h : Names names) : (rooted names).Normal := by
  refine ⟨?_, by rw [components_rooted_names h, rooted]⟩
  rw [components_rooted_names h]
  simpa [isReduced] using fun c member => (h c member).2

/-- An absolute normal path runs through names only. -/
theorem Normal.exists_names {p : Path} (normal : p.Normal) (absolute : p.isAbsolute) :
    ∃ names, Names names ∧ p = rooted names := by
  have parts := components_of_absolute absolute
  refine ⟨p.body, fun c member => ⟨spelled_of_mem_body member, ?_⟩, by rw [rooted, ← parts, ← normal.2]⟩
  have reduced := normal.1
  rw [parts] at reduced
  have named : ∀ c ∈ p.body, c.isName := by simpa [isReduced] using reduced
  exact named c member

theorem trimSegments_bytes {names : List Component} (h : ∀ c ∈ names, c.Spelled) :
    trimSegments (names.map Component.bytes) = names.map Component.bytes := by
  refine List.rdropWhile_eq_self_iff.mpr fun filled => ?_
  have member := List.getLast_mem filled
  obtain ⟨c, inside, last⟩ := List.mem_map.mp member
  rw [← last, (h c inside).2]
  simp

theorem dropLastSegment_bytes {names : List Component} (h : ∀ c ∈ names, c.Spelled) :
    dropLastSegment (names.map Component.bytes) = names.dropLast.map Component.bytes := by
  rw [dropLastSegment, trimSegments_bytes h, ← List.map_dropLast]
  exact trimSegments_bytes fun c member => h c (names.dropLast_subset member)

theorem segments_rooted {names : List Component} (h : Names names) (filled : names ≠ []) :
    (rooted names).segments = [] :: names.map Component.bytes := by
  have spelled : ∀ c ∈ names, c.Spelled := fun c member => (h c member).1
  have nonempty : names.map Component.bytes ≠ [] := by simpa using filled
  have cut := splitOn_separator_cons ([slash].intercalate (names.map Component.bytes))
  rw [List.splitOn_intercalate slash (clean_bytes spelled) nonempty] at cut
  exact cut

theorem parent?_rooted {names : List Component} (h : Names names) (filled : names ≠ []) :
    (rooted names).parent? = some (rooted names.dropLast) := by
  have spelled : ∀ c ∈ names, c.Spelled := fun c member => (h c member).1
  have notBlank : trimSegments ([] :: names.map Component.bytes) ≠ [] := by
    intro blank
    obtain ⟨c, rest, rfl⟩ := List.exists_cons_of_ne_nil filled
    have denotes := List.rdropWhile_eq_nil_iff.mp blank c.bytes (by simp)
    rw [(spelled c List.mem_cons_self).2] at denotes
    cases denotes
  have top : (rooted names).lead = [.root] := rfl
  simp only [parent?, top, segments_rooted h filled, if_neg notBlank, List.tail_cons, dropLastSegment_bytes spelled]
  rfl

theorem lt_of_mem_take {count total levels : Nat} (member : count ∈ (List.range total).reverse.take levels) :
    count < total :=
  List.mem_range.mp (List.mem_reverse.mp (List.mem_of_mem_take member))

/-- The ancestors of a path run through fewer and fewer of its names. -/
theorem ancestors_rooted {names : List Component} (h : Names names) (levels : Nat) :
    (rooted names).ancestors levels =
      ((List.range names.length).reverse.take levels).map fun count => rooted (names.take count) := by
  induction levels generalizing names with
  | zero => simp [ancestors]
  | succ levels ih =>
      rcases List.eq_nil_or_concat names with rfl | ⟨front, last, rfl⟩
      · rfl
      · have up := parent?_rooted h (by simp)
        rw [List.concat_eq_append, List.dropLast_concat] at up
        have clean : Names front := fun c member => h c (by simp [member])
        -- the names above the nearest directory are the same, read from there
        have shorter : ∀ count ∈ (List.range front.length).reverse.take levels,
            rooted (front.take count) = rooted ((front ++ [last]).take count) := fun count member => by
          rw [List.take_append_of_le_length (Nat.le_of_lt (lt_of_mem_take member))]
        simp only [ancestors, List.concat_eq_append, up, ih clean, List.map_congr_left shorter,
          List.length_append, List.length_singleton, List.range_succ, List.reverse_append,
          List.reverse_singleton, List.singleton_append, List.take_succ_cons, List.map_cons,
          List.take_left]

/-- The directories that the first components of a path lead to, all but the path itself, the nearest first and at
    most `levels` of them. -/
def upward (p : Path) (levels : Nat) : List Path :=
  ((List.range (p.components.length - 1)).reverse.take levels).map fun count =>
    ofComponents (p.components.take (count + 1))

/-- Going up from an absolute normal path takes its last components off one by one, and ends at the root. -/
theorem Normal.ancestors_eq_upward {p : Path} (normal : p.Normal) (absolute : p.isAbsolute) (levels : Nat) :
    p.ancestors levels = p.upward levels := by
  obtain ⟨names, clean, rfl⟩ := normal.exists_names absolute
  rw [ancestors_rooted clean, upward, components_rooted_names clean]
  rfl

/-! ## One directory above another -/

/-- Names of a directory above another one, that are left when some of the last ones are dropped. -/
def Above (far near : Path) : Prop :=
  ∃ names count, Names names ∧ count < names.length ∧ near = rooted names ∧
    far = rooted (names.take count)

theorem Above.mem_ancestors {names : List Component} (h : Names names) {levels : Nat} {dir : Path}
    (member : dir ∈ (rooted names).ancestors levels) : Above dir (rooted names) := by
  rw [ancestors_rooted h] at member
  obtain ⟨count, inside, rfl⟩ := List.mem_map.mp member
  exact ⟨names, count, h, lt_of_mem_take inside, rfl, rfl⟩

/-- The ancestors of a path come nearest first. -/
theorem pairwise_ancestors_rooted {names : List Component} (h : Names names) (levels : Nat) :
    ((rooted names).ancestors levels).Pairwise fun near far => Above far near := by
  have falling : ((List.range names.length).reverse.take levels).Pairwise fun near far => far < near :=
    (List.pairwise_reverse.mpr List.pairwise_lt_range).sublist (List.take_sublist _ _)
  rw [ancestors_rooted h, List.pairwise_map]
  refine falling.imp_of_mem fun {near far} nearIn _ fewer => ?_
  have inside := lt_of_mem_take nearIn
  refine ⟨names.take near, far, h.take near, ?_, rfl, ?_⟩
  · rw [List.length_take]
    omega
  · rw [List.take_take, Nat.min_eq_left (Nat.le_of_lt fewer)]

theorem Normal.pairwise_ancestors {p : Path} (normal : p.Normal) (absolute : p.isAbsolute) (levels : Nat) :
    (p.ancestors levels).Pairwise fun near far => Above far near := by
  obtain ⟨names, clean, rfl⟩ := normal.exists_names absolute
  exact pairwise_ancestors_rooted clean levels

theorem Above.far {far near : Path} (h : Above far near) : far.Normal ∧ far.isAbsolute := by
  obtain ⟨names, count, clean, -, -, rfl⟩ := h
  exact ⟨rooted_normal (clean.take count), rooted_isAbsolute (clean.take count)⟩

theorem Above.length_lt {far near : Path} (h : Above far near) :
    far.components.length < near.components.length := by
  obtain ⟨names, count, clean, fewer, rfl, rfl⟩ := h
  rw [components_rooted_names clean, components_rooted_names (clean.take count), List.length_cons,
    List.length_cons, List.length_take]
  omega

/-- How many levels a directory lies above a path, if it does. -/
def levelsAbove (dir p : Path) : Nat := p.components.length - dir.components.length

theorem Above.levelsAbove_lt {far near p : Path} (h : Above far near) (below : Above near p) :
    near.levelsAbove p < far.levelsAbove p := by
  have outer := h.length_lt
  have inner := below.length_lt
  rw [levelsAbove, levelsAbove]
  omega

theorem levelsAbove_rooted {names : List Component} (h : Names names) {count : Nat}
    (fewer : count ≤ names.length) :
    (rooted (names.take count)).levelsAbove (rooted names) = names.length - count := by
  rw [levelsAbove, components_rooted_names h, components_rooted_names (h.take count), List.length_cons,
    List.length_cons, List.length_take]
  omega

/-- Going up from an absolute normal path leads to the directories above it, as far as the limit allows. -/
theorem Normal.mem_ancestors_iff {p dir : Path} (normal : p.Normal) (absolute : p.isAbsolute) {levels : Nat} :
    dir ∈ p.ancestors levels ↔ Above dir p ∧ dir.levelsAbove p ≤ levels := by
  obtain ⟨names, clean, rfl⟩ := normal.exists_names absolute
  constructor
  · intro member
    refine ⟨Above.mem_ancestors clean member, ?_⟩
    rw [ancestors_rooted clean] at member
    obtain ⟨count, inside, rfl⟩ := List.mem_map.mp member
    obtain ⟨place, bounded, rfl⟩ := List.mem_take_iff_getElem.mp inside
    rw [levelsAbove_rooted clean (Nat.le_of_lt (lt_of_mem_take inside)), List.getElem_reverse,
      List.getElem_range]
    simp only [List.length_reverse, List.length_range] at bounded ⊢
    omega
  · rintro ⟨⟨others, count, otherClean, fewer, same, rfl⟩, near⟩
    obtain rfl := rooted_injective clean otherClean same
    rw [levelsAbove_rooted clean (Nat.le_of_lt fewer)] at near
    rw [ancestors_rooted clean]
    refine List.mem_map_of_mem (f := fun count => rooted (names.take count)) ?_
    have bounded : names.length - 1 - count < min levels (List.range names.length).reverse.length := by
      rw [List.length_reverse, List.length_range]
      omega
    refine List.mem_take_iff_getElem.mpr ⟨names.length - 1 - count, bounded, ?_⟩
    rw [List.getElem_reverse, List.getElem_range, List.length_range]
    omega

/-- Going up farther starts with the same directories. -/
theorem ancestors_prefix {fewer more : Nat} (h : fewer ≤ more) (p : Path) :
    p.ancestors fewer <+: p.ancestors more := by
  induction fewer generalizing p more with
  | zero => exact List.nil_prefix
  | succ fewer ih =>
      obtain ⟨more, rfl⟩ := Nat.exists_eq_add_of_le' (Nat.le_trans (Nat.le_add_left 1 fewer) h)
      cases up : p.parent? with
      | none => simp [ancestors, up]
      | some dir =>
          simp only [ancestors, up, List.prefix_cons_inj]
          exact ih (Nat.le_of_succ_le_succ h) dir

theorem stack_rooted_join {names : List Component} (h : Names names) {p : Path}
    (relative : p.isAbsolute = false) :
    ((rooted names).join p).stack =
      (along p.body).names ++ (names.reverse.drop (along p.body).climbed ++ [.root]) := by
  have base : (rooted names).stack = names.reverse ++ [.root] := by
    rw [stack_of_isReduced (rooted_normal h).1, components_rooted_names h, List.reverse_cons]
  rw [stack_join relative, base]
  exact foldl_push_rooted (fun c member => ne_root_of_mem_body member)
    fun c member => (h c (List.mem_reverse.mp member)).2

/-- A path that leads from a directory and from one above it to the same place climbs to the root. -/
theorem Above.length_le_climbed {names : List Component} (h : Names names) {count : Nat}
    (fewer : count < names.length) {p : Path} (relative : p.isAbsolute = false)
    (same : ((rooted names).join p).normalize = ((rooted (names.take count)).join p).normalize) :
    names.length ≤ (along p.body).climbed := by
  have parts := congrArg components same
  rw [components_normalize, components_normalize, List.reverse_inj, stack_rooted_join h relative,
    stack_rooted_join (h.take count) relative, List.append_cancel_left_eq,
    List.append_cancel_right_eq] at parts
  have lengths := congrArg List.length parts
  simp only [List.length_drop, List.length_reverse, List.length_take] at lengths
  omega

/-- Once two directories, one above the other, lead to the same place, all directories above the lower one do. -/
theorem Above.join_eq {near mid far : Path} (first : Above mid near) (second : Above far near)
    {p : Path} (relative : p.isAbsolute = false)
    (same : (near.join p).normalize = (mid.join p).normalize) :
    (far.join p).normalize = (near.join p).normalize := by
  obtain ⟨names, count, clean, fewer, rfl, rfl⟩ := first
  obtain ⟨others, kept, otherClean, fewerKept, equal, rfl⟩ := second
  obtain rfl := rooted_injective clean otherClean equal
  have climbs := Above.length_le_climbed clean fewer relative same
  have outside (taken : Nat) : (names.take taken).reverse.drop (along p.body).climbed = [] := by
    rw [List.drop_eq_nil_iff, List.length_reverse, List.length_take]
    omega
  have whole : names.reverse.drop (along p.body).climbed = [] := by
    rw [List.drop_eq_nil_iff, List.length_reverse]
    exact climbs
  rw [normalize_eq, normalize_eq, stack_rooted_join clean relative,
    stack_rooted_join (clean.take kept) relative, outside, whole]

end Path

end ProtoTree
