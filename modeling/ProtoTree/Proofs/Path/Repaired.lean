import Mathlib.Data.List.Nodup
import ProtoTree.Proofs.Path.Ancestors
import ProtoTree.Proofs.Path.Relative

/-! # Paths that are text

A path is repaired by writing out the text it is read as. Separators and dots
are ASCII and stay where they are, so normal forms and joined paths may be taken
before or after the repair. Keys are texts of normal forms: they tell apart what
is still different when it is repaired, which is all that differs among paths
that are text to begin with.
-/

namespace ProtoTree

open Text (Bytes)

namespace Component

/-- The component of the text that a component is read as. -/
def repaired : Component → Component
  | name bs => name (Text.repaired bs)
  | c => c

end Component

namespace Path

open Component (ofSegment)

theorem slash_ascii : slash < 0x80 := by decide

theorem dot_ascii : dot < 0x80 := by decide

/-- The path spelled by the text that a path is read as. -/
def repaired (p : Path) : Path := ofString p.text

/-- A path that some text spells. -/
def IsText (p : Path) : Prop := ∃ text, p = ofString text

/-- A path with a byte between two texts. -/
def withByte (front : String) (byte : UInt8) (back : String) : Path :=
  ⟨Text.encode front.toList ++ byte :: Text.encode back.toList⟩

theorem repaired_eq (p : Path) : p.repaired = ⟨Text.repaired p.bytes⟩ := by
  rw [repaired, ofString, text, Text.decodeText, String.toList_ofList, Text.repaired]

theorem bytes_repaired (p : Path) : p.repaired.bytes = Text.repaired p.bytes := congrArg Path.bytes p.repaired_eq

@[simp] theorem text_ofString (text : String) : (ofString text).text = text := by
  rw [ofString, Path.text, Text.decodeText, Text.decodeLossy_encode, String.ofList_toList]

theorem isText_ofString (text : String) : (ofString text).IsText := ⟨text, rfl⟩

theorem isText_iff {p : Path} : p.IsText ↔ p.repaired = p := by
  constructor
  · rintro ⟨text, rfl⟩
    rw [repaired, text_ofString]
  · intro same
    exact ⟨p.text, same.symm⟩

instance (p : Path) : Decidable p.IsText := decidable_of_iff (p.repaired = p) isText_iff.symm

theorem isUtf8_iff {p : Path} : p.isUtf8 ↔ p.IsText := by
  rw [isText_iff, isUtf8, beq_iff_eq]
  rfl

/-- Paths read as one text are repaired to one path. -/
theorem repaired_eq_iff {p q : Path} : p.repaired = q.repaired ↔ p.text = q.text := by
  constructor
  · intro same
    rw [← text_ofString p.text, ← repaired, same, repaired, text_ofString]
  · intro same
    rw [repaired, repaired, same]

/-! ## Components of a repaired path -/

@[simp] theorem isName_repaired (c : Component) : c.repaired.isName = c.isName := by
  cases c with
  | root | current | parent | name => rfl

theorem bytes_repaired_component (c : Component) : c.repaired.bytes = Text.repaired c.bytes := by
  cases c with
  | name => rfl
  | root => exact (Text.repaired_cons_ascii slash_ascii []).symm
  | current => exact (Text.repaired_cons_ascii dot_ascii []).symm
  | parent =>
      have two : Text.repaired [dot, dot] = [dot, dot] := by
        rw [Text.repaired_cons_ascii dot_ascii, Text.repaired_cons_ascii dot_ascii, Text.repaired_nil]
      exact two.symm

/-- A repair makes no part a dot, or two, that was none. -/
theorem repaired_eq_dot {segment : Bytes} : Text.repaired segment = [dot] ↔ segment = [dot] :=
  Text.repaired_cons_eq_iff dot_ascii (by decide) fun _ => Text.repaired_eq_nil

theorem repaired_eq_dots {segment : Bytes} : Text.repaired segment = [dot, dot] ↔ segment = [dot, dot] :=
  Text.repaired_cons_eq_iff dot_ascii (by decide) fun _ => repaired_eq_dot

theorem ofSegment_repaired (segment : Bytes) :
    ofSegment (Text.repaired segment) = (ofSegment segment).map Component.repaired := by
  simp only [ofSegment, Text.repaired_eq_nil, repaired_eq_dot, repaired_eq_dots]
  split
  · rfl
  · split
    · rfl
    · rfl

theorem segments_repaired (p : Path) : p.repaired.segments = p.segments.map Text.repaired := by
  rw [segments, bytes_repaired, Text.splitOn_repaired slash_ascii (by decide), segments]

theorem body_repaired (p : Path) : p.repaired.body = p.body.map Component.repaired := by
  rw [body, segments_repaired, List.filterMap_map, body, List.map_filterMap]
  exact List.filterMap_congr fun segment _ => ofSegment_repaired segment

@[simp] theorem isAbsolute_repaired (p : Path) : p.repaired.isAbsolute = p.isAbsolute := by
  rw [Bool.eq_iff_iff, isAbsolute, isAbsolute, beq_iff_eq, beq_iff_eq, bytes_repaired,
    Text.head?_repaired slash_ascii (by decide)]

theorem lead_repaired (p : Path) : p.repaired.lead = p.lead := by
  obtain ⟨bytes⟩ := p
  rw [repaired_eq]
  cases bytes with
  | nil => rfl
  | cons first rest =>
      by_cases closed : first = slash
      · subst closed
        rw [Text.repaired_cons_ascii slash_ascii]
        rfl
      by_cases dotted : first = dot
      · subst dotted
        rw [Text.repaired_cons_ascii dot_ascii]
        simp only [lead, Text.repaired_eq_nil, Text.head?_repaired slash_ascii (by decide : slash ≠ 0)]
      · have other {n : UInt8} (ascii : n < 0x80) (notZero : n ≠ 0) (different : first ≠ n) (more : Bytes) :
            Text.repaired (first :: rest) ≠ n :: more := by
          intro same
          obtain ⟨_, split, -⟩ := Text.exists_cons_of_repaired ascii notZero same
          exact different (List.cons.inj split).1
        cases read : Text.repaired (first :: rest) with
        | nil => exact absurd (Text.repaired_eq_nil.mp read) (List.cons_ne_nil _ _)
        | cons d more =>
            have notSlash : d ≠ slash := fun same => other slash_ascii (by decide) closed more (same ▸ read)
            have notDot : d ≠ dot := fun same => other dot_ascii (by decide) dotted more (same ▸ read)
            simp only [lead, closed, dotted, notSlash, notDot, false_and, if_false]

theorem map_repaired_lead (p : Path) : p.lead.map Component.repaired = p.lead := by
  cases rooted : p.isAbsolute with
  | true => rw [lead_of_absolute rooted]; rfl
  | false =>
      rcases lead_of_relative rooted with bare | dotted
      · rw [bare]; rfl
      · rw [dotted]; rfl

theorem components_repaired (p : Path) : p.repaired.components = p.components.map Component.repaired := by
  rw [components, lead_repaired, ← body, body_repaired, components, List.map_append, map_repaired_lead, body]

theorem ofComponents_repaired (parts : List Component) :
    (ofComponents parts).repaired = ofComponents (parts.map Component.repaired) := by
  have written (parts : List Component) : Text.repaired ([slash].intercalate (parts.map Component.bytes)) =
      [slash].intercalate ((parts.map Component.repaired).map Component.bytes) := by
    rw [Text.repaired_intercalate slash_ascii, List.map_map, List.map_map]
    congr 1
    exact List.map_congr_left fun c _ => (bytes_repaired_component c).symm
  rw [repaired_eq, ofComponents, ofComponents, joinComponents.eq_def]
  cases parts with
  | nil => rfl
  | cons c parts =>
      cases c with
      | root => exact congrArg mk ((Text.repaired_cons_ascii slash_ascii _).trans (congrArg _ (written parts)))
      | current | parent | name => exact congrArg mk (written (_ :: parts))

/-! ## Normal forms and joined paths -/

theorem push_repaired (stack : List Component) (c : Component) :
    (push stack c).map Component.repaired = push (stack.map Component.repaired) c.repaired := by
  cases c with
  | root | current | name => rfl
  | parent =>
      cases stack with
      | nil => rfl
      | cons top below => cases top <;> rfl

theorem stack_repaired (p : Path) : p.repaired.stack = p.stack.map Component.repaired := by
  have along (parts below : List Component) : (parts.foldl push below).map Component.repaired =
      (parts.map Component.repaired).foldl push (below.map Component.repaired) := by
    induction parts generalizing below with
    | nil => rfl
    | cons c parts ih => rw [List.foldl_cons, ih, push_repaired, List.map_cons, List.foldl_cons]
  rw [stack, components_repaired, stack, along, List.map_nil]

/-- The normal form may be taken before or after the repair. -/
theorem normalize_repaired (p : Path) : p.repaired.normalize = p.normalize.repaired := by
  rw [normalize_eq, stack_repaired, normalize_eq, ofComponents_repaired, List.map_reverse]

/-- Joining may be done before or after the repair of both sides. -/
theorem join_repaired (base p : Path) : (base.join p).repaired = base.repaired.join p.repaired := by
  have empty : base.repaired.isEmpty = base.isEmpty := by
    rw [Bool.eq_iff_iff, isEmpty, isEmpty, List.isEmpty_iff, List.isEmpty_iff, bytes_repaired, Text.repaired_eq_nil]
  have closed : base.repaired.bytes.getLast? = some slash ↔ base.bytes.getLast? = some slash := by
    rw [bytes_repaired, Text.getLast?_repaired slash_ascii (by decide)]
  simp only [join, isAbsolute_repaired, empty, closed]
  split
  · rfl
  · split
    · next bare =>
        rw [repaired_eq, bytes_repaired, bytes_repaired]
        rcases bare with blank | ends
        · have none : base.bytes = [] := List.isEmpty_iff.mp blank
          rw [none, List.nil_append, Text.repaired_nil, List.nil_append]
        · obtain ⟨front, split⟩ := List.getLast?_eq_some_iff.mp ends
          rw [split, ← List.append_cons, Text.repaired_append_ascii slash_ascii,
            Text.repaired_append_ascii slash_ascii, Text.repaired_nil, ← List.append_cons]
    · rw [repaired_eq, bytes_repaired, bytes_repaired]
      exact congrArg mk (Text.repaired_append_ascii slash_ascii base.bytes p.bytes)

theorem absolutize_repaired (p base : Path) : (p.absolutize base).repaired = p.repaired.absolutize base.repaired := by
  rw [absolutize, absolutize, isAbsolute_repaired]
  split
  · exact (normalize_repaired p).symm
  · rw [← normalize_repaired, join_repaired]

/-! ## Directories above a repaired path -/

theorem trimSegments_repaired (segments : List Bytes) :
    trimSegments (segments.map Text.repaired) = (trimSegments segments).map Text.repaired := by
  have blank : (fun s => (ofSegment s).isNone) ∘ Text.repaired = fun s => (ofSegment s).isNone := by
    funext s
    rw [Function.comp_apply, ofSegment_repaired, Option.isNone_map]
  rw [trimSegments, ← List.map_reverse, List.dropWhile_map, blank, ← List.map_reverse, trimSegments]

theorem dropLastSegment_repaired (segments : List Bytes) :
    dropLastSegment (segments.map Text.repaired) = (dropLastSegment segments).map Text.repaired := by
  rw [dropLastSegment, trimSegments_repaired, ← List.map_dropLast, trimSegments_repaired, dropLastSegment]

/-- The directory may be taken before or after the repair. -/
theorem parent?_repaired (p : Path) : p.repaired.parent? = p.parent?.map repaired := by
  have written (segments : List Bytes) : [slash].intercalate (segments.map Text.repaired) =
      Text.repaired ([slash].intercalate segments) := (Text.repaired_intercalate slash_ascii segments).symm
  simp only [parent?, lead_repaired, segments_repaired, ← List.map_tail, trimSegments_repaired,
    dropLastSegment_repaired, List.map_eq_nil_iff, written]
  split
  · split
    · rfl
    · rw [Option.map_some, repaired_eq, Text.repaired_cons_ascii slash_ascii]
  · split
    · rw [Option.map_some, repaired_eq, empty, Text.repaired_nil]
    · split
      · rw [Option.map_some, repaired_eq, Text.repaired_cons_ascii dot_ascii, Text.repaired_nil]
      · rw [Option.map_some, repaired_eq, Text.repaired_cons_ascii dot_ascii, Text.repaired_cons_ascii slash_ascii]
  · split
    · rfl
    · rw [Option.map_some, repaired_eq]

/-! ## Keys -/

theorem dropSeparators_eq_self {cs : List Char} (h : cs.tail.getLast? ≠ some '/') : dropSeparators cs = cs := by
  cases cs with
  | nil => rfl
  | cons c rest =>
      rw [List.tail_cons, ← List.head?_reverse] at h
      rw [dropSeparators]
      cases back : rest.reverse with
      | nil => rw [List.reverse_eq_nil_iff.mp back]; rfl
      | cons last before =>
          rw [back, List.head?_cons] at h
          have other : last ≠ '/' := fun same => h (congrArg some same)
          rw [List.dropWhile_cons_of_neg (by simpa using other), ← back, List.reverse_reverse]

/-- A text that ends in a separator behind its first character is spelled so. -/
theorem getLast?_tail_encode {cs : List Char} (ends : cs.tail.getLast? = some '/') :
    (Text.encode cs).tail.getLast? = some slash := by
  cases cs with
  | nil => cases ends
  | cons c rest =>
      obtain ⟨front, rfl⟩ := List.getLast?_eq_some_iff.mp ends
      have first : String.utf8EncodeChar c ≠ [] := by
        intro none
        have read := Text.decodeLossy_utf8EncodeChar c []
        rw [none] at read
        cases read
      have last : Text.encode ['/'] = [slash] := by decide
      rw [Text.encode, List.flatMap_cons, List.tail_append_of_ne_nil first, ← Text.encode, Text.encode_append, last,
        ← List.append_assoc, List.getLast?_concat]

/-- A key is the text of a normal form: there are no separators at its end to drop. -/
theorem key_eq (p : Path) : p.key = p.normalize.text := by
  rw [key, dropSeparators_eq_self, String.ofList_toList]
  intro ends
  have spelled : p.normalize.repaired.bytes.tail.getLast? = some slash := getLast?_tail_encode ends
  rw [← normalize_repaired] at spelled
  exact getLast?_tail_normalize p.repaired spelled

/-- Keys agree just when the normal forms are repaired to one path. -/
theorem key_eq_iff {p q : Path} : p.key = q.key ↔ p.normalize.repaired = q.normalize.repaired := by
  rw [key_eq, key_eq, repaired_eq_iff]

theorem Normal.key_eq_iff {p q : Path} (hp : p.Normal) (hq : q.Normal) :
    p.key = q.key ↔ p.repaired = q.repaired := by
  rw [Path.key_eq_iff, hp.normalize_eq_self, hq.normalize_eq_self]

theorem length_components_of_key {p q : Path} (hp : p.Normal) (hq : q.Normal) (same : p.key = q.key) :
    p.components.length = q.components.length := by
  have parts := congrArg components ((hp.key_eq_iff hq).mp same)
  rw [components_repaired, components_repaired] at parts
  simpa using congrArg List.length parts

/-- No two directories above one path have one key. -/
theorem Above.eq_of_key {dir other p : Path} (first : Above dir p) (second : Above other p)
    (same : dir.key = other.key) : dir = other := by
  have length := length_components_of_key first.far.1 second.far.1 same
  obtain ⟨names, count, clean, fewer, rfl, rfl⟩ := first
  obtain ⟨others, kept, otherClean, fewerKept, equal, rfl⟩ := second
  obtain rfl := rooted_injective clean otherClean equal
  rw [components_rooted_names (clean.take count), components_rooted_names (clean.take kept), List.length_cons,
    List.length_cons, List.length_take, List.length_take] at length
  obtain rfl : count = kept := by omega
  rfl

/-! ## Paths that are text -/

namespace IsText

variable {p q base dir : Path}

theorem repaired_eq_self (h : p.IsText) : p.repaired = p := isText_iff.mp h

theorem normalize (h : p.IsText) : p.normalize.IsText := by
  rw [isText_iff, ← normalize_repaired, h.repaired_eq_self]

theorem join (hbase : base.IsText) (h : p.IsText) : (base.join p).IsText := by
  rw [isText_iff, join_repaired, hbase.repaired_eq_self, h.repaired_eq_self]

theorem absolutize (h : p.IsText) (hbase : base.IsText) : (p.absolutize base).IsText := by
  rw [isText_iff, absolutize_repaired, hbase.repaired_eq_self, h.repaired_eq_self]

theorem parent? (h : p.IsText) (up : p.parent? = some dir) : dir.IsText := by
  have same := parent?_repaired p
  rw [h.repaired_eq_self, up] at same
  exact isText_iff.mpr (Option.some.inj same).symm

theorem ancestors (h : p.IsText) {levels : Nat} (member : dir ∈ p.ancestors levels) : dir.IsText := by
  induction levels generalizing p with
  | zero => cases member
  | succ levels ih =>
      rw [Path.ancestors] at member
      cases up : p.parent? with
      | none =>
          rw [up] at member
          cases member
      | some next =>
          rw [up] at member
          rcases List.mem_cons.mp member with rfl | farther
          · exact h.parent? up
          · exact ih (h.parent? up) farther

/-- Among paths that are text, keys are as good as normal forms. -/
theorem key_eq_iff (hp : p.IsText) (hq : q.IsText) : p.key = q.key ↔ p.normalize = q.normalize := by
  rw [Path.key_eq_iff, hp.normalize.repaired_eq_self, hq.normalize.repaired_eq_self]

/-- Different normal paths that are text have different keys. -/
theorem nodup_map_key {paths : List Path} (distinct : paths.Nodup) (normal : ∀ p ∈ paths, p.Normal)
    (text : ∀ p ∈ paths, p.IsText) : (paths.map Path.key).Nodup := by
  refine List.Nodup.map_on (fun p hp q hq same => ?_) distinct
  rwa [(text p hp).key_eq_iff (text q hq), (normal p hp).normalize_eq_self,
    (normal q hq).normalize_eq_self] at same

end IsText

end Path

end ProtoTree
