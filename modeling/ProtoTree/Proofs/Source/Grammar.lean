import Mathlib.Data.List.TakeWhile
import ProtoTree.Proofs.Source.Lines

/-! # The grammar of declarations

An import is written as its keyword, blanks, perhaps a modifier with blanks, and
a quoted literal; a block opens with its keyword, blanks, a name, perhaps blanks
and a brace. In a line of code the scan reports the leftmost imports one behind
the other and misses none between them, and it sees every block that opens.
-/

namespace ProtoTree.Scan

open Text (isBlank isWord)

/-! ## Written forms -/

/-- One or more blanks. -/
def Gap (cs : List Char) : Prop := cs ≠ [] ∧ ∀ c ∈ cs, isBlank c

/-- What may stand before the literal of an import: nothing, or a modifier and blanks. -/
inductive Modifier : List Char → Prop
  | none : Modifier []
  | word {word : String} {gap : List Char} : word = "public" ∨ word = "weak" → Gap gap →
      Modifier (word.toList ++ gap)

/-- A literal between two quotes of one kind, which does not hold a quote of that kind. -/
inductive Quoted : List Char → List Char → Prop
  | mk {quote : Char} {literal : List Char} : quote = '"' ∨ quote = '\'' → quote ∉ literal →
      Quoted (quote :: literal ++ [quote]) literal

/-- An import from its keyword to its closing quote, and its literal. -/
inductive ImportText : List Char → List Char → Prop
  | mk {gap modifier quoted literal : List Char} : Gap gap → Modifier modifier → Quoted quoted literal →
      ImportText ("import".toList ++ gap ++ modifier ++ quoted) literal

/-- An ASCII letter. -/
def Letter (c : Char) : Prop := 'A' ≤ c ∧ c ≤ 'Z' ∨ 'a' ≤ c ∧ c ≤ 'z'

/-- An ASCII identifier: a letter or underscore, then letters, digits and underscores. -/
inductive Identifier : List Char → Prop
  | mk {first : Char} {rest : List Char} : Letter first ∨ first = '_' →
      (∀ c ∈ rest, Letter c ∨ '0' ≤ c ∧ c ≤ '9' ∨ c = '_') → Identifier (first :: rest)

/-- Whether a text ends with a word character. -/
def endsInWord (cs : List Char) : Bool := cs.getLast?.any isWord

/-- A block of a kind opens somewhere in a line: its keyword stands behind no word character. -/
inductive Opens (keyword : String) : List Char → Prop
  | mk {before gap name gap' after : List Char} : endsInWord before = false → Gap gap → Identifier name →
      (∀ c ∈ gap', isBlank c) →
      Opens keyword (before ++ (keyword.toList ++ gap ++ name ++ gap' ++ '{' :: after))

/-- A place in a line where an import stands, and its literal. -/
structure Occurrence where
  start : Nat
  stop : Nat
  literal : List Char

/-- An import stands at a place of a line, behind no word character. -/
inductive Occurs : List Char → Occurrence → Prop
  | mk {before text after literal : List Char} : endsInWord before = false → ImportText text literal →
      Occurs (before ++ (text ++ after)) ⟨before.length, before.length + text.length, literal⟩

/-- The imports of a line from a position on: they stand one behind the other, and every import that starts there
    starts inside one of them. -/
structure ReportsFrom (line : List Char) (position : Nat) (reported : List Occurrence) : Prop where
  occur : ∀ o ∈ reported, Occurs line o
  behind : ∀ o ∈ reported, position ≤ o.start
  apart : reported.Pairwise fun o next => o.stop ≤ next.start
  complete : ∀ o, Occurs line o → position ≤ o.start → ∃ r ∈ reported, r.start ≤ o.start ∧ o.start < r.stop

/-! ## Reading written forms -/

theorem solid_cons {drops : Char → Bool} {first : Char} (solid : drops first = false) (rest : List Char) :
    ∀ c ∈ (first :: rest).head?, drops c = false := by
  simpa using solid

/-- Dropping a class of characters ends where a character outside the class stands. -/
theorem dropWhile_append_solid {drops : Char → Bool} {front rest : List Char} (inside : ∀ c ∈ front, drops c)
    (solid : ∀ c ∈ rest.head?, drops c = false) : (front ++ rest).dropWhile drops = rest := by
  rw [List.dropWhile_append_of_pos inside]
  cases rest with
  | nil => rfl
  | cons c rest => rw [List.dropWhile_cons_of_neg (by simp [solid c rfl])]

theorem afterBlanks?_append {gap rest : List Char} (blank : Gap gap) (solid : ∀ c ∈ rest.head?, isBlank c = false) :
    afterBlanks? (gap ++ rest) = some rest := by
  obtain ⟨filled, blanks⟩ := blank
  obtain ⟨c, more, rfl⟩ := List.exists_cons_of_ne_nil filled
  rw [List.cons_append, afterBlanks?, if_pos (blanks c List.mem_cons_self),
    dropWhile_append_solid (fun d member => blanks d (List.mem_cons_of_mem c member)) solid]

theorem exists_gap {cs rest : List Char} (read : afterBlanks? cs = some rest) : ∃ gap, Gap gap ∧ cs = gap ++ rest := by
  cases cs with
  | nil => cases read
  | cons c tail =>
      rw [afterBlanks?] at read
      split at read
      · next blank =>
          obtain rfl := Option.some.inj read
          refine ⟨c :: tail.takeWhile isBlank, ⟨List.cons_ne_nil _ _, fun d member => ?_⟩, ?_⟩
          · rcases List.mem_cons.mp member with rfl | inner
            · exact blank
            · exact List.mem_takeWhile_imp inner
          · rw [List.cons_append, List.takeWhile_append_dropWhile]
      · cases read

theorem afterWord?_append (word : String) {gap rest : List Char} (blank : Gap gap)
    (solid : ∀ c ∈ rest.head?, isBlank c = false) : afterWord? word (word.toList ++ (gap ++ rest)) = some rest := by
  rw [afterWord?, List.isPrefixOf?_eq_some_iff_append_eq.mpr rfl]
  exact afterBlanks?_append blank solid

theorem exists_gap_of_afterWord? {word : String} {cs rest : List Char} (read : afterWord? word cs = some rest) :
    ∃ gap, Gap gap ∧ cs = word.toList ++ (gap ++ rest) := by
  obtain ⟨behind, starts, blanks⟩ := Option.bind_eq_some_iff.mp read
  obtain ⟨gap, blank, rfl⟩ := exists_gap blanks
  exact ⟨gap, blank, (List.isPrefixOf?_eq_some_iff_append_eq.mp starts).symm⟩

/-- A word is not read where another character stands than its first. -/
theorem afterWord?_eq_none {word : String} {c d : Char} {letters rest : List Char}
    (spelled : word.toList = d :: letters) (other : c ≠ d) : afterWord? word (c :: rest) = none := by
  cases read : afterWord? word (c :: rest) with
  | none => rfl
  | some behind =>
      obtain ⟨gap, -, starts⟩ := exists_gap_of_afterWord? read
      rw [spelled, List.cons_append] at starts
      exact absurd (List.cons.inj starts).1 other

theorem closeLiteral?_append {quote : Char} {literal : List Char} (unquoted : quote ∉ literal) (rest : List Char) :
    closeLiteral? quote (literal ++ quote :: rest) = some (literal, rest) := by
  have inside : ∀ c ∈ literal, (c != quote) = true := by
    intro c member
    simp only [bne_iff_ne]
    rintro rfl
    exact unquoted member
  rw [closeLiteral?, List.dropWhile_append_of_pos inside, List.takeWhile_append_of_pos inside]
  simp

theorem eq_of_closeLiteral? {quote : Char} {cs literal rest : List Char}
    (read : closeLiteral? quote cs = some (literal, rest)) : quote ∉ literal ∧ cs = literal ++ quote :: rest := by
  rw [closeLiteral?] at read
  split at read
  · cases read
  · next c tail behind =>
      obtain ⟨rfl, rfl⟩ := Prod.mk.inj (Option.some.inj read)
      have closing : c = quote := by
        have stops := List.head?_dropWhile_not (· != quote) cs
        rw [behind] at stops
        simpa using stops
      refine ⟨fun member => by simpa using List.mem_takeWhile_imp member, ?_⟩
      rw [← closing, ← behind, closing, List.takeWhile_append_dropWhile]

theorem literal?_append {quoted literal : List Char} (form : Quoted quoted literal) (rest : List Char) :
    literal? (quoted ++ rest) = some (literal, rest) := by
  obtain ⟨rfl | rfl, unquoted⟩ := form <;>
  · rw [List.append_assoc, List.cons_append, List.singleton_append, literal?]
    exact closeLiteral?_append unquoted rest

theorem exists_quoted {cs literal rest : List Char} (read : literal? cs = some (literal, rest)) :
    ∃ quoted, Quoted quoted literal ∧ cs = quoted ++ rest := by
  simp only [literal?] at read
  split at read
  · obtain ⟨unquoted, rfl⟩ := eq_of_closeLiteral? read
    exact ⟨_, .mk (.inl rfl) unquoted, by simp⟩
  · obtain ⟨unquoted, rfl⟩ := eq_of_closeLiteral? read
    exact ⟨_, .mk (.inr rfl) unquoted, by simp⟩
  · cases read

theorem Quoted.exists_cons {quoted literal : List Char} (form : Quoted quoted literal) :
    ∃ quote inner, quoted = quote :: inner ∧ (quote = '"' ∨ quote = '\'') := by
  obtain ⟨kind, -⟩ := form
  exact ⟨_, _, List.cons_append, kind⟩

theorem Quoted.solid {quoted literal : List Char} (form : Quoted quoted literal) (rest : List Char) :
    ∀ c ∈ (quoted ++ rest).head?, isBlank c = false := by
  obtain ⟨quote, inner, rfl, kind⟩ := form.exists_cons
  refine solid_cons ?_ (inner ++ rest)
  rcases kind with rfl | rfl <;> rfl

theorem Modifier.solid {modifier quoted literal : List Char} (form : Modifier modifier)
    (following : Quoted quoted literal) (rest : List Char) :
    ∀ c ∈ (modifier ++ (quoted ++ rest)).head?, isBlank c = false := by
  cases form with
  | none => exact following.solid rest
  | word kind blank =>
      rcases kind with rfl | rfl <;> exact solid_cons rfl _

theorem afterModifier_append {modifier quoted literal : List Char} (form : Modifier modifier)
    (following : Quoted quoted literal) (rest : List Char) :
    afterModifier (modifier ++ (quoted ++ rest)) = quoted ++ rest := by
  cases form with
  | none =>
      obtain ⟨quote, inner, rfl, kind⟩ := following.exists_cons
      have noPublic : afterWord? "public" (quote :: inner ++ rest) = none := by
        rcases kind with rfl | rfl <;> exact afterWord?_eq_none rfl (by decide)
      have noWeak : afterWord? "weak" (quote :: inner ++ rest) = none := by
        rcases kind with rfl | rfl <;> exact afterWord?_eq_none rfl (by decide)
      rw [List.nil_append, afterModifier, noPublic, noWeak]
      rfl
  | @word _ gap kind blank =>
      have solid := following.solid rest
      rw [List.append_assoc, afterModifier]
      rcases kind with rfl | rfl
      · rw [afterWord?_append "public" blank solid]
        rfl
      · have noPublic : afterWord? "public" ("weak".toList ++ (gap ++ (quoted ++ rest))) = none :=
          afterWord?_eq_none rfl (by decide)
        rw [noPublic, afterWord?_append "weak" blank solid]
        rfl

theorem exists_modifier (cs : List Char) : ∃ modifier, Modifier modifier ∧ cs = modifier ++ afterModifier cs := by
  have read (word : String) (kind : word = "public" ∨ word = "weak") {rest : List Char}
      (found : afterWord? word cs = some rest) : ∃ modifier, Modifier modifier ∧ cs = modifier ++ rest := by
    obtain ⟨gap, blank, rfl⟩ := exists_gap_of_afterWord? found
    exact ⟨_, .word kind blank, by rw [List.append_assoc]⟩
  rw [afterModifier]
  cases isPublic : afterWord? "public" cs with
  | some rest => exact read "public" (.inl rfl) isPublic
  | none =>
      cases isWeak : afterWord? "weak" cs with
      | some rest => exact read "weak" (.inr rfl) isWeak
      | none => exact ⟨[], .none, rfl⟩

theorem import?_append {text literal : List Char} (form : ImportText text literal)
    (rest : List Char) : import? (text ++ rest) = some (literal, rest) := by
  obtain ⟨blank, modified, following⟩ := form
  simp only [List.append_assoc]
  rw [import?, afterWord?_append "import" blank (modified.solid following rest)]
  change literal? (afterModifier _) = _
  rw [afterModifier_append modified following, literal?_append following]

theorem exists_importText {cs literal rest : List Char} (read : import? cs = some (literal, rest)) :
    ∃ text, ImportText text literal ∧ cs = text ++ rest := by
  rw [import?] at read
  split at read
  · cases read
  · next behind found =>
      obtain ⟨gap, blank, rfl⟩ := exists_gap_of_afterWord? found
      obtain ⟨modifier, modified, split⟩ := exists_modifier behind
      obtain ⟨quoted, following, inner⟩ := exists_quoted read
      refine ⟨_, .mk blank modified following, ?_⟩
      rw [split, inner]
      simp only [List.append_assoc]

/-! ## Imports of a line -/

@[simp] theorem endsInWord_concat (cs : List Char) (c : Char) : endsInWord (cs ++ [c]) = isWord c := by
  rw [endsInWord, List.getLast?_concat, Option.any_some]

theorem ImportText.endsInWord_append {text literal : List Char} (form : ImportText text literal)
    (before : List Char) : endsInWord (before ++ text) = false := by
  obtain ⟨-, -, ⟨kind, -⟩⟩ := form
  rw [← List.append_assoc, ← List.append_assoc, endsInWord_concat]
  rcases kind with rfl | rfl <;> rfl

theorem ImportText.length_pos {text literal : List Char} (form : ImportText text literal) : 0 < text.length := by
  obtain ⟨-, -, -⟩ := form
  simp only [List.length_append]
  have word : "import".toList.length = 6 := rfl
  omega

theorem Occurs.start_lt_stop {line : List Char} {o : Occurrence} (occurs : Occurs line o) : o.start < o.stop := by
  obtain ⟨-, form⟩ := occurs
  exact Nat.lt_add_of_pos_right form.length_pos

theorem Occurs.stop_le {line : List Char} {o : Occurrence} (occurs : Occurs line o) : o.stop ≤ line.length := by
  obtain ⟨-, form⟩ := occurs
  simp only [List.length_append]
  omega

/-- What stands at the place of an import, told by where it starts. -/
theorem Occurs.exists_text {before rest : List Char} {o : Occurrence} (occurs : Occurs (before ++ rest) o)
    (starts : o.start = before.length) :
    endsInWord before = false ∧
      ∃ text after, ImportText text o.literal ∧ rest = text ++ after ∧ o.stop = before.length + text.length := by
  generalize whole : before ++ rest = line at occurs
  obtain ⟨apart, form⟩ := occurs
  obtain ⟨rfl, rfl⟩ := List.append_inj whole starts.symm
  exact ⟨apart, _, _, form, rfl, rfl⟩

/-- At one place starts at most one import. -/
theorem Occurs.unique {line : List Char} {o o' : Occurrence} (occurs : Occurs line o) (occurs' : Occurs line o')
    (starts : o'.start = o.start) : o' = o := by
  obtain @⟨before, text, after, literal, -, form⟩ := occurs
  obtain ⟨-, text', after', form', split, stops⟩ := occurs'.exists_text starts
  have read := import?_append form after
  rw [split, import?_append form'] at read
  obtain ⟨literals, rfl⟩ := Prod.mk.inj (Option.some.inj read)
  rw [← List.append_cancel_right split] at stops
  cases o'
  cases starts
  cases stops
  cases literals
  rfl

theorem imports_of_import? {cs literal rest : List Char} (read : import? cs = some (literal, rest)) :
    imports false cs = literal :: imports false rest := by
  cases cs with
  | nil => cases read
  | cons c tail =>
      rw [imports, if_neg Bool.false_ne_true]
      split
      · next found =>
          obtain ⟨rfl, rfl⟩ := Prod.mk.inj (Option.some.inj (read.symm.trans found))
          rfl
      · next missed => cases read.symm.trans missed

theorem imports_of_none {c : Char} {rest : List Char} (missed : import? (c :: rest) = none) :
    imports false (c :: rest) = imports (isWord c) rest := by
  rw [imports, if_neg Bool.false_ne_true]
  split
  · next found => cases missed.symm.trans found
  · rfl

/-- Reports from the next position are reports from this one when no import starts here. -/
theorem ReportsFrom.skip {line : List Char} {position : Nat} {reported : List Occurrence}
    (reports : ReportsFrom line (position + 1) reported) (none_here : ∀ o, Occurs line o → o.start ≠ position) :
    ReportsFrom line position reported where
  occur := reports.occur
  behind o member := Nat.le_of_succ_le (reports.behind o member)
  apart := reports.apart
  complete o occurs behind :=
    reports.complete o occurs (Nat.lt_of_le_of_ne behind fun here => none_here o occurs here.symm)

/-- An import here and reports from its end are reports from here. -/
theorem ReportsFrom.cons {line : List Char} {first : Occurrence} {reported : List Occurrence}
    (reports : ReportsFrom line first.stop reported) (occurs : Occurs line first) :
    ReportsFrom line first.start (first :: reported) where
  occur := List.forall_mem_cons.mpr ⟨occurs, reports.occur⟩
  behind := List.forall_mem_cons.mpr ⟨Nat.le_refl _, fun o member =>
    Nat.le_trans (Nat.le_of_lt occurs.start_lt_stop) (reports.behind o member)⟩
  apart := List.pairwise_cons.mpr ⟨reports.behind, reports.apart⟩
  complete o other behind := by
    by_cases inside : o.start < first.stop
    · exact ⟨first, List.mem_cons_self, behind, inside⟩
    · obtain ⟨r, member, within⟩ := reports.complete o other (Nat.not_lt.mp inside)
      exact ⟨r, List.mem_cons_of_mem first member, within⟩

theorem ReportsFrom.tail {line : List Char} {position : Nat} {first : Occurrence} {rest : List Occurrence}
    (reports : ReportsFrom line position (first :: rest)) : ReportsFrom line first.stop rest where
  occur o member := reports.occur o (List.mem_cons_of_mem first member)
  behind := (List.pairwise_cons.mp reports.apart).1
  apart := (List.pairwise_cons.mp reports.apart).2
  complete o occurs behind := by
    have here := reports.occur first List.mem_cons_self
    have later : position ≤ o.start := Nat.le_trans (reports.behind first List.mem_cons_self)
      (Nat.le_trans (Nat.le_of_lt here.start_lt_stop) behind)
    obtain ⟨r, member, starts, inside⟩ := reports.complete o occurs later
    rcases List.mem_cons.mp member with rfl | member
    · exact absurd inside (Nat.not_lt.mpr behind)
    · exact ⟨r, member, starts, inside⟩

/-- The first import that is reported is the leftmost one. -/
theorem ReportsFrom.start_le {line : List Char} {position : Nat} {first : Occurrence} {rest : List Occurrence}
    (reports : ReportsFrom line position (first :: rest)) {o : Occurrence} (occurs : Occurs line o)
    (behind : position ≤ o.start) : first.start ≤ o.start := by
  obtain ⟨r, member, starts, -⟩ := reports.complete o occurs behind
  rcases List.mem_cons.mp member with rfl | member
  · exact starts
  · have here := reports.occur first List.mem_cons_self
    exact Nat.le_trans (Nat.le_of_lt here.start_lt_stop) (Nat.le_trans (reports.tail.behind r member) starts)

theorem ReportsFrom.unique {line : List Char} {position : Nat} {reported reported' : List Occurrence}
    (reports : ReportsFrom line position reported) (reports' : ReportsFrom line position reported') :
    reported = reported' := by
  induction reported generalizing position reported' with
  | nil =>
      cases reported' with
      | nil => rfl
      | cons o rest =>
          obtain ⟨r, member, -⟩ := reports.complete o (reports'.occur o List.mem_cons_self)
            (reports'.behind o List.mem_cons_self)
          cases member
  | cons o rest ih =>
      have occurs := reports.occur o List.mem_cons_self
      have behind := reports.behind o List.mem_cons_self
      cases reported' with
      | nil =>
          obtain ⟨r, member, -⟩ := reports'.complete o occurs behind
          cases member
      | cons o' rest' =>
          have occurs' := reports'.occur o' List.mem_cons_self
          have starts : o.start = o'.start := Nat.le_antisymm
            (reports.start_le occurs' (reports'.behind o' List.mem_cons_self)) (reports'.start_le occurs behind)
          obtain rfl := occurs'.unique occurs starts
          rw [ih reports.tail reports'.tail]

/-- The scan of the rest of a line reports the imports from where the rest begins. -/
theorem exists_reportsFrom (before rest : List Char) :
    ∃ reported, imports (endsInWord before) rest = reported.map Occurrence.literal ∧
      ReportsFrom (before ++ rest) before.length reported := by
  generalize state : endsInWord before = inWord
  -- Along the scan: what lies before the rest grows by one character, or by a whole import.
  fun_induction imports inWord rest generalizing before with
  | case1 inWord =>
      refine ⟨[], rfl, by simp, by simp, .nil, fun o occurs behind => ?_⟩
      have ends := occurs.stop_le
      rw [List.append_nil] at ends
      exact absurd occurs.start_lt_stop (by omega)
  | case2 c rest ih =>
      obtain ⟨reported, literals, reports⟩ := ih (before ++ [c]) (endsInWord_concat before c)
      rw [List.length_append, List.append_assoc, List.singleton_append] at reports
      refine ⟨reported, literals, reports.skip fun o occurs starts => ?_⟩
      have apart := (occurs.exists_text starts).1
      rw [state] at apart
      cases apart
  | case3 inWord c rest notInWord literal after read ih =>
      obtain ⟨text, form, split⟩ := exists_importText read
      obtain ⟨reported, literals, reports⟩ := ih (before ++ text) (form.endsInWord_append before)
      have here : Occurs (before ++ c :: rest) ⟨before.length, before.length + text.length, literal⟩ := by
        rw [split]
        exact .mk (by simpa [notInWord] using state) form
      rw [List.length_append, List.append_assoc, ← split] at reports
      exact ⟨_ :: reported, congrArg _ literals, reports.cons here⟩
  | case4 inWord c rest notInWord missed ih =>
      obtain ⟨reported, literals, reports⟩ := ih (before ++ [c]) (endsInWord_concat before c)
      rw [List.length_append, List.append_assoc, List.singleton_append] at reports
      refine ⟨reported, literals, reports.skip fun o occurs starts => ?_⟩
      obtain ⟨-, text, after, form, split, -⟩ := occurs.exists_text starts
      rw [split, import?_append form] at missed
      cases missed

/-! ## Blocks of a line -/

theorem isAlpha_iff_letter {c : Char} : c.isAlpha ↔ Letter c :=
  Bool.or_eq_true_iff.trans
    (or_congr decide_eq_true_iff (Bool.and_eq_true_iff.trans (and_congr decide_eq_true_iff decide_eq_true_iff)))

theorem isNameStart_iff {c : Char} : isNameStart c ↔ Letter c ∨ c = '_' := by
  rw [isNameStart, Bool.or_eq_true, isAlpha_iff_letter, beq_iff_eq]

theorem isNamePart_iff {c : Char} : isNamePart c ↔ Letter c ∨ '0' ≤ c ∧ c ≤ '9' ∨ c = '_' := by
  have digit : c.isDigit ↔ '0' ≤ c ∧ c ≤ '9' :=
    Bool.and_eq_true_iff.trans (and_congr decide_eq_true_iff decide_eq_true_iff)
  have alphanum : c.isAlphanum ↔ Letter c ∨ '0' ≤ c ∧ c ≤ '9' :=
    Bool.or_eq_true_iff.trans (or_congr isAlpha_iff_letter digit)
  rw [isNamePart, Bool.or_eq_true, alphanum, beq_iff_eq, or_assoc]

theorem isBlank_of_between {c : Char} (above : 0x20 < c.toNat) (below : c.toNat < 0x85) : isBlank c = false := by
  simp only [isBlank, Text.blankRanges, Text.CharRanges.contains, List.any_cons, List.any_nil, Bool.or_eq_false_iff,
    Bool.and_eq_false_iff, decide_eq_false_iff_not, and_true]
  omega

/-- Names and blanks have no character in common. -/
theorem isBlank_of_isNamePart {c : Char} (inName : isNamePart c) : isBlank c = false := by
  have codes {low high : Char} (between : low ≤ c ∧ c ≤ high) : low.toNat ≤ c.toNat ∧ c.toNat ≤ high.toNat :=
    between
  have inside : '0'.toNat ≤ c.toNat ∧ c.toNat ≤ 'z'.toNat := by
    rcases isNamePart_iff.mp inName with (upper | lower) | digit | rfl
    · exact ⟨Nat.le_trans (by decide) (codes upper).1, Nat.le_trans (codes upper).2 (by decide)⟩
    · exact ⟨Nat.le_trans (by decide) (codes lower).1, (codes lower).2⟩
    · exact ⟨(codes digit).1, Nat.le_trans (codes digit).2 (by decide)⟩
    · decide
  exact isBlank_of_between (Nat.lt_of_lt_of_le (by decide) inside.1) (Nat.lt_of_le_of_lt inside.2 (by decide))

/-- The characters of a name end where blanks or a brace stand. -/
theorem isNamePart_of_head? {gap after : List Char} (blank : ∀ c ∈ gap, isBlank c) :
    ∀ c ∈ (gap ++ '{' :: after).head?, isNamePart c = false := by
  cases gap with
  | nil => exact solid_cons rfl after
  | cons d gap =>
      refine solid_cons ?_ _
      by_contra inName
      have solid := isBlank_of_isNamePart (by simpa using inName)
      rw [blank d List.mem_cons_self] at solid
      cases solid

theorem opensBlock_iff {keyword : String} {cs : List Char} :
    opensBlock keyword cs ↔ ∃ gap name gap' after, Gap gap ∧ Identifier name ∧ (∀ c ∈ gap', isBlank c) ∧
      cs = keyword.toList ++ gap ++ name ++ gap' ++ '{' :: after := by
  constructor
  · intro opens
    rw [opensBlock] at opens
    split at opens
    · next first rest found =>
        obtain ⟨gap, blank, rfl⟩ := exists_gap_of_afterWord? found
        obtain ⟨starts, brace⟩ := Bool.and_eq_true_iff.mp opens
        obtain ⟨after, split⟩ := List.head?_eq_some_iff.mp (eq_of_beq brace)
        refine ⟨gap, first :: rest.takeWhile isNamePart, (rest.dropWhile isNamePart).takeWhile isBlank, after, blank,
          .mk (isNameStart_iff.mp starts) fun c member => isNamePart_iff.mp (List.mem_takeWhile_imp member),
          fun c member => List.mem_takeWhile_imp member, ?_⟩
        simp only [List.append_assoc, ← split, List.takeWhile_append_dropWhile, List.cons_append]
    · cases opens
  · rintro ⟨gap, _, gap', after, blank, @⟨first, rest, starts, inName⟩, blank', rfl⟩
    have solid : isBlank first = false := isBlank_of_isNamePart (isNamePart_iff.mpr (starts.imp_right .inr))
    have found := afterWord?_append keyword blank
      (solid_cons solid (rest ++ (gap' ++ '{' :: after)))
    simp only [List.append_assoc, List.cons_append]
    rw [opensBlock, found]
    change (isNameStart first && _) = true
    rw [isNameStart_iff.mpr starts,
      dropWhile_append_solid (fun c member => isNamePart_iff.mpr (inName c member)) (isNamePart_of_head? blank'),
      dropWhile_append_solid blank' (solid_cons rfl after)]
    rfl

theorem hasBlock_iff {keyword : String} (before rest : List Char) :
    hasBlock keyword (endsInWord before) rest ↔
      ∃ front back, rest = front ++ back ∧ endsInWord (before ++ front) = false ∧ opensBlock keyword back := by
  induction rest generalizing before with
  | nil =>
      simp only [hasBlock, Bool.false_eq_true, false_iff]
      rintro ⟨front, back, split, -, opens⟩
      obtain ⟨rfl, rfl⟩ := List.append_eq_nil_iff.mp split.symm
      obtain ⟨gap, name, gap', after, -, -, -, blank⟩ := opensBlock_iff.mp opens
      simp at blank
  | cons c rest ih =>
      have later := ih (before ++ [c])
      rw [endsInWord_concat] at later
      rw [hasBlock, Bool.or_eq_true, later, Bool.and_eq_true, Bool.not_eq_true']
      constructor
      · rintro (⟨apart, opens⟩ | ⟨front, back, rfl, apart, opens⟩)
        · exact ⟨[], c :: rest, rfl, by rwa [List.append_nil], opens⟩
        · exact ⟨c :: front, back, rfl, by rwa [List.append_assoc] at apart, opens⟩
      · rintro ⟨front, back, split, apart, opens⟩
        cases front with
        | nil =>
            obtain rfl : c :: rest = back := split
            rw [List.append_nil] at apart
            exact .inl ⟨apart, opens⟩
        | cons d front =>
            obtain ⟨rfl, rfl⟩ := List.cons.inj split
            exact .inr ⟨front, back, rfl, by rwa [List.append_assoc], opens⟩

theorem hasBlock_iff_opens {keyword : String} {code : List Char} :
    hasBlock keyword false code ↔ Opens keyword code := by
  refine (hasBlock_iff [] code).trans ?_
  constructor
  · rintro ⟨before, back, rfl, apart, opens⟩
    obtain ⟨gap, name, gap', after, blank, named, blank', rfl⟩ := opensBlock_iff.mp opens
    exact .mk apart blank named blank'
  · rintro ⟨apart, blank, named, blank'⟩
    exact ⟨_, _, rfl, apart, opensBlock_iff.mpr ⟨_, _, _, _, blank, named, blank', rfl⟩⟩

/-! ## Whole texts -/

/-- A line, its code, and the imports of its code. -/
@[ext]
structure ReadLine where
  line : List Char
  code : List Char
  imports : List Occurrence

/-- A text read by the grammar, line by line. -/
structure Reads (text : List Char) (lines : List ReadLine) : Prop where
  split : Text.SplitsInto text (lines.map (·.line))
  code : ∀ l ∈ lines, Uncommented l.line l.code
  imports : ∀ l ∈ lines, ReportsFrom l.code 0 l.imports

/-- The grammar reads a text in one way. -/
theorem Reads.unique {text : List Char} {lines lines' : List ReadLine} (reads : Reads text lines)
    (reads' : Reads text lines') : lines = lines' := by
  have same := reads.split.eq_lines.trans reads'.split.eq_lines.symm
  have length : lines.length = lines'.length := by simpa using congrArg List.length same
  refine List.ext_getElem length fun n inside inside' => ?_
  have line : lines[n].line = lines'[n].line := by
    have here : (lines.map (·.line))[n]? = (lines'.map (·.line))[n]? := congrArg (·[n]?) same
    simpa [inside, inside'] using here
  have code := (reads.code _ (List.getElem_mem inside)).eq_stripComment
  rw [line, ← (reads'.code _ (List.getElem_mem inside')).eq_stripComment] at code
  have reports := reads.imports _ (List.getElem_mem inside)
  rw [code] at reports
  exact ReadLine.ext line code (reports.unique (reads'.imports _ (List.getElem_mem inside')))

/-- A text is read by the grammar, and the literals that it reads are those the scan reports. -/
theorem exists_reads (text : List Char) :
    ∃ lines, Reads text lines ∧ lines.map (·.code) = codeLines text ∧
      (codeLines text).flatMap (imports false) = (lines.flatMap (·.imports)).map Occurrence.literal := by
  choose reported literals reports using exists_reportsFrom []
  refine ⟨(Text.lines text).map fun line => ⟨line, stripComment line, reported (stripComment line)⟩, ?_, ?_, ?_⟩
  · refine ⟨?_, ?_, ?_⟩
    · rw [List.map_map]
      exact (List.map_id _).symm ▸ Text.splitsInto_lines text
    · simpa using fun line _ => uncommented_stripComment line
    · simpa using fun line _ => reports (stripComment line)
  · rw [List.map_map]
    rfl
  · rw [codeLines, List.flatMap_map, List.flatMap_map, List.map_flatMap]
    exact List.flatMap_congr fun line _ => literals (stripComment line)

/-- A scan accepts exactly the grammar of declarations: there is one way to read the text by it, line of code by line
    of code, the imports are the literals that it reads, and a service or a message is seen where its block opens. -/
theorem ofText_grammar (text : List Char) :
    ∃ lines, Reads text lines ∧ (∀ lines', Reads text lines' → lines' = lines) ∧
      (Declarations.ofText text).imports = (lines.flatMap (·.imports)).map (fun o => String.ofList o.literal) ∧
      ((Declarations.ofText text).hasService ↔ ∃ l ∈ lines, Opens "service" l.code) ∧
      ((Declarations.ofText text).hasMessage ↔ ∃ l ∈ lines, Opens "message" l.code) := by
  obtain ⟨lines, reads, codes, literals⟩ := exists_reads text
  have opens (keyword : String) :
      (codeLines text).any (hasBlock keyword false) ↔ ∃ l ∈ lines, Opens keyword l.code := by
    rw [← codes, List.any_map, List.any_eq_true]
    exact exists_congr fun l => and_congr_right fun _ => hasBlock_iff_opens
  refine ⟨lines, reads, fun _ reads' => reads'.unique reads, ?_, opens "service", opens "message"⟩
  rw [Declarations.ofText, literals, List.map_map]
  rfl

end ProtoTree.Scan
