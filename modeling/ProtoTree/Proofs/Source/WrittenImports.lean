import ProtoTree.Proofs.Source.Grammar

/-! # Written imports

A text may be put together from import statements, several to a line, with
comments behind them. The blanks, the modifiers, the quotes, the comments and the
ends of the lines are free; a scan of the text gives back the literals.
-/

namespace ProtoTree

namespace Text

theorem blankRanges_apart_wordRanges : ∀ b ∈ blankRanges, ∀ w ∈ wordRanges, b.2 < w.1 ∨ w.2 < b.1 := by
  decide +kernel

/-- A blank is no word character. -/
theorem isWord_of_isBlank {c : Char} (blank : isBlank c) : isWord c = false := by
  rw [isWord]
  split
  · by_contra inName
    have solid := Scan.isBlank_of_isNamePart (eq_true_of_ne_false inName)
    rw [blank] at solid
    cases solid
  · by_contra inWord
    obtain ⟨b, isRange, insideBlank⟩ := List.any_eq_true.mp blank
    obtain ⟨w, isRange', insideWord⟩ := List.any_eq_true.mp (eq_true_of_ne_false inWord)
    have apart := blankRanges_apart_wordRanges b isRange w isRange'
    simp only [Bool.and_eq_true, decide_eq_true_eq] at insideBlank insideWord
    omega

end Text

namespace Scan

open Text (isBlank isWord)

/-- A character that neither belongs to a word nor starts an import is passed over. -/
theorem imports_cons_of_not_isWord {c : Char} (apart : isWord c = false) (rest : List Char) :
    imports false (c :: rest) = imports false rest := by
  have missed : import? (c :: rest) = none := by
    have other : c ≠ 'i' := by
      rintro rfl
      cases apart
    rw [import?, afterWord?_eq_none rfl other]
  rw [imports_of_none missed, apart]

theorem imports_append_of_blank {gap : List Char} (blank : ∀ c ∈ gap, isBlank c) (rest : List Char) :
    imports false (gap ++ rest) = imports false rest := by
  induction gap with
  | nil => rfl
  | cons c gap ih =>
      obtain ⟨first, inner⟩ := List.forall_mem_cons.mp blank
      rw [List.cons_append, imports_cons_of_not_isWord (Text.isWord_of_isBlank first), ih inner]

/-- Stripping comments passes over a text, whatever follows it. -/
def Kept (front : List Char) : Prop := ∀ rest, stripComment (front ++ rest) = front ++ stripComment rest

theorem Kept.append {front back : List Char} (first : Kept front) (second : Kept back) : Kept (front ++ back) := by
  intro rest
  rw [List.append_assoc, first, second, List.append_assoc]

theorem Kept.flatMap {α : Type} {chars : α → List Char} (kept : ∀ a, Kept (chars a)) (parts : List α) :
    Kept (parts.flatMap chars) := by
  induction parts with
  | nil => exact fun rest => rfl
  | cons a parts ih => exact (kept a).append ih

/-- Without a slash there is no comment. -/
theorem kept_of_not_mem {front : List Char} (plain : '/' ∉ front) : Kept front :=
  stripComment_append (fun comment => plain (comment.subset List.mem_cons_self))
    (fun slash => plain (List.mem_of_getLast? slash))

/-- A slash at the end of a text starts no comment together with another character. -/
theorem kept_concat {front : List Char} {c : Char} (clean : ¬ ['/', '/'] <:+: front) (other : c ≠ '/') :
    Kept (front ++ [c]) := by
  refine stripComment_append (fun comment => ?_) (by simpa using other)
  rcases List.infix_concat_iff.mp comment with ends | inner
  · obtain ⟨before, split⟩ := ends
    have last : '/' = c := by simpa using congrArg List.getLast? split
    exact other last.symm
  · exact clean inner

end Scan

/-! ## Statements, lines and texts -/

namespace Written

open Text (isBlank stripReturn)
open Scan (Gap Modifier ImportText Kept stripComment codeLines)

/-- White space within a line. -/
structure Blanks where
  chars : List Char
  blank : ∀ c ∈ chars, isBlank c
  oneLine : '\n' ∉ chars

/-- White space that keeps two words apart. -/
structure Separator extends Blanks where
  filled : chars ≠ []

/-- A quote character. -/
inductive Quote
  | double
  | single

def Quote.char : Quote → Char
  | .double => '"'
  | .single => '\''

/-- What may qualify an import. -/
inductive Qualifier
  | isPublic
  | isWeak

def Qualifier.word : Qualifier → String
  | .isPublic => "public"
  | .isWeak => "weak"

/-- An import statement. The literal keeps to one line, and neither closes its quotes nor starts a comment. -/
structure Import where
  indent : Blanks
  gap : Separator
  modifier : Option (Qualifier × Separator)
  quote : Quote
  literal : List Char
  unquoted : quote.char ∉ literal
  oneLine : '\n' ∉ literal
  clean : ¬ ['/', '/'] <:+: literal

/-- What stands between the white space behind the keyword and the literal. -/
def Import.modifierChars (i : Import) : List Char :=
  match i.modifier with
  | none => []
  | some (qualifier, gap) => qualifier.word.toList ++ gap.chars

/-- The statement from its keyword to its closing quote. -/
def Import.statement (i : Import) : List Char :=
  "import".toList ++ i.gap.chars ++ i.modifierChars ++ (i.quote.char :: i.literal ++ [i.quote.char])

def Import.chars (i : Import) : List Char := i.indent.chars ++ i.statement ++ [';']

/-- How a line is set apart from the next one. -/
inductive LineEnd
  | newline
  | returnNewline

def LineEnd.chars : LineEnd → List Char
  | .newline => ['\n']
  | .returnNewline => ['\r', '\n']

/-- A line of import statements, the text of a comment behind them, and how the line ends when another one follows. -/
structure Line where
  imports : List Import
  comment : Option (List Char)
  oneLine : ∀ text ∈ comment, '\n' ∉ text
  ending : LineEnd

def Line.code (l : Line) : List Char := l.imports.flatMap (·.chars)

def Line.commentChars (l : Line) : List Char :=
  match l.comment with
  | none => []
  | some text => '/' :: '/' :: text

def Line.chars (l : Line) : List Char := l.code ++ l.commentChars

/-- Lines joined by their ends; the last one has none. -/
def text : List Line → List Char
  | [] => []
  | [last] => last.chars
  | l :: rest => l.chars ++ (l.ending.chars ++ text rest)

/-! ## Scanning a statement -/

theorem Separator.isGap (s : Separator) : Gap s.chars := ⟨s.filled, s.blank⟩

theorem Blanks.kept (b : Blanks) : Kept b.chars := by
  refine Scan.kept_of_not_mem fun slash => ?_
  cases b.blank '/' slash

theorem Quote.char_eq (q : Quote) : q.char = '"' ∨ q.char = '\'' := by
  cases q
  · exact .inl rfl
  · exact .inr rfl

theorem Quote.char_ne_slash (q : Quote) : q.char ≠ '/' := by
  cases q <;> decide

theorem Import.modifier_modifierChars (i : Import) : Modifier i.modifierChars := by
  rw [modifierChars]
  split
  · exact .none
  · next qualifier gap _ =>
      refine .word ?_ gap.isGap
      cases qualifier
      · exact .inl rfl
      · exact .inr rfl

theorem Import.kept_modifierChars (i : Import) : Kept i.modifierChars := by
  rw [modifierChars]
  split
  · exact fun rest => rfl
  · next qualifier gap _ =>
      refine (Scan.kept_of_not_mem ?_).append gap.kept
      cases qualifier <;> decide

theorem Import.importText_statement (i : Import) : ImportText i.statement i.literal :=
  .mk i.gap.isGap i.modifier_modifierChars (.mk i.quote.char_eq i.unquoted)

/-- The literal is the one place of a statement where a slash may stand, and its closing quote ends it. -/
theorem Import.kept_chars (i : Import) : Kept i.chars := by
  have opening : Kept [i.quote.char] :=
    Scan.kept_of_not_mem (by simpa using i.quote.char_ne_slash.symm)
  have quoted : Kept (i.quote.char :: i.literal ++ [i.quote.char]) :=
    opening.append (Scan.kept_concat i.clean i.quote.char_ne_slash)
  have keyword : Kept "import".toList := Scan.kept_of_not_mem (by decide)
  have statement : Kept i.statement := ((keyword.append i.gap.kept).append i.kept_modifierChars).append quoted
  exact (i.indent.kept.append statement).append (Scan.kept_of_not_mem (by decide))

theorem Import.imports_append (i : Import) (rest : List Char) :
    Scan.imports false (i.chars ++ rest) = i.literal :: Scan.imports false rest := by
  have read := Scan.import?_append i.importText_statement (';' :: rest)
  have semicolon : Scan.imports false (';' :: rest) = Scan.imports false rest :=
    Scan.imports_cons_of_not_isWord rfl rest
  rw [chars, List.append_assoc, List.append_assoc, Scan.imports_append_of_blank i.indent.blank, List.singleton_append,
    Scan.imports_of_import? read, semicolon]

/-! ## Scanning lines -/

theorem Line.kept_code (l : Line) : Kept l.code := .flatMap Import.kept_chars l.imports

theorem Line.imports_code (l : Line) : Scan.imports false l.code = l.imports.map (·.literal) := by
  rw [code]
  induction l.imports with
  | nil => rw [List.flatMap_nil, Scan.imports]; rfl
  | cons i is ih => rw [List.flatMap_cons, i.imports_append, ih, List.map_cons]

theorem Line.stripComment_chars (l : Line) : stripComment l.chars = l.code := by
  have comment : stripComment l.commentChars = [] := by
    rw [commentChars]
    split <;> rw [stripComment]
  rw [chars, l.kept_code, comment, List.append_nil]

theorem Line.stripReturn_code (l : Line) : stripReturn l.code = l.code := by
  rw [code]
  rcases List.eq_nil_or_concat l.imports with none | ⟨front, last, split⟩
  · rw [none]
    rfl
  · rw [split, List.concat_eq_append, List.flatMap_append, List.flatMap_singleton, Import.chars, ← List.append_assoc,
      Text.stripReturn_append _ (List.cons_ne_nil ';' [])]
    rfl

/-- The newline of a line may take the last character of the comment along, but nothing of the code. -/
theorem Line.stripComment_stripReturn (l : Line) : stripComment (stripReturn l.chars) = l.code := by
  rw [chars, commentChars]
  split
  · rw [List.append_nil, l.stripReturn_code, ← List.append_nil l.code, l.kept_code, stripComment]
  · next text _ =>
      have comment : stripComment (stripReturn ('/' :: '/' :: text)) = [] := by
        cases text with
        | nil => rfl
        | cons c text => exact congrArg stripComment (Text.stripReturn_append ['/', '/'] (List.cons_ne_nil c text))
      rw [Text.stripReturn_append _ (List.cons_ne_nil _ _), l.kept_code, comment, List.append_nil]

theorem Import.newline_not_mem (i : Import) : '\n' ∉ i.chars := by
  have modifier : '\n' ∉ i.modifierChars := by
    rw [modifierChars]
    split
    · exact List.not_mem_nil
    · next qualifier gap _ =>
        exact List.not_mem_append (by cases qualifier <;> decide) gap.oneLine
  have quote : '\n' ≠ i.quote.char := by
    cases i.quote <;> decide
  have quoted : '\n' ∉ i.quote.char :: i.literal ++ [i.quote.char] := by
    simpa only [List.mem_append, List.mem_cons, List.not_mem_nil, or_false, not_or] using ⟨⟨quote, i.oneLine⟩, quote⟩
  have keyword : '\n' ∉ "import".toList := by decide
  have statement : '\n' ∉ i.statement :=
    List.not_mem_append (List.not_mem_append (List.not_mem_append keyword i.gap.oneLine) modifier) quoted
  exact List.not_mem_append (List.not_mem_append i.indent.oneLine statement) (by decide)

theorem Line.newline_not_mem (l : Line) : '\n' ∉ l.chars := by
  have code : '\n' ∉ l.code := by
    rw [Line.code, List.mem_flatMap]
    rintro ⟨i, -, newline⟩
    exact i.newline_not_mem newline
  have comment : '\n' ∉ l.commentChars := by
    rw [commentChars]
    split
    · exact List.not_mem_nil
    · next text given =>
        simp only [List.mem_cons, not_or]
        exact ⟨by decide, by decide, l.oneLine text given⟩
  exact List.not_mem_append code comment

theorem Line.codeLines_append (l : Line) (rest : List Char) :
    codeLines (l.chars ++ (l.ending.chars ++ rest)) = l.code :: codeLines rest := by
  cases l.ending with
  | newline =>
      have cut := Text.lines_append l.newline_not_mem rest
      change (Text.lines (l.chars ++ '\n' :: rest)).map stripComment = _
      rw [cut, List.map_cons, l.stripComment_stripReturn]
      rfl
  | returnNewline =>
      have whole : '\n' ∉ l.chars ++ ['\r'] := by simpa using l.newline_not_mem
      have cut := Text.lines_append whole rest
      rw [List.append_assoc, Text.stripReturn_concat] at cut
      change (Text.lines (l.chars ++ (['\r'] ++ '\n' :: rest))).map stripComment = _
      rw [cut, List.map_cons, l.stripComment_chars]
      rfl

/-- Without characters the last line is none, and it has no imports then. -/
theorem Line.imports_codeLines (l : Line) :
    (codeLines l.chars).flatMap (Scan.imports false) = l.imports.map (·.literal) := by
  rw [← l.imports_code, ← l.stripComment_chars, codeLines, Text.lines_of_not_mem l.newline_not_mem]
  cases l.chars with
  | nil => rw [stripComment, Scan.imports]; rfl
  | cons c rest => simp

theorem imports_codeLines_text (lines : List Line) :
    (codeLines (text lines)).flatMap (Scan.imports false) = lines.flatMap fun l => l.imports.map (·.literal) := by
  fun_induction text lines with
  | case1 => rfl
  | case2 last => rw [last.imports_codeLines, List.flatMap_singleton]
  | case3 l rest _ ih => rw [l.codeLines_append, List.flatMap_cons, List.flatMap_cons, l.imports_code, ih]

/-- A scan gives back the literals of the imports a text is written with, in the order they are written. -/
theorem imports_ofText_text (lines : List Line) :
    (Declarations.ofText (text lines)).imports =
      lines.flatMap fun l => l.imports.map fun i => String.ofList i.literal := by
  rw [Declarations.ofText, imports_codeLines_text, List.map_flatMap]
  simp only [List.map_map]
  rfl

/-! ## A written text -/

def noBlanks : Blanks := ⟨[], List.forall_mem_nil _, by decide⟩

def oneBlank : Separator := ⟨⟨[' '], List.forall_mem_singleton.mpr rfl, by decide⟩, by decide⟩

def oneTab : Separator := ⟨⟨['\t'], List.forall_mem_singleton.mpr rfl, by decide⟩, by decide⟩

/-- Two imports before a comment with a carriage return at its end, then three imports on the last line. -/
def writtenLines : List Line :=
  [⟨[⟨noBlanks, oneBlank, none, .double, "a.proto".toList, by decide, by decide, by decide⟩,
      ⟨oneTab.toBlanks, oneBlank, some (.isPublic, oneBlank), .single, "x\"import".toList, by decide, by decide,
        by decide⟩],
    some " import \"n\";".toList, by decide, .returnNewline⟩,
   ⟨[⟨noBlanks, oneTab, some (.isWeak, oneTab), .double, "é/".toList, by decide, by decide, by decide⟩,
      ⟨oneBlank.toBlanks, oneBlank, none, .double, "a.proto".toList, by decide, by decide, by decide⟩,
      ⟨noBlanks, oneBlank, none, .single, [], by decide, by decide, by decide⟩],
    none, by decide, .newline⟩]

theorem imports_ofText_text_written :
    String.ofList (text writtenLines) =
        "import \"a.proto\";\timport public 'x\"import';// import \"n\";\r\n" ++
          "import\tweak\t\"é/\"; import \"a.proto\";import '';" ∧
      (Declarations.ofText (text writtenLines)).imports = ["a.proto", "x\"import", "é/", "a.proto", ""] :=
  ⟨by decide, imports_ofText_text writtenLines⟩

end Written

end ProtoTree
