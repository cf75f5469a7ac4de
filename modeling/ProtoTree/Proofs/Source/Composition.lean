import ProtoTree.Proofs.Source.WrittenImports

/-! # Declarations line by line

A text declares what the pieces between its newlines declare, one behind the
other. No declaration ends in a carriage return, so the returns that stay at the
end of a piece do not count, however the lines end.
-/

namespace ProtoTree

/-! ## The end of a line -/

namespace Scan

open Text (isWord)

theorem import?_concat {c : Char} (unquoted : c ≠ '"' ∧ c ≠ '\'')
    (cs : List Char) : import? (cs ++ [c]) = (import? cs).map fun read => (read.1, read.2 ++ [c]) := by
  cases read : import? cs with
  | some found =>
      obtain ⟨literal, rest⟩ := found
      obtain ⟨text, form, rfl⟩ := exists_importText read
      rw [List.append_assoc, import?_append form]
      rfl
  | none =>
      cases longer : import? (cs ++ [c]) with
      | none => rfl
      | some found =>
          obtain ⟨literal, rest⟩ := found
          obtain ⟨text, form, split⟩ := exists_importText longer
          rcases List.eq_nil_or_concat rest with rfl | ⟨rest, last, rfl⟩
          · -- the import would end in `c`
            obtain ⟨-, -, ⟨kind, -⟩⟩ := form
            rw [List.append_nil, ← List.append_assoc] at split
            have same := List.singleton_inj.mp (List.append_inj' split rfl).2
            rcases kind with rfl | rfl
            · exact absurd same unquoted.1
            · exact absurd same unquoted.2
          · rw [List.concat_eq_append, ← List.append_assoc] at split
            obtain ⟨rfl, -⟩ := List.append_inj' split rfl
            rw [import?_append form] at read
            cases read

/-- The imports of a line end where a quote closes. -/
theorem imports_concat {c : Char} (unquoted : c ≠ '"' ∧ c ≠ '\'') (inWord : Bool) (cs : List Char) :
    imports inWord (cs ++ [c]) = imports inWord cs := by
  fun_induction imports inWord cs with
  | case1 inWord =>
      have missed : import? [c] = none := import?_concat unquoted []
      cases inWord with
      | true => rw [List.nil_append, imports, if_pos rfl, imports]
      | false => rw [List.nil_append, imports_of_none missed, imports]
  | case2 d rest ih => rw [List.cons_append, imports, if_pos rfl, ih]
  | case3 inWord d rest notInWord literal after read ih =>
      have longer := import?_concat unquoted (d :: rest)
      rw [read] at longer
      obtain rfl : inWord = false := by simpa using notInWord
      rw [imports_of_import? longer, ih]
  | case4 inWord d rest notInWord missed ih =>
      have longer := import?_concat unquoted (d :: rest)
      rw [missed] at longer
      obtain rfl : inWord = false := by simpa using notInWord
      rw [List.cons_append, imports_of_none (by simpa using longer), ih]

/-- A block opens with a brace. -/
theorem opens_concat {keyword : String} {c : Char} (unbraced : c ≠ '{') (code : List Char) :
    Opens keyword (code ++ [c]) ↔ Opens keyword code := by
  constructor
  · generalize whole : code ++ [c] = line
    rintro @⟨before, gap, name, gap', after, apart, blank, named, blank'⟩
    rcases List.eq_nil_or_concat after with rfl | ⟨after, last, rfl⟩
    · rw [← List.append_assoc] at whole
      have same := List.singleton_inj.mp (List.append_inj' whole rfl).2
      exact absurd same unbraced
    · rw [List.concat_eq_append, ← List.cons_append, ← List.append_assoc, ← List.append_assoc] at whole
      obtain ⟨rfl, -⟩ := List.append_inj' whole rfl
      rw [List.append_assoc]
      exact .mk apart blank named blank'
  · rintro ⟨apart, blank, named, blank'⟩
    rw [List.append_assoc, List.append_assoc, List.cons_append]
    exact .mk apart blank named blank'

theorem hasBlock_concat (keyword : String) {c : Char} (unbraced : c ≠ '{') (code : List Char) :
    hasBlock keyword false (code ++ [c]) = hasBlock keyword false code := by
  rw [Bool.eq_iff_iff, hasBlock_iff_opens, hasBlock_iff_opens, opens_concat unbraced]

/-- A character behind a line stays behind the code of the line, or goes with the comment. -/
theorem stripComment_concat {c : Char} (other : c ≠ '/') (line : List Char) :
    stripComment (line ++ [c]) = stripComment line ++ [c] ∨ stripComment (line ++ [c]) = stripComment line := by
  have code := uncommented_stripComment line
  generalize stripComment line = code at code
  cases code with
  | whole clean =>
      have kept := kept_concat clean other []
      rw [List.append_nil, stripComment, List.append_nil] at kept
      exact .inl kept
  | @cut _ comment clean =>
      have longer : Uncommented (code ++ '/' :: '/' :: (comment ++ [c])) code := .cut clean
      refine .inr ?_
      rw [List.append_assoc]
      exact longer.eq_stripComment.symm

end Scan

namespace Declarations

open Scan (stripComment codeLines)

/-! ## Declarations one behind the other -/

/-- What two texts declare, one behind the other. -/
instance : Append Declarations where
  append d e := ⟨d.imports ++ e.imports, d.hasService || e.hasService, d.hasMessage || e.hasMessage⟩

theorem append_def (d e : Declarations) :
    d ++ e = ⟨d.imports ++ e.imports, d.hasService || e.hasService, d.hasMessage || e.hasMessage⟩ := rfl

@[simp] theorem empty_append (d : Declarations) : {} ++ d = d := by
  simp [append_def]

@[simp] theorem append_empty (d : Declarations) : d ++ {} = d := by
  simp [append_def]

theorem append_assoc (d e f : Declarations) : d ++ e ++ f = d ++ (e ++ f) := by
  simp only [append_def, List.append_assoc, Bool.or_assoc]

/-- What some lines declare, one behind the other. -/
def joined (parts : List Declarations) : Declarations := parts.foldr (· ++ ·) {}

@[simp] theorem joined_nil : joined [] = {} := rfl

@[simp] theorem joined_cons (d : Declarations) (parts : List Declarations) : joined (d :: parts) = d ++ joined parts := rfl

theorem joined_append (parts others : List Declarations) : joined (parts ++ others) = joined parts ++ joined others := by
  induction parts with
  | nil => rw [List.nil_append, joined_nil, empty_append]
  | cons d parts ih => rw [List.cons_append, joined_cons, joined_cons, ih, append_assoc]

/-- What a stretch of code without comments declares. -/
def ofCode (code : List Char) : Declarations where
  imports := (Scan.imports false code).map String.ofList
  hasService := Scan.hasBlock "service" false code
  hasMessage := Scan.hasBlock "message" false code

/-- What a line declares. -/
def ofLine (line : List Char) : Declarations := ofCode (stripComment line)

theorem ofCode_nil : ofCode [] = {} := by
  rw [ofCode, Scan.imports]
  rfl

theorem ofText_eq_joined (text : List Char) : ofText text = joined ((Text.lines text).map ofLine) := by
  have codes (lines : List (List Char)) : joined (lines.map ofCode) =
      ⟨(lines.flatMap (Scan.imports false)).map String.ofList, lines.any (Scan.hasBlock "service" false),
        lines.any (Scan.hasBlock "message" false)⟩ := by
    induction lines with
    | nil => rfl
    | cons line lines ih =>
        rw [List.map_cons, joined_cons, ih, List.flatMap_cons, List.map_append]
        rfl
  have whole := codes (codeLines text)
  rw [codeLines, List.map_map] at whole
  exact whole.symm

theorem ofCode_concat {c : Char} (unquoted : c ≠ '"' ∧ c ≠ '\'') (unbraced : c ≠ '{') (code : List Char) :
    ofCode (code ++ [c]) = ofCode code := by
  rw [ofCode, Scan.imports_concat unquoted, Scan.hasBlock_concat _ unbraced, Scan.hasBlock_concat _ unbraced, ofCode]

/-- A carriage return at the end of a line declares nothing and hides nothing. -/
theorem ofLine_concat_return (line : List Char) : ofLine (line ++ ['\r']) = ofLine line := by
  rcases Scan.stripComment_concat (c := '\r') (by decide) line with kept | dropped
  · rw [ofLine, kept, ofCode_concat (by decide) (by decide), ofLine]
  · rw [ofLine, dropped, ofLine]

theorem ofLine_stripReturn (line : List Char) : ofLine (Text.stripReturn line) = ofLine line := by
  by_cases ends : line.getLast? = some '\r'
  · obtain ⟨front, rfl⟩ := List.getLast?_eq_some_iff.mp ends
    rw [Text.stripReturn_concat, ofLine_concat_return]
  · rw [Text.stripReturn_eq_self ends]

/-- What a text declares is told by its pieces between newlines, as they are. -/
theorem ofText_eq_joined_pieces (text : List Char) : ofText text = joined ((text.splitOn '\n').map ofLine) := by
  rw [ofText_eq_joined, Text.lines]
  -- Along the pieces: a carriage return or an empty last piece makes no difference.
  fun_induction Text.linesOfPieces (text.splitOn '\n') with
  | case1 => rfl
  | case2 last empty =>
      rw [List.isEmpty_iff.mp empty, List.map_singleton, joined_cons, ofLine, stripComment, ofCode_nil]
      rfl
  | case3 last filled => rfl
  | case4 piece rest more ih => rw [List.map_cons, List.map_cons, joined_cons, joined_cons, ofLine_stripReturn, ih]

/-! ## Texts joined by newlines -/

theorem ofText_of_not_mem {line : List Char} (whole : '\n' ∉ line) : ofText line = ofLine line := by
  rw [ofText_eq_joined_pieces, List.splitOn_eq_singleton whole, List.map_singleton, joined_cons, joined_nil, append_empty]

theorem ofText_append_newline (front back : List Char) : ofText (front ++ '\n' :: back) = ofText front ++ ofText back := by
  simp only [ofText_eq_joined_pieces, List.splitOn_append_cons_self, List.map_append, joined_append]

end Declarations

/-- A text with a carriage return put before every newline. -/
def Text.returned (text : List Char) : List Char := text.flatMap fun c => if c = '\n' then ['\r', '\n'] else [c]

theorem Text.returned_append (front back : List Char) : returned (front ++ back) = returned front ++ returned back :=
  List.flatMap_append

theorem Text.returned_of_not_mem {line : List Char} (whole : '\n' ∉ line) : returned line = line := by
  have each : ∀ c ∈ line, (if c = '\n' then ['\r', '\n'] else [c]) = [c] := by
    intro c member
    refine if_neg ?_
    rintro rfl
    exact whole member
  rw [returned, List.flatMap_congr each, List.flatMap_singleton']

namespace Declarations

theorem ofText_returned (text : List Char) : ofText (Text.returned text) = ofText text := by
  by_cases more : '\n' ∈ text
  · obtain ⟨line, rest, rfl, whole⟩ := List.eq_append_cons_of_mem more
    have split : Text.returned (line ++ '\n' :: rest) = (line ++ ['\r']) ++ '\n' :: Text.returned rest := by
      rw [Text.returned_append, Text.returned_of_not_mem whole, List.append_assoc]
      rfl
    have wholeReturned : '\n' ∉ line ++ ['\r'] := by simpa using whole
    rw [split, ofText_append_newline, ofText_returned rest, ofText_of_not_mem wholeReturned, ofLine_concat_return,
      ← ofText_of_not_mem whole, ← ofText_append_newline]
  · rw [Text.returned_of_not_mem more]
termination_by text.length

/-- Two texts with a newline between them declare what each of them declares, one behind the other, and the
    convention by which lines end does not count. -/
theorem ofText_by_lines (front back text : List Char) :
    ((ofText (front ++ '\n' :: back)).imports = (ofText front).imports ++ (ofText back).imports ∧
      (ofText (front ++ '\n' :: back)).hasService = ((ofText front).hasService || (ofText back).hasService) ∧
      (ofText (front ++ '\n' :: back)).hasMessage = ((ofText front).hasMessage || (ofText back).hasMessage)) ∧
    ofText (Text.returned text) = ofText text := by
  refine ⟨?_, ofText_returned text⟩
  rw [ofText_append_newline]
  exact ⟨rfl, rfl, rfl⟩

end Declarations

end ProtoTree
