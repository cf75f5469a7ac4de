import Mathlib.Data.List.Infix
import ProtoTree.Source.Declarations

/-! # Lines of code

A newline ends a line and takes one carriage return before it along. The code of
a line is what stands before the first `//`.
-/

namespace ProtoTree

namespace Text

/-- The lines of a text. A newline ends a line, alone or together with one carriage return before it; what follows the
    last newline is a line unless it is empty. -/
inductive SplitsInto : List Char → List (List Char) → Prop
  | nil : SplitsInto [] []
  | last {line : List Char} : line ≠ [] → '\n' ∉ line → SplitsInto line [line]
  | newline {line rest : List Char} {lines : List (List Char)} :
      '\n' ∉ line → line.getLast? ≠ some '\r' → SplitsInto rest lines →
      SplitsInto (line ++ '\n' :: rest) (line :: lines)
  | returned {line rest : List Char} {lines : List (List Char)} :
      '\n' ∉ line → SplitsInto rest lines → SplitsInto (line ++ '\r' :: '\n' :: rest) (line :: lines)

theorem stripReturn_concat (line : List Char) : stripReturn (line ++ ['\r']) = line := by
  rw [stripReturn, List.getLast?_concat, if_pos rfl, List.dropLast_concat]

theorem stripReturn_eq_self {line : List Char} (ends : line.getLast? ≠ some '\r') : stripReturn line = line :=
  if_neg ends

theorem stripReturn_append (front : List Char) {back : List Char} (filled : back ≠ []) :
    stripReturn (front ++ back) = front ++ stripReturn back := by
  rw [stripReturn, stripReturn, List.getLast?_append_of_ne_nil front filled]
  split
  · rw [List.dropLast_append_of_ne_nil filled]
  · rfl

theorem lines_of_not_mem {line : List Char} (whole : '\n' ∉ line) :
    lines line = if line.isEmpty then [] else [line] := by
  rw [lines, List.splitOn_eq_singleton whole, linesOfPieces]

theorem lines_append {line : List Char} (whole : '\n' ∉ line) (rest : List Char) :
    lines (line ++ '\n' :: rest) = stripReturn line :: lines rest := by
  rw [lines, lines, List.splitOn_append_cons_self, List.splitOn_eq_singleton whole, List.singleton_append]
  obtain ⟨piece, pieces, split⟩ := List.exists_cons_of_ne_nil (List.splitOn_ne_nil '\n' rest)
  rw [split, linesOfPieces]
  exact List.cons_ne_nil piece pieces

theorem splitsInto_lines (text : List Char) : SplitsInto text (lines text) := by
  by_cases more : '\n' ∈ text
  · obtain ⟨line, rest, rfl, whole⟩ := List.eq_append_cons_of_mem more
    rw [lines_append whole]
    by_cases ends : line.getLast? = some '\r'
    · obtain ⟨front, rfl⟩ := List.getLast?_eq_some_iff.mp ends
      rw [stripReturn_concat, List.append_assoc, List.singleton_append]
      exact .returned (fun member => whole (List.mem_append_left _ member)) (splitsInto_lines rest)
    · rw [stripReturn_eq_self ends]
      exact .newline whole ends (splitsInto_lines rest)
  · rw [lines_of_not_mem more]
    cases text with
    | nil => exact .nil
    | cons c rest => exact .last (List.cons_ne_nil c rest) more
termination_by text.length

/-- A text is made up of its lines in one way. -/
theorem SplitsInto.eq_lines {text : List Char} {ls : List (List Char)} (split : SplitsInto text ls) :
    ls = lines text := by
  induction split with
  | nil => rfl
  | @last line filled whole =>
      rw [lines_of_not_mem whole, if_neg (by simpa using filled)]
  | newline whole ends _ ih =>
      rw [lines_append whole, stripReturn_eq_self ends, ih]
  | @returned line rest ls whole _ ih =>
      have whole' : '\n' ∉ line ++ ['\r'] := by simpa using whole
      rw [← List.singleton_append (x := '\r'), ← List.append_assoc, lines_append whole', stripReturn_concat, ih]

end Text

namespace Scan

/-- What stands before the first `//` of a line. -/
inductive Uncommented : List Char → List Char → Prop
  | whole {line : List Char} : ¬ ['/', '/'] <:+: line → Uncommented line line
  | cut {code comment : List Char} : ¬ ['/', '/'] <:+: code ++ ['/'] →
      Uncommented (code ++ '/' :: '/' :: comment) code

/-- A character before a text starts a comment only as the first of two slashes. -/
theorem not_comment_cons {c : Char} {text : List Char} (apart : ∀ rest, c = '/' → text = '/' :: rest → False)
    (clean : ¬ ['/', '/'] <:+: text) : ¬ ['/', '/'] <:+: c :: text := by
  intro comment
  rcases List.infix_cons_iff.mp comment with ⟨rest, starts⟩ | inner
  · obtain ⟨rfl, tail⟩ := List.cons.inj starts
    exact apart rest rfl tail.symm
  · exact clean inner

theorem uncommented_stripComment (line : List Char) : Uncommented line (stripComment line) := by
  fun_induction stripComment line with
  | case1 => exact .whole (by simp)
  | case2 rest =>
      have clean : ¬ ['/', '/'] <:+: [] ++ ['/'] := by decide
      exact .cut clean
  | case3 c rest apart ih =>
      -- `ih` tells where the comment of the rest starts; `c` and the rest do not start one earlier.
      generalize stripComment rest = code at ih
      cases ih with
      | whole clean => exact .whole (not_comment_cons apart clean)
      | @cut _ comment clean =>
          have earlier : ¬ ['/', '/'] <:+: c :: code ++ ['/'] := by
            refine not_comment_cons (fun rest slash starts => ?_) clean
            cases code with
            | nil => exact apart _ slash rfl
            | cons d code =>
                obtain ⟨rfl, -⟩ := List.cons.inj starts
                exact apart _ slash rfl
          exact .cut earlier

theorem stripComment_append {front : List Char} (clean : ¬ ['/', '/'] <:+: front)
    (ends : front.getLast? ≠ some '/') (rest : List Char) :
    stripComment (front ++ rest) = front ++ stripComment rest := by
  induction front with
  | nil => rfl
  | cons c front ih =>
      have inner : ¬ ['/', '/'] <:+: front := fun comment => clean (List.infix_cons comment)
      have innerEnds : front.getLast? ≠ some '/' := by
        intro slash
        exact ends (by rw [List.getLast?_cons, slash]; rfl)
      rw [List.cons_append, stripComment, ih inner innerEnds]
      · rfl
      · rintro tail rfl starts
        cases front with
        | nil => exact ends rfl
        | cons d front =>
            obtain ⟨rfl, -⟩ := List.cons.inj starts
            exact clean ⟨[], front, rfl⟩

theorem getLast?_ne_slash {code : List Char} (clean : ¬ ['/', '/'] <:+: code ++ ['/']) : code.getLast? ≠ some '/' := by
  intro slash
  obtain ⟨front, rfl⟩ := List.getLast?_eq_some_iff.mp slash
  exact clean ⟨front, [], by simp⟩

/-- The code of a line is what stripping the comment leaves. -/
theorem Uncommented.eq_stripComment {line code : List Char} (uncommented : Uncommented line code) :
    code = stripComment line := by
  cases uncommented with
  | cut clean =>
      have inner : ¬ ['/', '/'] <:+: code := fun comment => clean (comment.trans (List.prefix_append _ _).isInfix)
      rw [stripComment_append inner (getLast?_ne_slash clean), stripComment, List.append_nil]
  | whole clean =>
      by_cases ends : line.getLast? = some '/'
      · obtain ⟨front, rfl⟩ := List.getLast?_eq_some_iff.mp ends
        have inner : ¬ ['/', '/'] <:+: front := fun comment => clean (comment.trans (List.prefix_append _ _).isInfix)
        rw [stripComment_append inner (getLast?_ne_slash clean)]
        rfl
      · rw [← List.append_nil line, stripComment_append clean ends, stripComment]

end Scan

end ProtoTree
