import ProtoTree.Text.Blank
import ProtoTree.Text.Lines
import ProtoTree.Text.Word

/-! # What a proto file declares

A scan of the text, line by line: the literals of its imports, and whether it
opens a service or a message. It is no parser: text inside strings and block
comments counts, and a statement that spans lines does not.
-/

namespace ProtoTree

open Text (isBlank isWord)

/-- What the text of a proto file declares. -/
structure Declarations where
  /-- Import literals in the order they are written, as they are written. -/
  imports : List String := []
  hasService : Bool := false
  hasMessage : Bool := false
  deriving DecidableEq, Repr, Inhabited

namespace Scan

/-- A line up to its first `//`. -/
def stripComment : List Char → List Char
  | [] => []
  | '/' :: '/' :: _ => []
  | c :: rest => c :: stripComment rest

/-- What follows one or more blanks. -/
def afterBlanks? : List Char → Option (List Char)
  | [] => none
  | c :: rest => if isBlank c then some (rest.dropWhile isBlank) else none

/-- What follows a word and one or more blanks. -/
def afterWord? (word : String) (cs : List Char) : Option (List Char) :=
  (word.toList.isPrefixOf? cs).bind afterBlanks?

/-- The characters up to the next `quote`, and what follows it. -/
def closeLiteral? (quote : Char) (cs : List Char) : Option (List Char × List Char) :=
  match cs.dropWhile (· != quote) with
  | [] => none
  | _ :: rest => some (cs.takeWhile (· != quote), rest)

/-- A literal in double or single quotes at the start, and what follows it. -/
def literal? : List Char → Option (List Char × List Char)
  | '"' :: rest => closeLiteral? '"' rest
  | '\'' :: rest => closeLiteral? '\'' rest
  | _ => none

/-- What follows a `public` or `weak` modifier, or all of it when there is none. -/
def afterModifier (cs : List Char) : List Char :=
  ((afterWord? "public" cs).or (afterWord? "weak" cs)).getD cs

/-- The literal of an import that starts here, and what follows it. -/
def import? (cs : List Char) : Option (List Char × List Char) :=
  match afterWord? "import" cs with
  | none => none
  | some rest => literal? (afterModifier rest)

theorem length_afterBlanks? {cs rest : List Char} (h : afterBlanks? cs = some rest) :
    rest.length < cs.length := by
  cases cs with
  | nil => simp [afterBlanks?] at h
  | cons c tail =>
    by_cases hc : isBlank c
    · simp only [afterBlanks?, hc, if_true, Option.some.injEq] at h
      subst h
      have := (List.dropWhile_sublist isBlank (l := tail)).length_le
      simp only [List.length_cons]
      omega
    · simp [afterBlanks?, hc] at h

theorem length_of_isPrefixOf? {word cs rest : List Char} (h : word.isPrefixOf? cs = some rest) :
    rest.length ≤ cs.length := by
  induction word generalizing cs with
  | nil =>
    cases Option.some.inj (show some cs = some rest from h)
    exact Nat.le_refl _
  | cons w word ih =>
    cases cs with
    | nil => cases (show none = some rest from h)
    | cons c cs =>
      have h : (if w == c then word.isPrefixOf? cs else none) = some rest := h
      split at h
      · exact Nat.le_succ_of_le (ih h)
      · cases h

theorem length_afterWord? {word : String} {cs rest : List Char} (h : afterWord? word cs = some rest) :
    rest.length < cs.length := by
  simp only [afterWord?, Option.bind_eq_some_iff] at h
  obtain ⟨mid, hmid, hrest⟩ := h
  exact Nat.lt_of_lt_of_le (length_afterBlanks? hrest) (length_of_isPrefixOf? hmid)

theorem length_closeLiteral? {quote : Char} {cs literal rest : List Char}
    (h : closeLiteral? quote cs = some (literal, rest)) : rest.length < cs.length := by
  have hle := (List.dropWhile_sublist (· != quote) (l := cs)).length_le
  simp only [closeLiteral?] at h
  split at h
  · simp at h
  · rename_i c tail heq
    simp only [Option.some.injEq, Prod.mk.injEq] at h
    rw [heq, List.length_cons] at hle
    rw [← h.2]
    omega

theorem length_literal? {cs literal rest : List Char} (h : literal? cs = some (literal, rest)) :
    rest.length < cs.length := by
  simp only [literal?] at h
  split at h
  · exact Nat.lt_succ_of_lt (length_closeLiteral? h)
  · exact Nat.lt_succ_of_lt (length_closeLiteral? h)
  · simp at h

theorem length_afterModifier (cs : List Char) : (afterModifier cs).length ≤ cs.length := by
  simp only [afterModifier]
  cases hp : afterWord? "public" cs with
  | some rest => simpa using Nat.le_of_lt (length_afterWord? hp)
  | none =>
    cases hw : afterWord? "weak" cs with
    | some rest => simpa using Nat.le_of_lt (length_afterWord? hw)
    | none => simp

theorem length_import? {cs literal rest : List Char} (h : import? cs = some (literal, rest)) :
    rest.length < cs.length := by
  simp only [import?] at h
  split at h
  · simp at h
  · rename_i mid hmid
    exact Nat.lt_trans (Nat.lt_of_lt_of_le (length_literal? h) (length_afterModifier mid))
      (length_afterWord? hmid)

/-- The import literals of a line. `inWord` tells that a word character stands before the line's rest;
    an import cannot start there. -/
def imports (inWord : Bool) (cs : List Char) : List (List Char) :=
  match cs with
  | [] => []
  | c :: rest =>
    if inWord then imports (isWord c) rest
    else
      match _h : import? (c :: rest) with
      | some (literal, after) => literal :: imports false after
      | none => imports (isWord c) rest
termination_by cs.length
decreasing_by
  · simp
  · exact length_import? _h
  · simp

/-- A letter or an underscore. -/
def isNameStart (c : Char) : Bool := c.isAlpha || c == '_'

/-- A letter, digit or underscore of ASCII. -/
def isNamePart (c : Char) : Bool := c.isAlphanum || c == '_'

/-- Whether a block `keyword Name {` starts here. -/
def opensBlock (keyword : String) (cs : List Char) : Bool :=
  match afterWord? keyword cs with
  | some (c :: rest) =>
    isNameStart c && ((rest.dropWhile isNamePart).dropWhile isBlank).head? == some '{'
  | _ => false

/-- Whether a block `keyword Name {` starts anywhere in a line. -/
def hasBlock (keyword : String) (inWord : Bool) : List Char → Bool
  | [] => false
  | c :: rest =>
    (!inWord && opensBlock keyword (c :: rest)) || hasBlock keyword (isWord c) rest

/-- The lines of a text without their comments. -/
def codeLines (text : List Char) : List (List Char) := (Text.lines text).map stripComment

end Scan

/-- What a text declares. -/
def Declarations.ofText (text : List Char) : Declarations where
  imports := ((Scan.codeLines text).flatMap (Scan.imports false)).map String.ofList
  hasService := (Scan.codeLines text).any (Scan.hasBlock "service" false)
  hasMessage := (Scan.codeLines text).any (Scan.hasBlock "message" false)

end ProtoTree
