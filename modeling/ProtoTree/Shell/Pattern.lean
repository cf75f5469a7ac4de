import ProtoTree.Shell.State

/-! # Patterns

What `*`, `?` and `[…]` stand for: in choices, in what is taken off a value,
and in words that stand for the files they match. Quoted characters stand for
themselves.
-/

namespace ProtoTree.Shell

open Text (Octets)

/-- A character of a field. -/
structure FieldChar where
  char : Char
  quoted : Bool
  deriving DecidableEq, Repr, Inhabited

abbrev Field := List FieldChar

namespace Field

def chars (f : Field) : Octets := f.map FieldChar.char

/-- A field that stands for itself. -/
def ofChars (chars : Octets) (quoted : Bool) : Field := chars.map fun c => ⟨c, quoted⟩

/-- The field with quotes in place of the backslashes that were brought in. -/
def withoutBackslashes : Field → Field
  | ⟨'\\', false⟩ :: c :: rest => ⟨c.char, true⟩ :: withoutBackslashes rest
  | c :: rest => c :: withoutBackslashes rest
  | [] => []

/-- Whether some character may stand for others. -/
def isPattern (f : Field) : Bool :=
  f.withoutBackslashes.any fun c => !c.quoted && (c.char == '*' || c.char == '?' || c.char == '[')

/-- The parts between separators. -/
def segments (f : Field) : List Field :=
  f.foldr (fun c parts =>
    if c.char == '/' then [] :: parts
    else match parts with
      | part :: rest => (c :: part) :: rest
      | [] => [[c]]) [[]]

end Field

/-- The characters that a bracket stands for. -/
inductive CharSet where
  | range (first last : Char)
  | named (name : String)
  deriving DecidableEq, Repr, Inhabited

namespace CharSet

/-- The names that sets of characters have. -/
def names : List String :=
  ["alpha", "digit", "alnum", "upper", "lower", "space", "blank", "punct", "print", "graph", "cntrl",
    "xdigit"]

def contains (c : Char) : CharSet → Bool
  | range first last => first ≤ c && c ≤ last
  | named "alpha" => c.isAlpha
  | named "digit" => c.isDigit
  | named "alnum" => c.isAlphanum
  | named "upper" => c.isUpper
  | named "lower" => c.isLower
  | named "space" => isBlank c
  | named "blank" => c == ' ' || c == '\t'
  | named "punct" => '!' ≤ c && c ≤ '~' && !c.isAlphanum
  | named "print" => ' ' ≤ c && c ≤ '~'
  | named "graph" => '!' ≤ c && c ≤ '~'
  | named "cntrl" => c < ' ' || c == '\x7f'
  | named "xdigit" => Digits.isHex c
  | named _ => false

/-- The named set that some text after a bracket asks for, and what follows it. -/
def leading? (cs : Octets) : Option (CharSet × Octets) :=
  match cs with
  | ':' :: rest =>
    let name := String.ofList (rest.takeWhile Char.isAlpha)
    let after := rest.drop name.length
    if names.contains name && [':', ']'].isPrefixOf after then some (named name, after.drop 2) else none
  | _ => none

end CharSet

/-- A part of a pattern. -/
inductive PatternPart where
  | exactly (c : Char)
  | anyChar
  | anyText
  | oneOf (negated : Bool) (sets : List CharSet)
  deriving DecidableEq, Repr, Inhabited

abbrev Pattern := List PatternPart

namespace Pattern

/-- The sets of a bracket up to where it is closed, and the rest. The first character may be a closing bracket
    itself. -/
def sets (fuel : Nat) (first : Bool) (f : Field) : Option (List CharSet × Field) :=
  match fuel, f with
  | 0, _ | _, [] => none
  | fuel + 1, c :: rest =>
    if c.char == ']' && !c.quoted && !first then some ([], rest)
    else
      let followed (set : CharSet) (rest : Field) : Option (List CharSet × Field) :=
        (sets fuel false rest).map fun (more, after) => (set :: more, after)
      match if c.char == '[' && !c.quoted then CharSet.leading? (Field.chars rest) else none with
      | some (set, after) => followed set (rest.drop (rest.length - after.length))
      | none =>
        match rest with
        | ⟨'-', false⟩ :: last :: after =>
          if last.char == ']' && !last.quoted then followed (.range c.char c.char) rest
          else followed (.range c.char last.char) after
        | rest => followed (.range c.char c.char) rest

/-- The bracket that a field starts with, given what follows its first character. -/
def bracket? (f : Field) : Option (PatternPart × Field) :=
  let negated := f.head? = some ⟨'!', false⟩
  let inside := if negated then f.tail else f
  (sets inside.length.succ true inside).map fun (sets, after) => (.oneOf negated sets, after)

/-- The pattern that a field is. -/
def ofField (fuel : Nat) (f : Field) : Pattern :=
  match fuel, f with
  | 0, _ | _, [] => []
  | fuel + 1, c :: rest =>
    if c.quoted then .exactly c.char :: ofField fuel rest
    else if c.char == '*' then .anyText :: ofField fuel rest
    else if c.char == '?' then .anyChar :: ofField fuel rest
    else
      match if c.char == '[' then bracket? rest else none with
      | some (part, after) => part :: ofField fuel after
      | none => .exactly c.char :: ofField fuel rest

/-- Whether a pattern stands for a text. -/
def accepts : Pattern → Octets → Bool
  | [], cs => cs.isEmpty
  | .anyText :: rest, cs => (List.range cs.length.succ).any fun n => accepts rest (cs.drop n)
  | _ :: _, [] => false
  | .anyChar :: rest, _ :: cs => accepts rest cs
  | .exactly e :: rest, c :: cs => e == c && accepts rest cs
  | .oneOf negated sets :: rest, c :: cs => (sets.any (·.contains c) != negated) && accepts rest cs

end Pattern

namespace Field

def pattern (f : Field) : Pattern := Pattern.ofField f.length.succ f.withoutBackslashes

/-- The names in a directory that a part of a field stands for. Hidden names need a dot of their own. -/
def matching (s : State) (dir : Octets) (part : Field) : List Octets :=
  match s.disk.directory (State.path (if dir.isEmpty then ['.'] else dir)) with
  | .error _ => []
  | .ok n =>
    let part := part.withoutBackslashes
    let showsHidden := (part.head?.map FieldChar.char) = some '.'
    let names := if showsHidden then ['.'] :: ['.', '.'] :: s.namesIn n else s.namesIn n
    names.filter fun name =>
      (showsHidden || name.head? ≠ some '.') && part.pattern.accepts name

/-- The paths that the parts of a field stand for; `before` leads to them, and is known to be there if `found`. -/
def pathsFrom (s : State) (before : Octets) (found : Bool) : List Field → List Octets
  | [] => if found || (s.entryOf? before false).isOk then [before] else []
  | part :: rest =>
    let after := if rest.isEmpty then [] else ['/']
    if part.isPattern then
      (part.matching s before).flatMap fun name =>
        pathsFrom s (before ++ name ++ after) rest.isEmpty rest
    else pathsFrom s (before ++ part.withoutBackslashes.chars ++ after) false rest

/-- What a field stands for: the paths it matches, in order, or itself when there are none. -/
def paths (s : State) (f : Field) : List Octets :=
  if !f.isPattern then [f.chars]
  else
    match pathsFrom s [] false f.segments with
    | [] => [f.chars]
    | found => found.mergeSort fun a b => !decide (b < a)

end Field

/-- The pattern that a text without quotes is. -/
def Pattern.ofText (text : Octets) : Pattern := (Field.ofChars text false).pattern

/-- The value without the part at one end that a pattern stands for. -/
def trimmed (fromEnd longest : Bool) (p : Pattern) (value : Octets) : Octets :=
  let splits := List.range value.length.succ
  let splits := if fromEnd == longest then splits else splits.reverse
  let found := splits.find? fun n =>
    if fromEnd then p.accepts (value.drop n) else p.accepts (value.take n)
  match found with
  | some n => if fromEnd then value.take n else value.drop n
  | none => value

end ProtoTree.Shell
