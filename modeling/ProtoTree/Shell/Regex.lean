import ProtoTree.Shell.Pattern

/-! # Regular expressions

Expressions as the utilities for text take them, in the basic and the extended
notation. A match starts as early as possible and is then as long as possible.
-/

namespace ProtoTree.Shell

open Text (Octets)

/-- What texts an expression stands for. -/
inductive Regex where
  | nothing
  | char (c : Char)
  | any
  | oneOf (negated : Bool) (sets : List CharSet)
  | lineStart
  | lineEnd
  | wordStart
  | wordEnd
  /-- The start or the end of a word, or any other place. -/
  | wordEdge (isEdge : Bool)
  | group (number : Nat) (inner : Regex)
  /-- What a group has stood for. -/
  | again (number : Nat)
  | sequence (first second : Regex)
  | either (first second : Regex)
  | repeated (inner : Regex) (least : Nat) (most : Option Nat)
  deriving DecidableEq, Repr, Inhabited

/-- A place in a text that is searched. -/
structure Place where
  /-- How many characters are in front of it, and the last of them. -/
  position : Nat := 0
  before : Option Char := none
  rest : Octets
  /-- What groups have stood for. -/
  groups : List (Nat × Octets) := []
  deriving Repr, Inhabited

/-- A part of a text that an expression stands for. -/
structure Match where
  start : Nat
  length : Nat
  groups : List (Nat × Octets)
  deriving Repr, Inhabited

namespace Place

/-- The place behind the next character, if there is one that is wanted. -/
def behind (p : Place) (wanted : Char → Bool) : List Place :=
  match p.rest with
  | c :: rest => if wanted c then [{ p with position := p.position + 1, before := some c, rest }] else []
  | [] => []

/-- The place behind a text. -/
def behindText (p : Place) (same : Char → Char → Bool) (text : Octets) : List Place :=
  if text.length ≤ p.rest.length && (text.zip p.rest).all fun (a, b) => same a b then
    [{ p with
      position := p.position + text.length
      before := ((p.rest.take text.length).getLast?).or p.before, rest := p.rest.drop text.length }]
  else []

/-- One place for each position, the one that comes first. -/
def distinct (places : List Place) : List Place :=
  (places.foldl (fun (kept : List Place) p =>
    if kept.any fun k => k.position = p.position then kept else p :: kept) []).reverse

/-- The places in order, the farthest first. -/
def farthestFirst (places : List Place) : List Place := places.mergeSort fun a b => b.position ≤ a.position

def isInWord (c : Option Char) : Bool := c.any Name.isPart

/-- The places that repeating a step leads to, between a least and a most number of times; `done` is how often it was
    made so far. -/
def repeating (step : Place → List Place) (least : Nat) (most : Option Nat) (fuel done : Nat)
    (frontier found : List Place) : List Place :=
  match fuel with
  | 0 => found
  | fuel + 1 =>
    let found := if least ≤ done then distinct (found ++ frontier) else found
    if most.any (· ≤ done) then found
    else
      let next := distinct (frontier.flatMap fun p =>
        (step p).filter fun q => q.position ≠ p.position || done < least)
      let next := next.filter fun q => done < least || !found.any fun p => p.position = q.position
      if next.isEmpty then found else repeating step least most fuel (done + 1) next found

end Place

namespace Regex

/-- Where the texts end that an expression stands for, from a place on; capitals may count as small letters. -/
def ends (foldsCase : Bool) : Regex → Place → List Place
  | nothing, p => [p]
  | char c, p => p.behind fun d => c == d || (foldsCase && c.toLower == d.toLower)
  | any, p => p.behind fun _ => true
  | oneOf negated sets, p =>
    p.behind fun c =>
      (sets.any fun set => set.contains c || (foldsCase && (set.contains c.toLower || set.contains c.toUpper)))
        != negated
  | lineStart, p => if p.before.isNone then [p] else []
  | lineEnd, p => if p.rest.isEmpty then [p] else []
  | wordStart, p => if !Place.isInWord p.before && Place.isInWord p.rest.head? then [p] else []
  | wordEnd, p => if Place.isInWord p.before && !Place.isInWord p.rest.head? then [p] else []
  | wordEdge isEdge, p => if (Place.isInWord p.before != Place.isInWord p.rest.head?) == isEdge then [p] else []
  | group number inner, p =>
    (ends foldsCase inner p).map fun q =>
      { q with groups := (number, p.rest.take (q.position - p.position)) :: q.groups.filter fun g => g.1 ≠ number }
  | again number, p =>
    match p.groups.lookup number with
    | some text => p.behindText (fun a b => a == b || (foldsCase && a.toLower == b.toLower)) text
    | none => []
  | sequence first second, p =>
    Place.distinct ((Place.farthestFirst (ends foldsCase first p)).flatMap (ends foldsCase second))
  | either first second, p => Place.distinct (ends foldsCase first p ++ ends foldsCase second p)
  | repeated inner least most, p =>
    Place.repeating (ends foldsCase inner) least most (p.rest.length + least + 2) 0 [p] []

/-- The longest match at a place. -/
def matchAt? (r : Regex) (foldsCase : Bool) (p : Place) : Option Match :=
  (Place.farthestFirst (r.ends foldsCase p)).head?.map fun q => ⟨p.position, q.position - p.position, q.groups⟩

/-- The first match from a place on. -/
def find? (r : Regex) (foldsCase : Bool) (p : Place) : Option Match :=
  go p.rest.length.succ p
where
  go (fuel : Nat) (p : Place) : Option Match :=
    match fuel with
    | 0 => none
    | fuel + 1 =>
      match r.matchAt? foldsCase p with
      | some found => some found
      | none =>
        match p.rest with
        | c :: rest => go fuel { p with position := p.position + 1, before := some c, rest }
        | [] => none

/-! ## Notation -/

/-- What is wrong with an expression. -/
inductive Fault where
  | emptyBracket
  | openBracket
  | openGroup
  | closedGroup
  | openInterval
  | badInterval
  | badReference
  | trailingBackslash
  | nothingToRepeat
  | badRange
  | badClass
  deriving DecidableEq, Repr, Inhabited

namespace Fault

def message : Fault → String
  | emptyBracket => "Invalid regular expression"
  | openBracket => "Unmatched [, [^, [:, [., or [="
  | openGroup => "Unmatched ( or \\("
  | closedGroup => "Unmatched ) or \\)"
  | openInterval => "Unmatched \\\x7b"
  | badInterval => "Invalid content of \\\x7b\\\x7d"
  | badReference => "Invalid back reference"
  | trailingBackslash => "Trailing backslash"
  | nothingToRepeat => "Invalid preceding regular expression"
  | badRange => "Invalid range end"
  | badClass => "Invalid character class name"

end Fault

/-- The letters, digits and underscores. -/
def wordSets : List CharSet := [.named "alnum", .range '_' '_']

/-- Reading an expression: the number of groups so far is kept. -/
abbrev Reading (α : Type) := StateT Nat (Except Fault) α

/-- The sets of a bracket and the text behind it. -/
def bracketSets (fuel : Nat) (first : Bool) (cs : Octets) : Except Fault (List CharSet × Octets) :=
  match fuel, cs with
  | 0, _ | _, [] => .error .openBracket
  | fuel + 1, c :: rest => do
    if c == ']' && !first then return ([], rest)
    let single (from_ : Char) (rest : Octets) : Except Fault (List CharSet × Octets) := do
      match rest with
      | '-' :: ']' :: _ | [] =>
        let (more, after) ← bracketSets fuel false rest
        return (.range from_ from_ :: more, after)
      | '-' :: last :: rest =>
        let (last, rest) := match last, rest with
          | '[', '.' :: l :: '.' :: ']' :: rest => (l, rest)
          | last, rest => (last, rest)
        if last < from_ then throw .badRange
        let (more, after) ← bracketSets fuel false rest
        return (.range from_ last :: more, after)
      | rest =>
        let (more, after) ← bracketSets fuel false rest
        return (.range from_ from_ :: more, after)
    match c, rest with
    | '[', ':' :: inner =>
      let name := inner.takeWhile Char.isAlpha
      match inner.drop name.length with
      | ':' :: ']' :: rest =>
        if !CharSet.names.contains (String.ofList name) then throw .badClass
        let (more, after) ← bracketSets fuel false rest
        return (.named (String.ofList name) :: more, after)
      | _ => throw .openBracket
    | '[', '.' :: e :: '.' :: ']' :: rest | '[', '=' :: e :: '=' :: ']' :: rest => single e rest
    | c, rest => single c rest

/-- How often something is repeated, from what is written behind a brace; none when that is no such thing. -/
def interval? (extended : Bool) (cs : Octets) : Option (Nat × Option Nat × Octets) :=
  let low := cs.takeWhile Char.isDigit
  let rest := cs.drop low.length
  let (high, rest) : Option (Option Nat) × Octets := match rest with
    | ',' :: rest =>
      let digits := rest.takeWhile Char.isDigit
      (some (if digits.isEmpty then none else some (Digits.value digits)), rest.drop digits.length)
    | rest => (none, rest)
  let closed := if extended then rest.head? = some '}' else rest.take 2 = ['\\', '}']
  if !closed || (low.isEmpty && high.isNone) then none
  else
    let least := Digits.value low
    some (least, high.getD (some least), rest.drop (if extended then 1 else 2))

/-- What comes behind a thing that may be repeated: the repetitions in front of the rest. -/
def repetitions (fuel : Nat) (extended : Bool) (r : Regex) (cs : Octets) : Except Fault (Regex × Octets) :=
  match fuel with
  | 0 => .ok (r, cs)
  | fuel + 1 =>
    let ofInterval (inner : Octets) : Except Fault (Regex × Octets) :=
      match interval? extended inner with
      | some (least, most, rest) =>
        if most.any (· < least) || 32767 < least then .error .badInterval
        else repetitions fuel extended (.repeated r least most) rest
      | none =>
        if extended then .ok (r, '{' :: inner)
        else if inner.all (· != '}') then .error .openInterval
        else .error .badInterval
    match extended, cs with
    | _, '*' :: rest => repetitions fuel extended (.repeated r 0 none) rest
    | true, '+' :: rest | false, '\\' :: '+' :: rest => repetitions fuel extended (.repeated r 1 none) rest
    | true, '?' :: rest | false, '\\' :: '?' :: rest => repetitions fuel extended (.repeated r 0 (some 1)) rest
    | true, '{' :: inner => ofInterval inner
    | false, '\\' :: '{' :: inner => ofInterval inner
    | _, cs => .ok (r, cs)

/-- Puts one expression behind another. -/
def followedBy (first second : Regex) : Regex :=
  match first with
  | .nothing => second
  | first => .sequence first second

mutual

/-- Reads alternatives up to the end or the parenthesis that closes a group. -/
def read (fuel : Nat) (extended : Bool) (depth : Nat) (cs : Octets) : Reading (Regex × Octets) :=
  match fuel with
  | 0 => throw .openGroup
  | fuel + 1 => do
    let (first, rest) ← readSequence fuel extended depth true .nothing cs
    match extended, rest with
    | true, '|' :: rest | false, '\\' :: '|' :: rest =>
      let (second, rest) ← read fuel extended depth rest
      return (.either first second, rest)
    | _, rest => return (first, rest)
termination_by structural fuel

/-- Reads things one after another; `isStart` tells whether there was nothing so far. -/
def readSequence (fuel : Nat) (extended : Bool) (depth : Nat) (isStart : Bool) (acc : Regex) (cs : Octets) :
    Reading (Regex × Octets) :=
  match fuel with
  | 0 => throw .openGroup
  | fuel + 1 => do
    let done : Reading (Regex × Octets) := return (acc, cs)
    let next (r : Regex) (rest : Octets) : Reading (Regex × Octets) := do
      let (r, rest) ← repetitions rest.length.succ extended r rest
      readSequence fuel extended depth false (followedBy acc r) rest
    let plain (r : Regex) (rest : Octets) : Reading (Regex × Octets) :=
      readSequence fuel extended depth isStart (followedBy acc r) rest
    let open_ (rest : Octets) : Reading (Regex × Octets) := do
      let number := (← get) + 1
      set number
      let (inner, rest) ← read fuel extended (depth + 1) rest
      match extended, rest with
      | true, ')' :: rest => next (.group number inner) rest
      | false, '\\' :: ')' :: rest => next (.group number inner) rest
      | _, _ => throw .openGroup
    match cs with
    | [] => done
    | '\\' :: [] => throw .trailingBackslash
    | '\\' :: c :: rest =>
      if c.isDigit && c != '0' then
        let number := Digits.digitValue c
        if (← get) < number then throw .badReference
        next (.again number) rest
      else
        match c with
        | 'w' => next (.oneOf false wordSets) rest
        | 'W' => next (.oneOf true wordSets) rest
        | 's' => next (.oneOf false [.named "space"]) rest
        | 'S' => next (.oneOf true [.named "space"]) rest
        | 'b' => plain (.wordEdge true) rest
        | 'B' => plain (.wordEdge false) rest
        | '<' => plain .wordStart rest
        | '>' => plain .wordEnd rest
        | '\x60' => plain .lineStart rest
        | '\'' => plain .lineEnd rest
        | '(' => if extended then next (.char c) rest else open_ rest
        | ')' => if extended then next (.char c) rest else if depth = 0 then throw .closedGroup else done
        | '|' => if extended then next (.char c) rest else done
        | '{' => if !extended && isStart then throw .nothingToRepeat else next (.char c) rest
        | 'n' => next (.char '\n') rest
        | c => next (.char c) rest
    | '[' :: rest =>
      let negated := rest.head? = some '^'
      let inside := if negated then rest.tail else rest
      if inside.isEmpty then throw .emptyBracket
      let (sets, rest) ← bracketSets inside.length.succ true inside
      next (.oneOf negated sets) rest
    | '.' :: rest => next .any rest
    | '*' :: rest => if isStart then next (.char '*') rest else next (.char '*') rest
    | '^' :: rest => if extended || isStart then plain .lineStart rest else next (.char '^') rest
    | '$' :: rest =>
      let atEnd := rest.isEmpty || rest.take 2 = ['\\', ')'] || rest.take 2 = ['\\', '|']
      if extended || atEnd then plain .lineEnd rest else next (.char '$') rest
    | c :: rest =>
      if !extended then next (.char c) rest
      else
        match c with
        | '(' => open_ rest
        | ')' => if depth = 0 then next (.char ')') rest else done
        | '|' => done
        | '+' | '?' => if isStart then plain .nothing rest else next (.char c) rest
        | '{' =>
          if isStart && (interval? true rest).isSome then throw .nothingToRepeat else next (.char c) rest
        | c => next (.char c) rest
termination_by structural fuel

end

/-- The expression that a text is, and how many groups there are in it. -/
def ofText (extended : Bool) (cs : Octets) : Except Fault (Regex × Nat) :=
  match read (2 * cs.length + 2) extended 0 cs 0 with
  | .ok ((r, _), groups) => .ok (r, groups)
  | .error fault => .error fault

end Regex

end ProtoTree.Shell
