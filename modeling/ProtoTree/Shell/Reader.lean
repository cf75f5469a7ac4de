import ProtoTree.Shell.Script

/-! # Reading scripts

A reader takes a script character by character. An alias puts its text in
front of what is left; it is in use until a character after it is taken, and
is not replaced inside itself.
-/

namespace ProtoTree.Shell

open Text (Octets)

/-- Text that is being read. -/
structure Source where
  chars : Octets
  /-- The alias that the text stands for. -/
  aliasName : Option Octets := none
  /-- Whether the word after the text may be an alias too. -/
  endsBlank : Bool := false
  deriving Inhabited

/-- The operator of a redirection. -/
inductive RedirectOperator where
  | file (mode : OpenMode)
  | copy (toRead : Bool)
  | document (stripsTabs : Bool)
  deriving DecidableEq, Inhabited

inductive Token where
  | word (w : Word)
  | keyword (name : String)
  | operator (text : String)
  | newline
  /-- The operator of a redirection, with its descriptor. -/
  | redirect (descriptor : Nat) (operator : RedirectOperator)
  | finish
  deriving Inhabited

/-- How a here-document ends. -/
structure Ending where
  chars : Octets
  stripsTabs : Bool
  deriving Inhabited

/-- A here-document that was asked for. -/
structure Pending where
  number : Nat
  ending : Ending
  /-- Nothing in it is replaced. -/
  quoted : Bool
  deriving Inhabited

/-- A script that is being read. -/
structure Reader where
  sources : List Source
  line : Nat := 1
  aliases : List (Octets × Octets) := []
  /-- A token that was read and not used. -/
  kept : Option Token := none
  /-- Whether the next word may be an alias because of the one before it. -/
  aliasNext : Bool := false
  pending : List Pending := []
  /-- How many here-documents there were, and the bodies of those that were read. -/
  documentCount : Nat := 0
  documents : List (Nat × Word) := []
  deriving Inhabited

/-- Reading that may come upon a fault. -/
abbrev Reading := StateT Reader (Except SyntaxFault)

namespace Reader

/-- A reader at the start of a text. -/
def ofText (line : Nat) (text : Octets) : Reader := { sources := [⟨text, none, false⟩], line }

/-- What is left of all texts. -/
def left (r : Reader) : Octets := r.sources.flatMap (·.chars)

/-- What was taken until there was only left what `after` has. -/
def takenBy (r after : Reader) : Octets := r.left.take (r.left.length - after.left.length)

/-- More steps than reading any text takes. -/
def plenty : Nat := 1000000000000

/-- Fails at the current line. -/
def fault {α : Type} (message : String) : Reading α := fun r => .error ⟨r.line, message⟩

/-- The next character. -/
def firstChar? : List Source → Option Char
  | [] => none
  | source :: below =>
    match source.chars with
    | c :: _ => some c
    | [] => firstChar? below

/-- Takes a character; what is used up before it goes away. -/
def takeFrom (r : Reader) : List Source → Option Char × Reader
  | [] => (none, { r with sources := [] })
  | source :: below =>
    match source.chars with
    | c :: rest => (some c, { r with sources := { source with chars := rest } :: below })
    | [] =>
      match firstChar? below with
      | some _ => takeFrom { r with aliasNext := r.aliasNext || source.endsBlank } below
      | none => (none, { r with sources := source :: below })

def take : Reading (Option Char) := fun r => .ok (r.takeFrom r.sources)

def peek : Reading (Option Char) := fun r => .ok (firstChar? r.sources, r)

def nextLine : Reading Unit := modify fun r => { r with line := r.line + 1 }

/-- The text without the joined line ends at its start, and how many there were. -/
def withoutJoints (count : Nat) : Octets → Octets × Nat
  | '\\' :: '\n' :: rest => withoutJoints (count + 1) rest
  | cs => (cs, count)

/-- Applies `change` to the first text that is not used up. -/
def changeFirst (change : Octets → Octets × Nat) : List Source → List Source × Nat
  | [] => ([], 0)
  | source :: below =>
    match source.chars with
    | [] =>
      let (below, n) := changeFirst change below
      (source :: below, n)
    | cs =>
      let (chars, n) := change cs
      ({ source with chars } :: below, n)

/-- The next character after joined line ends. -/
def peekJoined : Reading (Option Char) := do
  let r ← get
  if firstChar? r.sources = some '\\' then
    let (sources, n) := changeFirst (withoutJoints 0) r.sources
    set { r with sources, line := r.line + n }
  peek

def takeJoined : Reading (Option Char) := do
  let _ ← peekJoined
  take

/-- Takes the next character if it is the one that is looked for. -/
def takeIf (c : Char) : Reading Bool := do
  if (← peekJoined) = some c then
    let _ ← take
    return true
  return false

/-- Keeps a token to be read again. -/
def keep (t : Token) : Reading Unit := modify fun r => { r with kept := some t }

/-- Puts the text of an alias in front of the rest, unless it is in use. -/
def pushAlias (name : Octets) : Reading Bool := fun r =>
  match r.aliases.lookup name with
  | none => .ok (false, r)
  | some text =>
    if r.sources.any fun source => source.aliasName = some name then .ok (false, r)
    else
      let endsBlank := text.getLast?.any fun c => c == ' ' || c == '\t'
      .ok (true, { r with sources := ⟨text, some name, endsBlank⟩ :: r.sources })

/-- Whether a here-document ends at the start of a line; its last line is taken then. Tabs at the start are taken
    in any case if they are to be stripped. -/
def atEnding (e : Ending) : Reading Bool := fun r =>
  let strip (cs : Octets) : Octets × Nat := (if e.stripsTabs then cs.dropWhile (· == '\t') else cs, 0)
  let sources := (changeFirst strip r.sources).1
  let ends (cs : Octets) : Bool :=
    e.chars.isPrefixOf cs && ((cs.drop e.chars.length).head?.all (· == '\n'))
  let left := (sources.find? fun source => !source.chars.isEmpty).map (·.chars)
  match left with
  | none => .ok (e.chars.isEmpty, { r with sources })
  | some cs =>
    if ends cs then
      let drop (cs : Octets) : Octets × Nat := (cs.drop (e.chars.length + 1), 0)
      .ok (true, { r with sources := (changeFirst drop sources).1, line := r.line + 1 })
    else .ok (false, { r with sources })

end Reader

end ProtoTree.Shell
