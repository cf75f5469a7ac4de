import ProtoTree.Shell.Pattern

/-! # Fields

How the glyphs that a word comes down to make fields: what was quoted stays in
one piece, and what a parameter brought in is split.
-/

namespace ProtoTree.Shell

open Text (Octets)

/-- A part of an expanded word. -/
inductive Glyph where
  /-- A character that may be part of a pattern. -/
  | plain (c : Char)
  | quoted (c : Char)
  /-- A quotation mark was here; there is a field even if nothing else is in it. -/
  | mark
  /-- The end of an argument. -/
  | gap
  deriving DecidableEq, Repr, Inhabited

/-- How glyphs are split. -/
inductive Splitting where
  | kept
  /-- At the characters that separate fields. -/
  | split
  /-- At the ends of arguments only. -/
  | atGaps
  deriving DecidableEq, Repr, Inhabited

/-- Glyphs that are split in one way. -/
structure Span where
  splitting : Splitting
  glyphs : List Glyph
  deriving Repr, Inhabited

namespace Glyph

/-- The glyphs of some text. -/
def ofText (isQuoted : Bool) (text : Octets) : List Glyph :=
  text.map fun c => if isQuoted then quoted c else plain c

/-- The field that glyphs are. -/
def field (glyphs : List Glyph) : Field :=
  glyphs.filterMap fun
    | plain c => some ⟨c, false⟩
    | quoted c => some ⟨c, true⟩
    | mark => none
    | gap => some ⟨'\x00', false⟩

/-- The text that glyphs are. -/
def text (glyphs : List Glyph) : Octets := Field.chars (field glyphs)

end Glyph

namespace Span

def kept (glyphs : List Glyph) : Span := ⟨.kept, glyphs⟩

/-- Text that was brought in. -/
def brought (isQuoted : Bool) (text : Octets) : Span :=
  ⟨if isQuoted then .kept else .split, Glyph.ofText isQuoted text⟩

/-- The spans as one text. -/
def text (spans : List Span) : Octets := Glyph.text (spans.flatMap (·.glyphs))

/-- The spans as one field. -/
def whole (spans : List Span) : Field := Glyph.field (spans.flatMap (·.glyphs))

end Span

/-- Fields that are being made; what is made of glyphs is in reverse. -/
structure Cutting where
  done : List (List Glyph) := []
  current : List Glyph := []
  /-- The latest field was ended by a blank, and what follows it has not begun. -/
  afterBlank : Bool := false
  /-- How many more fields there may be. -/
  room : Option Nat := none
  /-- How much of the current field stays when nothing comes after it. -/
  keeps : Option Nat := none

namespace Cutting

def isBlank (c : Char) : Bool := c == ' ' || c == '\t' || c == '\n'

def add (t : Cutting) (g : Glyph) : Cutting := { t with current := g :: t.current }

/-- Adds a glyph to the only field that is left: blanks at its end go, and a single separator behind it. -/
def addLast (t : Cutting) (g : Glyph) (separates blank : Bool) : Cutting :=
  if blank then { t with keeps := t.keeps.or (some t.current.length), current := g :: t.current }
  else
    { t with
      keeps := if separates && t.afterBlank then t.keeps else none
      afterBlank := false, current := g :: t.current }

/-- Adds a glyph that may separate fields; `strict` when blanks are as good as any other separator. -/
def addSplit (separators : Octets) (strict : Bool) (t : Cutting) (g : Glyph) : Cutting :=
  let (separates, blank) := match g with
    | .plain c | .quoted c => (separators.contains c, separators.contains c && isBlank c)
    | .gap => (true, true)
    | .mark => (false, false)
  if t.room = some 0 then t.addLast g separates blank
  else if t.afterBlank then
    if blank then t
    else if separates then { t with afterBlank := false }
    else { t with afterBlank := false, current := g :: t.current }
  else if separates then
    let afterBlank := blank && !strict
    if t.current.isEmpty && afterBlank then t
    else if t.room = some 1 then
      { t with room := some 0, keeps := some t.current.length, afterBlank, current := g :: t.current }
    else
      { t with
        done := t.current.reverse :: t.done, current := [], afterBlank, room := t.room.map (· - 1) }
  else t.add g

/-- Adds spans, one after another. -/
def addSpans (separators : Octets) (t : Cutting) (afterGaps : Bool) : List Span → Cutting
  | [] => t
  | ⟨.kept, glyphs⟩ :: rest => (glyphs.foldl add t).addSpans separators afterGaps rest
  | ⟨.split, glyphs⟩ :: rest =>
    (glyphs.foldl (addSplit separators afterGaps) { t with afterBlank := false }).addSpans
      separators false rest
  | ⟨.atGaps, glyphs⟩ :: rest =>
    (glyphs.foldl (addSplit [] true) { t with afterBlank := false }).addSpans separators true rest

end Cutting

namespace Span

/-- Whether the last arguments that are split are all that there is. -/
def endsAtGap (spans : List Span) : Bool :=
  match spans.reverse.find? fun span => span.splitting ≠ .kept with
  | some span => span.splitting = .atGaps
  | none => false

/-- The fields that spans make, at most as many as there is room for. -/
def fields (separators : Octets) (room : Option Nat) (spans : List Span) : List (List Glyph) :=
  let t := Cutting.addSpans separators { room } false spans
  let current := match t.keeps with
    | some n => t.current.reverse.take n
    | none => t.current.reverse
  let fields := if current.isEmpty && !endsAtGap spans then t.done else current :: t.done
  fields.reverse

end Span

/-- The directories of those who are known to the system. -/
def homes : List (String × String) :=
  [("root", "/root"), ("daemon", "/usr/sbin"), ("bin", "/bin"), ("sys", "/dev"), ("sync", "/bin"),
    ("games", "/usr/games"), ("man", "/var/cache/man"), ("lp", "/var/spool/lpd"),
    ("mail", "/var/mail"), ("news", "/var/spool/news"), ("uucp", "/var/spool/uucp"),
    ("proxy", "/bin"), ("www-data", "/var/www"), ("backup", "/var/backups"), ("list", "/var/list"),
    ("irc", "/run/ircd"), ("_apt", "/nonexistent"), ("nobody", "/nonexistent"),
    ("ubuntu", "/home/ubuntu")]

namespace Word

/-- The directory that a name after a tilde stands for, if it is known. -/
def homeOf? (home : Option Octets) (name : Octets) : Option Octets :=
  if name.isEmpty then home else (homes.lookup (String.ofList name)).map String.toList

/-- A text with directories in place of the tildes in it: one at its start, and in an assignment also those after a
    colon. `last` tells whether the text goes on to the end of the word. -/
def withHomesIn (home : Option Octets) (inAssignment last : Bool) (text : Octets) : Word :=
  let pieces := if inAssignment then text.splitOn ':' else [text]
  let replaced := pieces.zipIdx.flatMap fun (piece, i) =>
    let before : Word := if i = 0 then [] else [.text [':'] false]
    let isWhole := last || i + 1 < pieces.length
    match piece with
    | '~' :: rest =>
      let name := rest.takeWhile (· != '/')
      let found := if isWhole || name.length < rest.length then homeOf? home name else none
      match found with
      | some dir => before ++ [.text dir true, .text (rest.drop name.length) false]
      | none => before ++ [.text piece false]
    | piece => before ++ [.text piece false]
  replaced.filter fun
    | .text [] false => false
    | _ => true

/-- The word with directories in place of its tildes. -/
def withHomes (home : Option Octets) (inAssignment : Bool) : Word → Word
  | .text ('~' :: text) false :: rest => withHomesIn home inAssignment rest.isEmpty ('~' :: text) ++ after rest
  | .text text false :: rest =>
    if inAssignment && text.contains '~' then withHomesIn home true rest.isEmpty text ++ after rest
    else .text text false :: after rest
  | part :: rest => part :: after rest
  | [] => []
where
  /-- The parts behind the first one: only after a colon there are tildes. -/
  after : Word → Word
    | [] => []
    | .text text false :: rest =>
      if inAssignment && text.contains '~' then
        let first := text.takeWhile (· != ':')
        let behind := text.drop first.length
        (if behind.isEmpty then [.text first false]
          else .text (first ++ [':']) false :: withHomesIn home true rest.isEmpty (behind.drop 1))
          ++ after rest
      else .text text false :: after rest
    | part :: rest => part :: after rest

end Word

namespace State

/-- What joined arguments have between them: the first separator. -/
def joint? (s : State) : Option Char :=
  match s.valueOf? "IFS".toList with
  | none => some ' '
  | some ifs => ifs.head?

/-- The glyphs of all arguments. Where fields are made, arguments that are not quoted stay apart as long as it is
    known what separates fields, and quoted ones if `each` of them counts. -/
def argumentGlyphs (s : State) (each isQuoted makesFields : Bool) : List Glyph :=
  let between : List Glyph :=
    if makesFields && (each || !isQuoted) && (isQuoted || (s.valueOf? "IFS".toList).isSome) then [.gap]
    else (s.joint?.map fun c => Glyph.ofText isQuoted [c]).getD []
  between.intercalate (s.args.map (Glyph.ofText isQuoted))

/-- The value of a parameter that does not stand for all arguments. -/
def singleParameter? (s : State) (name : Octets) : Option Octets :=
  match name with
  | ['#'] => some (Digits.ofNat s.args.length)
  | ['?'] => some (Digits.ofNat s.status)
  | ['$'] => some (Digits.ofNat s.shell)
  | ['!'] => s.latest.map Digits.ofNat
  | ['-'] => some (optionOrder.filter s.options.contains)
  | c :: rest =>
    if c.isDigit then
      match Digits.value (c :: rest) with
      | 0 => some s.name
      | n => s.args[n - 1]?
    else s.valueOf? (c :: rest)
  | [] => none

/-- Whether a name stands for all arguments. -/
def isAllArguments (name : Octets) : Bool := name = ['@'] || name = ['*']

/-- The glyphs of a parameter's value, if it is set. -/
def parameter? (s : State) (name : Octets) (isQuoted makesFields : Bool) : Option (List Glyph) :=
  if isAllArguments name then some (s.argumentGlyphs (name = ['@']) isQuoted makesFields)
  else (s.singleParameter? name).map (Glyph.ofText isQuoted)

/-- How the value of a parameter is split. -/
def splittingOf (s : State) (name : Octets) (isQuoted : Bool) : Splitting :=
  if !isQuoted then .split
  else if name = ['@'] && !s.args.isEmpty then .atGaps
  else .kept

/-- Whether a parameter counts as having no value. -/
def lacks (value : Option (List Glyph)) (alsoWhenEmpty : Bool) : Bool :=
  match value with
  | none => true
  | some glyphs => alsoWhenEmpty && glyphs.isEmpty

/-- Cannot go on because of a parameter without a value. -/
def abortUnset (s : State) (name : Octets) (text : String) : State :=
  s.abort s!"{String.ofList name}: {text}"

/-- The fields of spans, each replaced by the paths it matches. -/
def fieldsOf (s : State) (spans : List Span) : List Octets :=
  (Span.fields s.separators none spans).flatMap fun glyphs =>
    let field := Glyph.field glyphs
    if s.options.contains 'f' then [field.chars] else field.paths s

/-- Sets what an arithmetic expression sets, or tells what is wrong with it. -/
def evaluated (s : State) (text : Octets) : Option Int × State :=
  match Arithmetic.value s.number text with
  | .ok (n, changes) =>
    let s := changes.reverse.foldl (fun s (name, n) => if s.goesOn then s.assign name (Digits.ofInt n) else s) s
    (some n, s)
  | .error (.expression reason) =>
    (none, s.abort s!"arithmetic expression: {reason}: \"{String.ofList text}\"")
  | .error (.number bad) => (none, s.abort s!"Illegal number: {String.ofList bad}")

end State

end ProtoTree.Shell
