import ProtoTree.Shell.Reader

/-! # Tokens of shell scripts

Words are read with everything inside them: the scripts in parentheses and
between backquotes are commands by then, and the text of an expansion is a
word of its own. The text of a here-document follows the line it is asked for
on.
-/

namespace ProtoTree.Shell

open Text (Octets)

/-- What text is read inside of. -/
inductive Inside where
  /-- A word, of which nothing is open. -/
  | word
  /-- Braces that are not quoted. -/
  | brace
  /-- Double quotes, perhaps in braces that are not quoted. -/
  | quotes (inBrace : Bool)
  /-- Quoted braces, perhaps between double quotes of their own. -/
  | quotedBrace (quoted : Bool)
  | document
  /-- Braces of a here-document. -/
  | documentBrace (quoted : Bool)
  /-- An arithmetic expression with open parentheses. -/
  | arithmetic (opened : Nat)
  deriving DecidableEq, Inhabited

namespace Inside

/-- Whether text stays in one piece there. -/
def isQuoted : Inside → Bool
  | word | brace => false
  | _ => true

/-- Where the word of a parameter is read. -/
def below : Inside → Inside
  | word | brace => brace
  | quotes _ | quotedBrace _ | arithmetic _ => quotedBrace false
  | document | documentBrace _ => documentBrace false

/-- What is wrong when the script ends there. -/
def openMessage : Inside → Option String
  | word | document => none
  | brace | documentBrace _ => some "Missing '\x7d'"
  | quotes _ | quotedBrace _ => some "Unterminated quoted string"
  | arithmetic _ => some "Missing '))'"

/-- Whether a backslash protects a character there. -/
def protects (i : Inside) (c : Char) : Bool :=
  match i with
  | word | brace => true
  | i =>
    c == '\\' || c == '\x60' || c == '$' || (c == '"' && i ≠ document)
      || (c == '}' && match i with
        | quotes inBrace => inBrace
        | quotedBrace _ | documentBrace _ => true
        | _ => false)

end Inside

/-- What reading a word depends on. -/
structure Surroundings where
  /-- Reads a script inside a word, and the parenthesis after it unless it ends with the text. -/
  script : Bool → Reading Command
  /-- The end of the here-document around the text. -/
  ending : Option Ending := none
  /-- Nothing stands for anything else. -/
  literal : Bool := false

namespace Token

open Reader (fault take peek nextLine peekJoined takeJoined takeIf keep)

def backquote : Char := '\x60'

/-- Characters that end an unquoted word. -/
def endsWord (c : Char) : Bool :=
  c == ' ' || c == '\t' || c == '\n' || c == ';' || c == '&' || c == '|' || c == '(' || c == ')'
    || c == '<' || c == '>'

/-- The text up to the next single quote. -/
def singleQuoted (fuel : Nat) (before : Octets) : Reading Octets :=
  match fuel with
  | 0 => fault "Unterminated quoted string"
  | fuel + 1 => do
    match ← take with
    | none => fault "Unterminated quoted string"
    | some '\'' => return before.reverse
    | some c =>
      if c == '\n' then nextLine
      singleQuoted fuel (c :: before)

/-- The script between backquotes, after the first one. -/
def backquoted (fuel : Nat) (quoted : Bool) (before : Octets) : Reading Octets :=
  match fuel with
  | 0 => fault "EOF in backquote substitution"
  | fuel + 1 => do
    match ← takeJoined with
    | none => fault "EOF in backquote substitution"
    | some c =>
      if c == backquote then return before.reverse
      else if c == '\\' then
        match ← take with
        | none => fault "EOF in backquote substitution"
        | some e =>
          if e == '\\' || e == backquote || e == '$' || (quoted && e == '"') then
            backquoted fuel quoted (e :: before)
          else backquoted fuel quoted (e :: '\\' :: before)
      else
        if c == '\n' then nextLine
        backquoted fuel quoted (c :: before)

/-- Reads a text of its own in the middle of another. -/
def apart (text : Octets) (script : Reading Command) : Reading Command := do
  let outer ← get
  set { outer with sources := [⟨text, none, false⟩], line := 1, kept := none, pending := [] }
  let command ← script
  modify fun r =>
    { r with sources := outer.sources, line := outer.line, kept := none, pending := outer.pending }
  return command

/-- Reads a script in the middle of a word, with here-documents of its own. -/
def embedded (script : Reading Command) : Reading Command := do
  let outer ← get
  set { outer with pending := [] }
  let command ← script
  modify fun r => { r with kept := none, pending := outer.pending }
  return command

/-- The characters that come next, as long as they are of a kind. -/
def takeRun (fuel : Nat) (p : Char → Bool) (before : Octets) : Reading Octets :=
  match fuel with
  | 0 => return before.reverse
  | fuel + 1 => do
    match ← peekJoined with
    | some c =>
      if p c then
        let _ ← take
        takeRun fuel p (c :: before)
      else return before.reverse
    | none => return before.reverse

/-- A parameter's name between braces, and whether its size is meant; the name is empty when there is none. -/
def bracedName (fuel : Nat) : Reading (Octets × Bool) := do
  match ← peekJoined with
  | none => return ([], false)
  | some '#' =>
    let _ ← take
    match ← peekJoined with
    | none => return (['#'], false)
    | some c =>
      if c == '_' || c.isAlphanum then
        let name ← if c.isDigit then takeRun fuel Char.isDigit [] else takeRun fuel Name.isPart []
        return (name, true)
      else if c == '}' then return (['#'], false)
      else
        let before ← get
        let _ ← take
        if (← peekJoined) = some '}' then
          return if Name.isSpecial c then ([c], true) else ([], false)
        set before
        return (['#'], false)
  | some c =>
    if Name.isStart c then return (← takeRun fuel Name.isPart [], false)
    else if c.isDigit then return (← takeRun fuel Char.isDigit [], false)
    else if c == '}' then return ([], false)
    else
      let _ ← take
      return (if Name.isSpecial c then [c] else [], false)

/-- The use that a sign after a parameter's name asks for. -/
def signedUse? (orEmpty : Bool) : Char → Option ParameterUse
  | '-' => some (.unless orEmpty)
  | '+' => some (.instead orEmpty)
  | '?' => some (.require orEmpty)
  | '=' => some (.assign orEmpty)
  | _ => none

/-- How a parameter between braces is used. -/
def bracedUse : Reading ParameterUse := do
  match ← takeJoined with
  | some ':' =>
    match ← takeJoined with
    | some c => return (signedUse? true c).getD .bad
    | none => return .bad
  | some '%' => return .trim true (← takeIf '%')
  | some '#' => return .trim false (← takeIf '#')
  | some c => return (signedUse? false c).getD .bad
  | none => return .bad

mutual

/-- The parts of a word up to where what it is inside of ends; `acc` are those before, in reverse. -/
def parts (fuel : Nat) (around : Surroundings) (i : Inside) (acc : Word) : Reading Word :=
  match fuel with
  | 0 => fault "word too long"
  | fuel + 1 => do
    match ← peekJoined with
    | none =>
      match i.openMessage with
      | some message => fault message
      | none => return Word.ofReversed acc
    | some c =>
      if i = .word && endsWord c then return Word.ofReversed acc
      let _ ← take
      let plain (i : Inside) : Reading Word := parts fuel around i (Word.addText [c] i.isQuoted acc)
      match c with
      | '\n' =>
        nextLine
        let acc := Word.addText [c] i.isQuoted acc
        match around.ending with
        | none => parts fuel around i acc
        | some ending =>
          if ← Reader.atEnding ending then
            match i.openMessage with
            | some message => fault message
            | none => return Word.ofReversed acc
          else parts fuel around i acc
      | '\\' =>
        match ← take with
        | none => parts fuel around i (Word.addText ['\\'] true acc)
        | some e =>
          parts fuel around i (Word.addText (if i.protects e then [e] else ['\\', e]) true acc)
      | '\'' =>
        if i.isQuoted then plain i
        else
          let inner ← singleQuoted Reader.plenty []
          parts fuel around i (.mark :: Word.addText inner true (.mark :: acc))
      | '"' =>
        match i with
        | .word | .brace =>
          let inner ← parts fuel around (.quotes (i = .brace)) []
          parts fuel around i (.mark :: inner.toReversed ++ .mark :: acc)
        | .quotes _ => return Word.ofReversed acc
        | .quotedBrace quoted => parts fuel around (.quotedBrace !quoted) (.mark :: acc)
        | .documentBrace quoted => parts fuel around (.documentBrace !quoted) acc
        | .document | .arithmetic _ => plain i
      | '}' =>
        match i with
        | .brace | .quotedBrace false | .documentBrace false => return Word.ofReversed acc
        | _ => plain i
      | '(' =>
        match i with
        | .arithmetic opened => plain (.arithmetic (opened + 1))
        | _ => plain i
      | ')' =>
        match i with
        | .arithmetic (opened + 1) => plain (.arithmetic opened)
        | .arithmetic 0 => if ← takeIf ')' then return Word.ofReversed acc else plain i
        | _ => plain i
      | '$' =>
        if around.literal then plain i
        else parts fuel around i (← dollar fuel around i acc)
      | c =>
        if c != backquote then plain i
        else if around.literal then parts fuel around i (Word.addText [c] true acc)
        else
          let text ← backquoted Reader.plenty i.isQuoted []
          let script ← apart text (around.script false)
          parts fuel around i (.output script i.isQuoted :: acc)
termination_by structural fuel

/-- The parts before and with the one that a dollar sign starts, in reverse. -/
def dollar (fuel : Nat) (around : Surroundings) (i : Inside) (acc : Word) : Reading Word :=
  match fuel with
  | 0 => fault "word too long"
  | fuel + 1 => do
    match ← peekJoined with
    | some '(' =>
      let _ ← take
      if ← takeIf '(' then
        return .arithmetic (← parts fuel around (.arithmetic 0) []) i.isQuoted :: acc
      else return .output (← embedded (around.script true)) i.isQuoted :: acc
    | some '{' =>
      let _ ← take
      let (name, isSize) ← bracedName fuel
      let use ←
        if name.isEmpty then pure .bad
        else if isSize then pure (if (← peekJoined) = some '}' then .size else .bad)
        else if (← peekJoined) = some '}' then pure .whole
        else bracedUse
      let place := match use with
        | .trim .. => .brace
        | _ => i.below
      let word ← parts fuel around place []
      return .parameter name use word i.isQuoted :: acc
    | some c =>
      if Name.isStart c then
        return .parameter (← takeRun fuel Name.isPart []) .whole [] i.isQuoted :: acc
      else if Name.isSpecial c then
        let _ ← take
        return .parameter [c] .whole [] i.isQuoted :: acc
      else return Word.addText ['$'] i.isQuoted acc
    | none => return Word.addText ['$'] i.isQuoted acc
termination_by structural fuel

end

/-- The lines up to the one that ends a here-document. -/
def documentLines (fuel : Nat) (ending : Ending) (before : Octets) : Reading Octets :=
  match fuel with
  | 0 => return before.reverse
  | fuel + 1 => do
    match ← take with
    | none => return before.reverse
    | some c =>
      if c == '\n' then
        nextLine
        if ← Reader.atEnding ending then return (c :: before).reverse
      documentLines fuel ending (c :: before)

/-- The body of a here-document. -/
def documentBody (around : Surroundings) (p : Pending) : Reading Word := do
  if ← Reader.atEnding p.ending then return []
  if p.quoted then return [.text (← documentLines Reader.plenty p.ending []) true]
  else parts Reader.plenty { around with ending := some p.ending, literal := false } .document []

/-- Reads the here-documents that were asked for, each after the one before it. -/
def readDocuments (around : Surroundings) : Reading Unit := do
  let pending := (← get).pending
  modify fun r => { r with pending := [] }
  for p in pending do
    let body ← documentBody around p
    modify fun r => { r with documents := (p.number, body) :: r.documents }

/-- The operator of a redirection after its first character, with the descriptor in front of it. -/
def redirection (descriptor : Option Nat) (first : Char) : Reading Token := do
  if first == '>' then
    let mode ←
      if ← takeIf '>' then pure (RedirectOperator.file .append)
      else if ← takeIf '|' then pure (.file .overwrite)
      else if ← takeIf '&' then pure (.copy false)
      else pure (.file .write)
    return .redirect (descriptor.getD 1) mode
  else
    let mode ←
      if ← takeIf '<' then do pure (RedirectOperator.document (← takeIf '-'))
      else if ← takeIf '&' then pure (.copy true)
      else if ← takeIf '>' then pure (.file .readWrite)
      else pure (.file .read)
    return .redirect (descriptor.getD 0) mode

/-- A word, or the redirection that its only digit is a part of. -/
def wordOrRedirection (around : Surroundings) : Reading Token := do
  let w ← parts Reader.plenty around .word []
  let next ← peekJoined
  let descriptor : Option (Option Nat) := match w with
    | [] => some none
    | [.text [c] false] => if c.isDigit then some (some (Digits.digitValue c)) else none
    | _ => none
  match descriptor, next with
  | some descriptor, some c =>
    if c == '<' || c == '>' then
      let _ ← take
      redirection descriptor c
    else return .word w
  | _, _ => return .word w

/-- The next token as it stands there. -/
def raw (fuel : Nat) (around : Surroundings) : Reading Token :=
  match fuel with
  | 0 => return .finish
  | fuel + 1 => do
    match ← peekJoined with
    | none => return .finish
    | some c =>
      if c == ' ' || c == '\t' then
        let _ ← take
        raw fuel around
      else if c == '#' then
        comment fuel
        raw fuel around
      else if c == '\n' then
        let _ ← take
        nextLine
        return .newline
      else if c == '&' || c == '|' || c == ';' then
        let _ ← take
        if ← takeIf c then return .operator (String.ofList [c, c])
        else return .operator (String.ofList [c])
      else if c == '(' || c == ')' then
        let _ ← take
        return .operator (String.ofList [c])
      else wordOrRedirection around
where
  /-- Drops the rest of the line. -/
  comment (fuel : Nat) : Reading Unit :=
    match fuel with
    | 0 => return
    | fuel + 1 => do
      match ← peek with
      | none | some '\n' => return
      | some _ =>
        let _ ← take
        comment fuel

/-- The words that stand for more than themselves. -/
def reserved : List String :=
  ["!", "case", "do", "done", "elif", "else", "esac", "fi", "for", "if", "in", "then", "until",
    "while", "\x7b", "\x7d"]

/-- What is looked for in front of and in a token. -/
structure Wanted where
  /-- Line ends are passed over. -/
  newlines : Bool := false
  keywords : Bool := false
  aliases : Bool := false
  /-- Words stand for nothing but themselves. -/
  literal : Bool := false

/-- The first token after line ends. -/
def afterNewlines (fuel : Nat) (around : Surroundings) (t : Token) : Reading Token :=
  match fuel, t with
  | fuel + 1, .newline => do
    readDocuments around
    afterNewlines fuel around (← raw Reader.plenty around)
  | _, t => return t

/-- The next token, or the one that was kept. -/
def next (fuel : Nat) (around : Surroundings) (wanted : Wanted) : Reading Token :=
  match fuel with
  | 0 => return .finish
  | fuel + 1 => do
    let around := { around with literal := wanted.literal }
    let t ← match (← get).kept with
      | some t =>
        modify fun r => { r with kept := none }
        pure t
      | none => raw Reader.plenty around
    let t ← if wanted.newlines then afterNewlines Reader.plenty around t else pure t
    let aliasNext := (← get).aliasNext
    modify fun r => { r with aliasNext := false }
    let aliases := wanted.aliases || aliasNext
    match t with
    | .word [.text chars false] =>
      if wanted.keywords && reserved.contains (String.ofList chars) then
        return .keyword (String.ofList chars)
      unless aliases do return t
      if ← Reader.pushAlias chars then next fuel around { wanted with aliases }
      else return t
    | t => return t

def inQuotes (text : String) : String := "\"" ++ text ++ "\""

/-- What a message calls a token. -/
def shown : Token → String
  | .finish => "end of file"
  | .newline => "newline"
  | .operator text | .keyword text => inQuotes text
  | .word _ => "word"
  | .redirect .. => "redirection"

end Token

end ProtoTree.Shell
