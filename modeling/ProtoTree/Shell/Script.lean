import ProtoTree.Shell.Name

/-! # Shell scripts

The parts of a script: words, redirections and commands. Scripts stand in for
the tools of a toolchain, so a whole run can be followed without leaving the
program.
-/

namespace ProtoTree.Shell

open Text (Octets)

/-- How the value of a parameter is used; all but the first two uses have a word of their own. -/
inductive ParameterUse where
  | whole
  | size
  /-- The word when the parameter is not set, or also when it is empty. -/
  | unless (alsoWhenEmpty : Bool)
  /-- The word when the parameter is set, or only when it is not empty. -/
  | instead (notWhenEmpty : Bool)
  /-- Like `unless`, and the parameter is set to the word. -/
  | assign (alsoWhenEmpty : Bool)
  /-- The script ends with the word as its message when there is no value. -/
  | require (alsoWhenEmpty : Bool)
  /-- The value without what a pattern matches at one end. -/
  | trim (fromEnd longest : Bool)
  /-- There is no such use. -/
  | bad
  deriving DecidableEq, Inhabited

/-- What a file is opened for. -/
inductive OpenMode where
  | read
  | write
  /-- Writes to a file that is there even when that is not wanted in general. -/
  | overwrite
  | append
  | readWrite
  deriving DecidableEq, Inhabited

mutual

/-- A part of a word. What is quoted stays in one piece. -/
inductive WordPart where
  | text (chars : Octets) (quoted : Bool)
  /-- A quotation mark that was here. -/
  | mark
  | parameter (name : Octets) (use : ParameterUse) (word : List WordPart) (quoted : Bool)
  | arithmetic (expression : List WordPart) (quoted : Bool)
  /-- What a script prints that stands in parentheses or between backquotes. -/
  | output (script : Command) (quoted : Bool)

/-- A descriptor and where it is led. -/
inductive Redirection where
  | file (descriptor : Nat) (mode : OpenMode) (path : List WordPart)
  /-- To where the descriptor leads that the word names; `-` closes. -/
  | copy (descriptor : Nat) (toRead : Bool) (source : List WordPart)
  /-- Reads the here-document of a number. -/
  | document (descriptor number : Nat)

/-- A command. Lines are those that messages name. -/
inductive Command where
  | nothing
  | simple (line : Nat) (assignments words : List (List WordPart)) (redirections : List Redirection)
  | sequence (first second : Command)
  | andThen (first second : Command)
  | orElse (first second : Command)
  | negated (command : Command)
  /-- Each command reads what the one before it prints. -/
  | pipe (commands : List Command)
  /-- Runs beside what comes after it. -/
  | background (command : Command)
  | choice (condition thenDo elseDo : Command)
  /-- Repeats the body as long as the condition holds, or as long as it does not. -/
  | loop (whileHolds : Bool) (condition body : Command)
  /-- Runs the body for each field of the words, or for each argument. -/
  | each (line : Nat) (name : Octets) (words : Option (List (List WordPart))) (body : Command)
  /-- Runs the first branch with a pattern that matches. -/
  | select (line : Nat) (subject : List WordPart) (branches : List (List (List WordPart) × Command))
  | group (line : Nat) (body : Command) (redirections : List Redirection)
  /-- Runs in a copy of the shell. -/
  | subshell (line : Nat) (body : Command) (redirections : List Redirection)
  | define (name : Octets) (body : Command)

end

abbrev Word := List WordPart

instance : Inhabited WordPart := ⟨.mark⟩

instance : Inhabited Command := ⟨.nothing⟩

namespace Word

/-- A part in front of the parts that were read before it, the latest first. Texts grow in reverse. -/
def addText (chars : Octets) (quoted : Bool) : Word → Word
  | .text more same :: rest =>
    if same = quoted then .text (chars.reverse ++ more) quoted :: rest
    else .text chars.reverse quoted :: .text more same :: rest
  | word => .text chars.reverse quoted :: word

/-- The word whose parts were read in reverse. -/
def ofReversed (parts : Word) : Word :=
  parts.reverse.map fun
    | .text chars quoted => .text chars.reverse quoted
    | part => part

/-- The parts of a word in reverse, as they are when they are read. -/
def toReversed (w : Word) : Word :=
  w.reverse.map fun
    | .text chars quoted => .text chars.reverse quoted
    | part => part

/-- The characters of a word without quotes or parameters. -/
def plain? : Word → Option Octets
  | [.text chars false] => some chars
  | _ => none

/-- Whether some part of a word is quoted. -/
def hasQuotes (w : Word) : Bool :=
  w.any fun
    | .text _ quoted => quoted
    | .mark => true
    | _ => false

/-- The characters of a word that is not expanded. -/
def literal (w : Word) : Octets :=
  w.flatMap fun
    | .text chars _ => chars
    | _ => []

/-- The name that a word assigns to, and the value. -/
def assignment? : Word → Option (Octets × Word)
  | .text chars false :: rest =>
    let name := Name.leading chars
    match chars.drop name.length with
    | '=' :: value =>
      if name.isEmpty then none
      else some (name, if value.isEmpty then rest else .text value false :: rest)
    | _ => none
  | _ => none

end Word

/-- Why a text is no script. -/
structure SyntaxFault where
  line : Nat
  message : String
  deriving DecidableEq, Repr, Inhabited

end ProtoTree.Shell
