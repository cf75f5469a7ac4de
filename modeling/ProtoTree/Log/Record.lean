import ProtoTree.Document.Json
import ProtoTree.Text.Numeral
import ProtoTree.Text.Quoted

/-! # Log records

A record has a level, the part of the program it comes from, a message and
named fields. It is written as one text line or one JSON object.
-/

namespace ProtoTree

/-- How severe a record is. -/
inductive Level where
  | trace
  | debug
  | info
  | warn
  | error
  deriving DecidableEq, Repr, Inhabited

namespace Level

def severity : Level → Nat
  | trace => 0
  | debug => 1
  | info => 2
  | warn => 3
  | error => 4

/-- Whether a record of level `l` passes the threshold `minimum`. -/
def passes (l minimum : Level) : Bool := minimum.severity ≤ l.severity

def name : Level → String
  | trace => "TRACE"
  | debug => "DEBUG"
  | info => "INFO"
  | warn => "WARN"
  | error => "ERROR"

/-- The level of a name in any letter case. -/
def ofName? (text : String) : Option Level :=
  [trace, debug, info, warn, error].find? fun l => l.name == text.map Char.toUpper

/-- What is printed when a name is no level. -/
def unknownNotice (text : String) : String :=
  s!"Invalid log level '{text}', defaulting to INFO. Valid levels: trace, debug, info, warn, error"

/-- The level of a name, `info` when it is none. -/
def ofName (text : String) : Level := (ofName? text).getD info

end Level

/-- The value of a record's field. -/
inductive LogValue where
  /-- Text that is shown as it is. -/
  | shown (text : String)
  /-- Text that a line shows in quotes. -/
  | quoted (text : String)
  | number (n : Nat)
  | flag (b : Bool)
  deriving DecidableEq, Repr, Inhabited

namespace LogValue

/-- The value itself, without quotes. -/
def bare : LogValue → String
  | shown text | quoted text => text
  | number n => toString n
  | flag b => toString b

/-- The value inside a text line. -/
def inLine : LogValue → String
  | quoted text => Text.quoted text
  | value => value.bare

def toDocument : LogValue → Document
  | shown text | quoted text => .text text
  | number n => .number n
  | flag b => .flag b

end LogValue

/-- One entry of the log. -/
structure LogRecord where
  level : Level
  /-- The part of the program that wrote the record. -/
  target : String
  message : String
  fields : List (String × LogValue) := []
  deriving DecidableEq, Repr, Inhabited

namespace LogRecord

/-- A field inside a text line. One that is itself called `message` has no name in front. -/
def fieldInLine (field : String × LogValue) : String :=
  if field.1 = "message" then field.2.inLine else s!"{field.1}={field.2.inLine}"

/-- A character of a message inside a text line. Those that could steer a terminal are spelled out. -/
def messageChar (c : Char) : List Char :=
  if c.toNat = 0x07 ∨ c.toNat = 0x08 ∨ c.toNat = 0x0C ∨ c.toNat = 0x1B ∨ c.toNat = 0x7F then
    ['\\', 'x'] ++ Text.padLeft 2 (Nat.toDigits 16 c.toNat)
  else if 0x80 ≤ c.toNat ∧ c.toNat ≤ 0x9F then
    ['\\', 'u', '{'] ++ Nat.toDigits 16 c.toNat ++ ['}']
  else [c]

/-- The message inside a text line. -/
def messageInLine (r : LogRecord) : String := String.ofList (r.message.toList.flatMap messageChar)

/-- The message and the fields, as a text line shows them. -/
def lineText (r : LogRecord) : String :=
  " ".intercalate (r.messageInLine :: r.fields.map fieldInLine)

/-- Fills a level's name up to the longest one's width. -/
def levelColumn (l : Level) : String :=
  String.ofList (List.replicate (5 - l.name.length) ' ') ++ l.name

/-- The record as a text line. -/
def toLine (r : LogRecord) (withTarget : Bool) : String :=
  let origin := if withTarget then r.target ++ ": " else ""
  s!"{levelColumn r.level} {origin}{r.lineText}"

/-- The fields of the JSON object. A field called `message` stands in for the message. -/
def jsonFields (r : LogRecord) : List (String × Document) :=
  let fields := r.fields.map fun (name, value) => (name, value.toDocument)
  if r.fields.any (·.1 == "message") then fields
  else ("message", .text r.message) :: fields

/-- The record as a JSON object. -/
def toDocument (r : LogRecord) (withTarget : Bool) : Document :=
  .record <| [("level", .text r.level.name), ("fields", .record r.jsonFields)]
    ++ (if withTarget then [("target", .text r.target)] else [])

end LogRecord

end ProtoTree
