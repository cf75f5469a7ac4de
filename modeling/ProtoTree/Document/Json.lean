import ProtoTree.Document.Basic

/-! # Documents as JSON -/

namespace ProtoTree.Document

/-- One character inside a JSON string. -/
def jsonChar (c : Char) : List Char :=
  match c with
  | '"' => ['\\', '"']
  | '\\' => ['\\', '\\']
  | '\n' => ['\\', 'n']
  | '\r' => ['\\', 'r']
  | '\t' => ['\\', 't']
  | '\x08' => ['\\', 'b']
  | '\x0c' => ['\\', 'f']
  | c =>
    if c.toNat < 0x20 then
      ['\\', 'u', '0', '0'] ++ [Nat.digitChar (c.toNat / 16), Nat.digitChar (c.toNat % 16)]
    else [c]

/-- A JSON string. -/
def jsonText (s : String) : String := String.ofList ('"' :: s.toList.flatMap jsonChar ++ ['"'])

/-- Where the parts of a JSON text are placed. -/
inductive JsonLayout where
  /-- All on one line, without spaces. -/
  | compact
  /-- One item a line, two spaces deeper per level. -/
  | indented (level : Nat)

namespace JsonLayout

def deeper : JsonLayout → JsonLayout
  | compact => compact
  | indented level => indented (level + 1)

/-- What starts a new item. -/
def newItem : JsonLayout → String
  | compact => ""
  | indented level => "\n" ++ String.ofList (List.replicate (2 * level) ' ')

/-- What stands between a field's name and its value. -/
def colon : JsonLayout → String
  | compact => ":"
  | indented _ => ": "

end JsonLayout

mutual

/-- A document as JSON in a layout. -/
def jsonIn (layout : JsonLayout) : Document → String
  | null => "null"
  | flag value => if value then "true" else "false"
  | number value => toString value
  | text value => jsonText value
  | list items =>
    if items.isEmpty then "[]"
    else "[" ++ ",".intercalate (jsonItems layout.deeper items) ++ layout.newItem ++ "]"
  | record fields =>
    if fields.isEmpty then "\x7b\x7d"
    else "\x7b" ++ ",".intercalate (jsonFields layout.deeper fields) ++ layout.newItem ++ "\x7d"

/-- The items of a list, each with its start. -/
def jsonItems (layout : JsonLayout) : List Document → List String
  | [] => []
  | item :: rest => (layout.newItem ++ jsonIn layout item) :: jsonItems layout rest

/-- The fields of a record, each with its start. -/
def jsonFields (layout : JsonLayout) : List (String × Document) → List String
  | [] => []
  | (name, value) :: rest =>
    (layout.newItem ++ jsonText name ++ layout.colon ++ jsonIn layout value) ::
      jsonFields layout rest

end

/-- A document as JSON on several lines. -/
def toJson (d : Document) : String := jsonIn (.indented 0) d

/-- A document as JSON on one line. -/
def toJsonLine (d : Document) : String := jsonIn .compact d

end ProtoTree.Document
