import ProtoTree.Document.Basic
import ProtoTree.Document.YamlScalar

/-! # Documents as YAML

Block style throughout: a list inside a record starts at the record's own
indentation, and only empty lists and records are written in brackets.
-/

namespace ProtoTree.Document

open YamlScalar (spaces)

/-- Ends the current line unless it has just been ended. -/
def closeLine (cs : List Char) : List Char :=
  if cs.getLast?.any YamlScalar.isBreak then cs else cs ++ ['\n']

mutual

/-- A document that starts at an indentation. -/
def yamlNode (indent : Nat) : Document → List Char
  | null => "null".toList
  | flag value => (if value then "true" else "false").toList
  | number value => (toString value).toList
  | text value => YamlScalar.render (indent + 2) value
  | list items => if items.isEmpty then ['[', ']'] else yamlItems indent items
  | record fields => if fields.isEmpty then ['{', '}'] else yamlFields indent fields

/-- The items of a list, the first one at the current position. -/
def yamlItems (indent : Nat) : List Document → List Char
  | [] => []
  | item :: rest =>
    let written := closeLine ('-' :: ' ' :: yamlItem indent item)
    match rest with
    | [] => written
    | next :: more => written ++ spaces indent ++ yamlItems indent (next :: more)

/-- One item of a list at an indentation. -/
def yamlItem (indent : Nat) : Document → List Char
  | text value => YamlScalar.render (indent + 2) value
  | item => yamlNode (indent + 2) item

/-- The fields of a record, the first one at the current position. -/
def yamlFields (indent : Nat) : List (String × Document) → List Char
  | [] => []
  | (name, value) :: rest =>
    let written := closeLine (name.toList ++ ':' :: yamlField indent value)
    match rest with
    | [] => written
    | next :: more => written ++ spaces indent ++ yamlFields indent (next :: more)

/-- A field's value, after its colon. -/
def yamlField (indent : Nat) : Document → List Char
  | text value => ' ' :: YamlScalar.render (indent + 2) value
  | list items =>
    if items.isEmpty then [' ', '[', ']'] else '\n' :: spaces indent ++ yamlItems indent items
  | record fields =>
    if fields.isEmpty then [' ', '{', '}']
    else '\n' :: spaces (indent + 2) ++ yamlFields (indent + 2) fields
  | value => ' ' :: yamlNode indent value

end

/-- A document as YAML, its last line ended. -/
def toYaml (d : Document) : String := String.ofList (closeLine (yamlNode 0 d))

end ProtoTree.Document
