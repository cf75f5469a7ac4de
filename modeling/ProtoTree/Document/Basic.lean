/-! # Documents

Values of reports, to be written as JSON or YAML.
-/

namespace ProtoTree

/-- A value of a report. Fields keep their order. -/
inductive Document where
  | null
  | flag (value : Bool)
  | number (value : Nat)
  | text (value : String)
  | list (items : List Document)
  | record (fields : List (String × Document))
  deriving Repr, Inhabited

namespace Document

/-- The text, or null. -/
def ofText? : Option String → Document
  | some s => text s
  | none => null

/-- A list of texts. -/
def texts (items : List String) : Document := list (items.map text)

end Document

end ProtoTree
