/-! # Lines of a text -/

namespace ProtoTree.Text

/-- A line that a newline ends, without the carriage return before that newline. -/
def stripReturn (line : List Char) : List Char :=
  if line.getLast? = some '\r' then line.dropLast else line

/-- Turns the pieces between newlines into lines; what follows the last newline is a line only when not empty. -/
def linesOfPieces : List (List Char) → List (List Char)
  | [] => []
  | [last] => if last.isEmpty then [] else [last]
  | piece :: rest => stripReturn piece :: linesOfPieces rest

/-- The lines of a text. A newline ends a line and takes one carriage return before it along. -/
def lines (text : List Char) : List (List Char) := linesOfPieces (text.splitOn '\n')

end ProtoTree.Text
