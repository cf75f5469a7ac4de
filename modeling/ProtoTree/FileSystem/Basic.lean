import ProtoTree.Path.Normal
import ProtoTree.SystemError
import ProtoTree.Text.Quoted
import ProtoTree.Text.Utf8

/-! # File systems

What a compile run asks of a file system, and how the answers fail. Any type
of values that answers these questions is a file system; creating directories
gives a new value.
-/

namespace ProtoTree

open Text (Bytes)

/-- What was being done when a file system refused. -/
inductive FileAction where
  | readFile
  | readDirectory
  | walkDirectory
  | createDirectory
  | findCurrentDirectory
  deriving DecidableEq, Repr, Inhabited

/-- A refusal of a file system. -/
inductive FileError where
  /-- Nothing is recorded at the path. -/
  | missing (path : Path)
  /-- The action failed at the path, for a cause that the system gave or for none. -/
  | failed (action : FileAction) (path : Path) (cause : Option SystemError)
  deriving DecidableEq, Repr, Inhabited

namespace FileError

/-- What failed, without the cause. -/
def summary : FileError → String
  | missing path => s!"File not found: {Text.quotedBytes path.bytes}"
  | failed .readFile path _ => s!"Failed to read file {Text.quotedBytes path.bytes}"
  | failed .readDirectory path _ => s!"Failed to read directory {Text.quotedBytes path.bytes}"
  | failed .walkDirectory path _ => s!"Failed to walk directory {Text.quotedBytes path.bytes}"
  | failed .createDirectory path _ => s!"Failed to create directory {Text.quotedBytes path.bytes}"
  | failed .findCurrentDirectory _ _ => "Failed to determine current directory"

/-- What failed, and why. -/
def message : FileError → String
  | .failed action path (some cause) => s!"{(failed action path none).summary}: {cause.message}"
  | e => e.summary

end FileError

/-- Values that answer the questions of a compile run about files. -/
class FileSystem (σ : Type) where
  /-- Whether a regular file is at the path. -/
  isFile : σ → Path → Bool
  /-- Whether a directory is at the path. -/
  isDir : σ → Path → Bool
  /-- The content of a file. -/
  read : σ → Path → Except FileError Bytes
  /-- Every file below a directory, at any depth and in no particular order. -/
  listFiles : σ → Path → Except FileError (List Path)
  /-- Makes a directory and the directories above it that are missing. A refusal may come when some of them are
      made already. -/
  createDirAll : σ → Path → Except FileError Unit × σ
  /-- The directory that relative paths start from. -/
  currentDir : σ → Except FileError Path

end ProtoTree
