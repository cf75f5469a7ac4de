import ProtoTree.FileSystem.Basic
import ProtoTree.Text.Case

/-! # Discovery

Finding the proto files of a tree.
-/

namespace ProtoTree

namespace Path

/-- The ending of proto file names. -/
def protoEnding : List Char := ".proto".toList

/-- Whether the last component is a name whose text has the proto ending, in any letter case. -/
def isProtoFile (p : Path) : Bool :=
  match p.fileName? with
  | some name => protoEnding.isSuffixOf (Text.lowercase (Text.decodeLossy name))
  | none => false

end Path

/-- The proto files below a directory in normal form and in path order. -/
def discover {σ : Type} [FileSystem σ] (fs : σ) (root : Path) : Except FileError (List Path) :=
  match FileSystem.listFiles fs root with
  | .ok files => .ok (Path.sort ((files.filter Path.isProtoFile).map Path.normalize))
  | .error e => .error e

end ProtoTree
