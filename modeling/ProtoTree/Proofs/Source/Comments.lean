import ProtoTree.Proofs.FileSystem.Memory
import ProtoTree.Proofs.Source.Composition
import ProtoTree.Proofs.Text.Utf8
import ProtoTree.Source.File

/-! # The bytes of comments

A file may hold any bytes behind the slashes of its comments, text or not. They
reach neither the newline behind them nor the code before them, so a scan of the
file sees the code alone.
-/

namespace ProtoTree

open Text (Bytes encode decodeLossy)

namespace Declarations

open Scan (Uncommented stripComment)

/-- A line declares what the code before a comment declares, whatever the code ends in. -/
theorem ofLine_comment (code comment : List Char) : ofLine (code ++ '/' :: '/' :: comment) = ofLine code := by
  have stripped := Scan.uncommented_stripComment code
  rw [ofLine, ofLine]
  generalize stripComment code = kept at stripped
  cases stripped with
  | @cut _ earlier clean =>
      have whole : Uncommented (kept ++ '/' :: '/' :: (earlier ++ '/' :: '/' :: comment)) kept := .cut clean
      rw [List.append_assoc, List.cons_append, List.cons_append, ← whole.eq_stripComment]
  | whole clean =>
      by_cases ends : code.getLast? = some '/'
      · -- the comment starts at the slash that the code ends in
        obtain ⟨front, rfl⟩ := List.getLast?_eq_some_iff.mp ends
        have whole : Uncommented (front ++ '/' :: '/' :: ('/' :: comment)) front := .cut clean
        rw [List.append_assoc, List.singleton_append, ← whole.eq_stripComment,
          ofCode_concat (by decide) (by decide)]
      · rw [Scan.stripComment_append clean ends, stripComment, List.append_nil]

theorem ofText_comment_append {code comment : List Char} (codeWhole : '\n' ∉ code) (commentWhole : '\n' ∉ comment)
    (rest : List Char) :
    ofText (code ++ '/' :: '/' :: comment ++ '\n' :: rest) = ofText (code ++ '\n' :: rest) := by
  have whole : '\n' ∉ code ++ '/' :: '/' :: comment := by simpa using ⟨codeWhole, commentWhole⟩
  rw [ofText_append_newline, ofText_append_newline, ofText_of_not_mem whole, ofLine_comment, ofText_of_not_mem codeWhole]

end Declarations

/-- A line of code and the bytes of the comment behind it, both without a newline. -/
structure CommentedLine where
  code : List Char
  comment : Bytes
  codeWhole : '\n' ∉ code
  commentWhole : 0x0A ∉ comment

namespace CommentedLine

/-- The line without its comment. -/
def chars (l : CommentedLine) : List Char := l.code ++ ['\n']

/-- The line as it stands in a file. -/
def bytes (l : CommentedLine) : Bytes := encode (l.code ++ ['/', '/']) ++ l.comment ++ [0x0A]

theorem decodeLossy_bytes_append (l : CommentedLine) (rest : Bytes) :
    decodeLossy (l.bytes ++ rest) = l.code ++ '/' :: '/' :: decodeLossy l.comment ++ '\n' :: decodeLossy rest := by
  have newline : Char.ofNat (0x0A : UInt8).toNat = '\n' := rfl
  simp only [bytes, List.append_assoc, List.singleton_append]
  rw [Text.decodeLossy_encode_append, Text.decodeLossy_append_ascii (by decide), newline]
  simp only [List.append_assoc, List.cons_append, List.nil_append]

theorem ofText_flatMap_bytes (lines : List CommentedLine) :
    Declarations.ofText (decodeLossy (lines.flatMap bytes)) = Declarations.ofText (lines.flatMap chars) := by
  induction lines with
  | nil => rfl
  | cons l lines ih =>
      have commentWhole := Text.newline_not_mem_decodeLossy l.commentWhole
      rw [List.flatMap_cons, List.flatMap_cons, l.decodeLossy_bytes_append,
        Declarations.ofText_comment_append l.codeWhole commentWhole, Declarations.ofText_append_newline, ih, chars,
        List.append_assoc, List.singleton_append, Declarations.ofText_append_newline]

end CommentedLine

namespace SourceFile

variable {σ : Type} [FileSystem σ] {fs : σ}

theorem scan_of_read {path : Path} {bytes : Bytes} (read : FileSystem.read fs path = .ok bytes) :
    scan fs path = { path, declarations := .ofText (decodeLossy bytes), failure := none } := by
  rw [scan, read]

/-- A scanned file declares what its code declares, whatever bytes its comments hold. -/
theorem scan_of_commented (path : Path) (lines : List CommentedLine)
    (read : FileSystem.read fs path = .ok (lines.flatMap CommentedLine.bytes)) :
    scan fs path = { path, declarations := .ofText (lines.flatMap CommentedLine.chars), failure := none } := by
  rw [scan_of_read read, CommentedLine.ofText_flatMap_bytes]

/-- Code that ends in a slash, a comment in Latin-1, one that breaks off inside a character, and one inside a comment. -/
def strayLines : List CommentedLine :=
  [⟨"import 'a.proto'; /".toList, [0x63, 0x61, 0x66, 0xE9], by decide, by decide⟩,
    ⟨"service Ä \x7b\x7d service A \x7b\r".toList, [0x27, 0xE2, 0x82], by decide, by decide⟩,
    ⟨"// import 'b.proto';".toList, [0xF0, 0x9F, 0x22], by decide, by decide⟩]

def strayTree : MemoryFiles := .ofFiles (.ofString "/w") [(.ofString "s.proto", strayLines.flatMap CommentedLine.bytes)]

theorem scan_of_commented_stray :
    FileSystem.read strayTree (.ofString "/w/s.proto") = .ok (strayLines.flatMap CommentedLine.bytes) ∧
      scan strayTree (.ofString "/w/s.proto") =
        { path := .ofString "/w/s.proto", declarations := .ofText (strayLines.flatMap CommentedLine.chars) } :=
  have read : FileSystem.read strayTree (.ofString "/w/s.proto") = .ok (strayLines.flatMap CommentedLine.bytes) :=
    MemoryFiles.read_ofFiles rfl
  ⟨read, scan_of_commented _ _ read⟩

end SourceFile

end ProtoTree
