import ProtoTree.Text.Ranges

/-! # Blank characters

White space, and trimming it off the ends of a text.
-/

namespace ProtoTree.Text

/-- Every white-space character. -/
def blankRanges : CharRanges :=
  [(0x9, 0xD), (0x20, 0x20), (0x85, 0x85), (0xA0, 0xA0), (0x1680, 0x1680), (0x2000, 0x200A),
   (0x2028, 0x2029), (0x202F, 0x202F), (0x205F, 0x205F), (0x3000, 0x3000)]

/-- Whether `c` is white space. -/
def isBlank (c : Char) : Bool := blankRanges.contains c

/-- `text` without the white space at its end. -/
def trimEnd (text : String) : String :=
  String.ofList (text.toList.reverse.dropWhile isBlank).reverse

/-- Whether `text` holds nothing but white space. -/
def isBlankText (text : String) : Bool := text.toList.all isBlank

end ProtoTree.Text
