import ProtoTree.Text.Utf8

/-! # Text of bytes

Text that is taken byte by byte: each byte is held as the character of its
number.
-/

namespace ProtoTree.Text

/-- Text whose characters are bytes. -/
abbrev Octets := List Char

namespace Octets

def ofBytes (bytes : Bytes) : Octets := bytes.map fun b => Char.ofNat b.toNat

def toBytes (text : Octets) : Bytes := text.map fun c => UInt8.ofNat c.toNat

/-- The UTF-8 form of some characters. -/
def ofChars (cs : List Char) : Octets :=
  if cs.all (·.toNat < 128) then cs else ofBytes (encode cs)

def ofString (text : String) : Octets := ofChars text.toList

end Octets

end ProtoTree.Text
