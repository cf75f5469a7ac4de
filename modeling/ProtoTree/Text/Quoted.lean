import ProtoTree.Text.Printable
import ProtoTree.Text.Utf8

/-! # Quoted text

How a text is shown inside an error message: in double quotes, with escapes
for everything that could be misread, and for bytes that are no text.
-/

namespace ProtoTree.Text

/-- One character inside double quotes. -/
def quoteChar (c : Char) : List Char :=
  match c with
  | '\x00' => ['\\', '0']
  | '\t' => ['\\', 't']
  | '\r' => ['\\', 'r']
  | '\n' => ['\\', 'n']
  | '"' => ['\\', '"']
  | '\\' => ['\\', '\\']
  | c =>
    if isExtender c || isUnprintable c then
      ['\\', 'u', '{'] ++ Nat.toDigits 16 c.toNat ++ ['}']
    else [c]

/-- The characters in double quotes. -/
def quotedChars (cs : List Char) : List Char := '"' :: cs.flatMap quoteChar ++ ['"']

/-- The text in double quotes. -/
def quoted (text : String) : String := String.ofList (quotedChars text.toList)

/-- A byte that is no part of a character, by its number. -/
def quoteByte (b : UInt8) : List Char :=
  ['\\', 'x', (Nat.digitChar (b.toNat / 16)).toUpper, (Nat.digitChar (b.toNat % 16)).toUpper]

/-- Bytes inside double quotes, behind the ones that belong to a character in front. -/
def quoteBytes (skipped : Nat) : Bytes → List Char
  | [] => []
  | b :: rest =>
    match skipped with
    | skipped + 1 => quoteBytes skipped rest
    | 0 =>
      let c := (decodeLossy (b :: rest.take 3)).headD replacement
      -- a replacement stands for itself only where it is written out
      if (encode [c]).isPrefixOf (b :: rest) then quoteChar c ++ quoteBytes ((encode [c]).length - 1) rest
      else quoteByte b ++ quoteBytes 0 rest

/-- The text of some bytes in double quotes. -/
def quotedBytes (bytes : Bytes) : String := String.ofList ('"' :: quoteBytes 0 bytes ++ ['"'])

end ProtoTree.Text
