/-! # Text as bytes

UTF-8 encoding, and a decoding that never fails: each longest run of bytes
that starts a character but cannot be completed becomes one replacement
character.
-/

namespace ProtoTree.Text

/-- The bytes of a file. -/
abbrev Bytes := List UInt8

/-- The UTF-8 form of some characters. -/
def encode (cs : List Char) : Bytes := cs.flatMap String.utf8EncodeChar

/-- Stands for bytes that are no character. -/
def replacement : Char := '\uFFFD'

/-- Whether `b` may only continue a character. -/
def isContinuation (b : UInt8) : Bool := 0x80 ≤ b && b ≤ 0xBF

/-- How many bytes a character starting with `lead` has, when `lead` starts a longer one. -/
def sequenceLength (lead : UInt8) : Nat :=
  if 0xC2 ≤ lead && lead ≤ 0xDF then 2
  else if 0xE0 ≤ lead && lead ≤ 0xEF then 3
  else if 0xF0 ≤ lead && lead ≤ 0xF4 then 4
  else 1

/-- Whether `second` may follow `lead`: overlong forms, surrogates and values past the last code point are ruled out here. -/
def isSecond (lead second : UInt8) : Bool :=
  if lead == 0xE0 then 0xA0 ≤ second && second ≤ 0xBF
  else if lead == 0xED then 0x80 ≤ second && second ≤ 0x9F
  else if lead == 0xF0 then 0x90 ≤ second && second ≤ 0xBF
  else if lead == 0xF4 then 0x80 ≤ second && second ≤ 0x8F
  else isContinuation second

/-- The character with the given leading value and continuation bytes. -/
def assemble (high : Nat) (low : List UInt8) : Char :=
  Char.ofNat (low.foldl (fun value b => value * 64 + b.toNat % 64) high)

/-- The characters of `bytes`, with replacements for what is not UTF-8. -/
def decodeLossy : Bytes → List Char
  | [] => []
  | a :: rest =>
    if a < 0x80 then Char.ofNat a.toNat :: decodeLossy rest
    else if sequenceLength a = 1 then replacement :: decodeLossy rest
    else
      match rest with
      | [] => [replacement]
      | b :: rest₂ =>
        if !isSecond a b then replacement :: decodeLossy (b :: rest₂)
        else if sequenceLength a = 2 then assemble (a.toNat % 32) [b] :: decodeLossy rest₂
        else
          match rest₂ with
          | [] => [replacement]
          | c :: rest₃ =>
            if !isContinuation c then replacement :: decodeLossy (c :: rest₃)
            else if sequenceLength a = 3 then assemble (a.toNat % 16) [b, c] :: decodeLossy rest₃
            else
              match rest₃ with
              | [] => [replacement]
              | d :: rest₄ =>
                if !isContinuation d then replacement :: decodeLossy (d :: rest₄)
                else assemble (a.toNat % 8) [b, c, d] :: decodeLossy rest₄

/-- The text whose UTF-8 form is `bytes`, if there is one. -/
def decode? (bytes : Bytes) : Option String := String.fromUTF8? (ByteArray.mk bytes.toArray)

/-- The text of `bytes`, with replacements for what is not UTF-8. -/
def decodeText (bytes : Bytes) : String := String.ofList (decodeLossy bytes)

end ProtoTree.Text
