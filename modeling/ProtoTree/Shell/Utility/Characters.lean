import ProtoTree.Shell.Pattern
import ProtoTree.Shell.Print
import ProtoTree.Shell.Utility.Reading

/-! # Characters and columns

Utilities that replace characters one by one, or print parts of lines.
-/

namespace ProtoTree.Shell.Utility

open Text (Bytes Octets)

/-! ## Sets of characters -/

/-- A part of a set of characters. -/
inductive SetPart where
  | one (c : Char)
  | range (first last : Char)
  | named (name : String)
  /-- A character as often as is said, or as is needed. -/
  | times (c : Char) (count : Option Nat)
  deriving DecidableEq, Repr, Inhabited

namespace SetPart

/-- The characters of a text with escapes, and whether each was escaped. -/
def unescaped (fuel : Nat) (cs : Octets) : List (Char × Bool) :=
  match fuel, cs with
  | 0, _ | _, [] => []
  | fuel + 1, '\\' :: e :: rest =>
    if Digits.isOctal e then
      let digits := ((e :: rest).take 3).takeWhile Digits.isOctal
      let digits := if 255 < Digits.valueIn 8 digits then digits.take 2 else digits
      (Print.byte (Digits.valueIn 8 digits), true) :: unescaped fuel ((e :: rest).drop digits.length)
    else
      let c := if e == 'e' then e else (Print.controlEscapes.lookup e).getD e
      (c, true) :: unescaped fuel rest
  | fuel + 1, c :: rest => (c, false) :: unescaped fuel rest

/-- The place of two characters that close what a bracket opens, if they are there. -/
def closedAt? (mark : Char) : List (Char × Bool) → Option Nat
  | (a, false) :: (b, eb) :: rest =>
    if a == mark && b == ']' && !eb then some 0 else (closedAt? mark ((b, eb) :: rest)).map (· + 1)
  | _ :: rest => (closedAt? mark rest).map (· + 1)
  | [] => none

/-- How often a character is to be repeated, written in front of a closing bracket; the rest behind it. -/
def repeatCount? (cs : List (Char × Bool)) : Option (Except String (Option Nat) × List (Char × Bool)) :=
  let text := cs.takeWhile fun c => !(c.1 == ']' && !c.2)
  match cs.drop text.length with
  | [] => none
  | _ :: rest =>
    let digits := text.map (·.1)
    if digits.isEmpty then some (.ok none, rest)
    else if !digits.all Char.isDigit then
      some (.error s!"invalid repeat count {cited digits} in [c*n] construct", rest)
    else
      let n := if digits.head? = some '0' then Digits.valueIn 8 digits else Digits.value digits
      some (.ok (if n = 0 then none else some n), rest)

/-- The parts that a set is written with. -/
def parse (fuel : Nat) (cs : List (Char × Bool)) : Except String (List SetPart) :=
  match fuel, cs with
  | 0, _ | _, [] => .ok []
  | fuel + 1, (c, escaped) :: rest =>
    let plain : Except String (List SetPart) :=
      match rest with
      | ('-', false) :: (last, _) :: after =>
        if last < c then
          let shown (c : Char) : Octets := if isVisible c then [c] else Utility.escaped c
          .error s!"range-endpoints of '{String.ofList (shown c)}-{String.ofList (shown last)}' are in reverse collating sequence order"
        else (parse fuel after).map (.range c last :: ·)
      | rest => (parse fuel rest).map (.one c :: ·)
    if c ≠ '[' || escaped then plain
    else
      match rest with
      | (':', false) :: inside =>
        match closedAt? ':' inside with
        | some n =>
          let name := String.ofList ((inside.take n).map (·.1))
          if CharSet.names.contains name then (parse fuel (inside.drop (n + 2))).map (.named name :: ·)
          else .error s!"invalid character class {cited name.toList}"
        | none => plain
      | ('=', false) :: inside =>
        match closedAt? '=' inside with
        | some 1 => (parse fuel (inside.drop 3)).map (.one ((inside.head?.map (·.1)).getD ' ') :: ·)
        | some n =>
          .error s!"{String.ofList ((inside.take n).map (·.1))}: equivalence class operand must be a single character"
        | none => plain
      | (r, _) :: ('*', false) :: inside =>
        match repeatCount? inside with
        | some (.ok count, after) => (parse fuel after).map (.times r count :: ·)
        | some (.error reason, _) => .error reason
        | none => plain
      | _ => plain

/-- The parts that a text is. -/
def ofText (text : Octets) : Except String (List SetPart) :=
  let cs := unescaped text.length.succ text
  parse cs.length.succ cs

/-- All bytes. -/
def allBytes : List Char := (List.range 256).map Char.ofNat

/-- The characters of a part; `missing` is how many are needed where that is not said. -/
def chars (missing : Nat) : SetPart → List Char
  | one c => [c]
  | range first last => (List.range (last.toNat + 1 - first.toNat)).map fun i => Char.ofNat (first.toNat + i)
  | named name => allBytes.filter ((CharSet.named name).contains ·)
  | times c count => List.replicate (count.getD missing) c

/-- The characters of a set, which has to have so many. -/
def expand (needed : Nat) (parts : List SetPart) : List Char :=
  let known := (parts.flatMap (chars 0)).length
  parts.flatMap (chars (needed - known))

/-- Whether a part stands for letters of one case. -/
def isCase : SetPart → Bool
  | named name => name = "upper" || name = "lower"
  | _ => false

end SetPart

/-- One character for each run of the same one that is in a set. -/
def squeeze (set : Char → Bool) : Octets → Octets
  | a :: b :: rest => if a == b && set a then squeeze set (b :: rest) else a :: squeeze set (b :: rest)
  | cs => cs

/-- What is wrong with the sets of a translation. -/
def translationFault? (truncates negated : Bool) (set1 set2 : List SetPart) : Option String :=
  let hasFilling := set2.filter fun
    | .times _ none => true
    | _ => false
  let isOtherClass : SetPart → Bool
    | .named name => name ≠ "upper" && name ≠ "lower"
    | _ => false
  if 1 < hasFilling.length then some "only one [c*] repeat construct may appear in string2"
  else if set2.any isOtherClass then
    some "when translating, the only character classes that may appear in\nstring2 are 'upper' and 'lower'"
  else if set2.any SetPart.isCase && negated then
    some "when translating with complemented character classes,\nstring2 must map all characters in the domain to one"
  else
    let places (parts : List SetPart) : List Nat :=
      (parts.foldl (fun ((found : List Nat), (n : Nat)) part =>
        (if part.isCase then n :: found else found, n + (part.chars 1).length)) ([], 0)).1
    let misaligned := (places set2).any fun n => !(places set1).contains n
    if misaligned then some "misaligned [:upper:] and/or [:lower:] construct"
    else if set2.isEmpty && !truncates then some "when not truncating set1, string2 must be non-empty"
    else none

/-- Replaces characters, drops them, or leaves one of each run. -/
def tr (s : State) (args : List Octets) : State :=
  let forms : List OptionForm :=
    [⟨['c', 'C'], ["complement"], .without⟩, .plain 'd' "delete", .plain 's' "squeeze-repeats",
      .plain 't' "truncate-set1"]
  withLeadingArgs s 1 forms args fun a =>
    let deletes := a.has "d"
    let squeezes := a.has "s"
    let negated := a.has "c"
    let wanted := if deletes == squeezes then 2 else 1
    let mostly := if deletes && !squeezes then 1 else 2
    match a.operands with
    | [] => misused s "missing operand"
    | first :: more =>
      if more.length + 1 < wanted then
        misused s <| s!"missing operand after {cited first}\n" ++
          (if squeezes then "Two strings must be given when both deleting and squeezing repeats."
            else "Two strings must be given when translating.")
      else if mostly ≤ more.length then
        let extra := (more[mostly - 1]?).getD []
        misused s <| s!"extra operand {cited extra}" ++
          (if mostly = 1 && more.length = 1 then
            "\nOnly one string may be given when deleting without squeezing repeats." else "")
      else
        match SetPart.ofText first, SetPart.ofText (more.headD []) with
        | .error reason, _ | _, .error reason => failed s 1 reason
        | .ok parts1, .ok parts2 =>
          let translates := !deletes && !more.isEmpty
          let fills := parts1.any fun
            | .times _ none => true
            | _ => false
          let fault := if fills then some "the [c*] repeat construct may not appear in string1"
            else if translates then translationFault? (a.has "t") negated parts1 parts2
            else none
          match fault with
          | some reason => failed s 1 reason
          | none =>
            let set1 := SetPart.expand 0 parts1
            let set1 := if negated then SetPart.allBytes.filter (!set1.contains ·) else set1
            let set2 := SetPart.expand set1.length parts2
            let set1 := if a.has "t" && translates then set1.take set2.length else set1
            let last := (set2.getLast?).getD ' '
            let target := set2 ++ List.replicate (set1.length - set2.length) last
            let table := (set1.zip target).reverse
            let change : Array Char := (SetPart.allBytes.map fun c => (table.lookup c).getD c).toArray
            let (bytes, s) := s.takeInput
            let text := Octets.ofBytes bytes
            let text := if deletes then text.filter (!set1.contains ·)
              else if translates then text.map fun c => change.getD c.toNat c
              else text
            let squeezed := if more.isEmpty then set1 else set2
            (put s (if squeezes then squeeze squeezed.contains text else text)).withStatus 0

/-! ## Parts of lines -/

/-- Ranges of places, from 1 on; one may have no end. -/
abbrev Places := List (Nat × Option Nat)

namespace Places

/-- Whether a place is in some range. -/
def has (places : Places) (n : Nat) : Bool := places.any fun (first, last) => first ≤ n && last.all (n ≤ ·)

/-- Whether a range starts at a place that goes on after another. -/
def starts (places : Places) (n : Nat) : Bool := has places n && !has places (n - 1)

/-- The ranges of a list, or what is wrong with it. -/
def ofText (ofFields : Bool) (text : Octets) : Except String Places :=
  let zero := if ofFields then "fields are numbered from 1" else "byte/character positions are numbered from 1"
  let invalid (text : Octets) : String :=
    if ofFields then s!"invalid field value {cited text}" else s!"invalid byte/character position {cited text}"
  let tooLarge (text : Octets) : String :=
    if ofFields then s!"field number {cited text} is too large" else s!"byte/character offset {cited text} is too large"
  let pieces := text.foldr (fun c pieces =>
    if c == ',' || c == ' ' || c == '\t' then [] :: pieces
    else match pieces with
      | piece :: rest => (c :: piece) :: rest
      | [] => [[c]]) [[]]
  let number (digits : Octets) : Except String Nat :=
    if !digits.all Char.isDigit then .error (invalid (digits.dropWhile Char.isDigit))
    else if 18446744073709551615 ≤ Digits.value digits then .error (tooLarge digits)
    else .ok (Digits.value digits)
  pieces.mapM fun piece => do
    let first := piece.takeWhile (· != '-')
    let isRange := first.length < piece.length
    let last := piece.drop (first.length + 1)
    let m ← if first.isEmpty then (if isRange then pure 1 else throw zero) else number first
    if m = 0 then throw zero
    if !isRange then return (m, some m)
    if last.isEmpty then
      if first.isEmpty then throw "invalid range with no endpoint: -" else return (m, none)
    let n ← number last
    if n < m then throw "invalid decreasing range"
    return (m, some n)

end Places

/-- Prints parts of lines. -/
def cut (s : State) (args : List Octets) : State :=
  let forms : List OptionForm :=
    [.valued 'b' "bytes", .valued 'c' "characters", .valued 'f' "fields", .valued 'd' "delimiter", .plain 'n' "",
      .plain 's' "only-delimited", .long "output-delimiter" .withValue, .long "complement" .without,
      .plain 'z' "zero-terminated"]
  withArgs s 1 forms args fun a =>
    let lists := a.flags.filter fun f => ["b", "c", "f"].contains f.1
    let badDelimiter := (a.flags.filter (·.1 = "d")).any fun f => 1 < f.2.length
    match lists with
    | _ :: _ :: _ => misused s "only one list may be specified"
    | other =>
      if badDelimiter then misused s "the delimiter must be a single character"
      else
        match other with
        | [] | _ :: _ :: _ => misused s "you must specify a list of bytes, characters, or fields"
        | [(kind, list)] =>
          let byFields := kind = "f"
          if !byFields && (a.value? "d").isSome then
            misused s "an input delimiter may be specified only when operating on fields"
          else if !byFields && a.has "s" then
            misused s "suppressing non-delimited lines makes sense\n\tonly when operating on fields"
          else
            match Places.ofText byFields list with
            | .error reason => misused s reason
            | .ok places =>
              let between := (((a.value? "d").getD ['\t']).head?).getD '\x00'
              let chosen (n : Nat) : Bool := Places.has places n != a.has "complement"
              let joint := (a.value? "output-delimiter").getD [between]
              let ending := if a.has "z" then '\x00' else '\n'
              let line (cs : Octets) : Option Octets :=
                if byFields then
                  if cs.contains between then
                    let fields := ((cs.splitOn between).zipIdx.filter fun (_, i) => chosen (i + 1)).map (·.1)
                    some (joint.intercalate fields)
                  else if a.has "s" then none
                  else some cs
                else
                  let pieces := cs.zipIdx.filterMap fun (c, i) =>
                    if !chosen (i + 1) then none
                    else
                      let begins := if a.has "complement" then !chosen i else
                        places.any fun p => p.1 = i + 1 && !(places.any fun q => q.1 < p.1 && q.2.all (i + 1 ≤ ·))
                      let joint := if (a.value? "output-delimiter").isSome && begins then joint else []
                      some (joint, c)
                  some <| match pieces with
                    | (_, c) :: rest => c :: rest.flatMap fun (joint, c) => joint ++ [c]
                    | [] => []
              overFiles s a.files plainRefusal fun s _ bytes =>
                put s ((linesEnded ending (Octets.ofBytes bytes)).flatMap fun l =>
                  let own := if l.getLast? = some ending then l.dropLast else l
                  (line own).elim [] (· ++ [ending]))

/-- Lines of several files side by side, given what stands between them; ends when all files have ended. -/
def sideBySide (fuel : Nat) (between : List Char) (files : List (List Octets)) : Octets :=
  match fuel with
  | 0 => []
  | fuel + 1 =>
    if files.all List.isEmpty then []
    else
      let parts := files.map fun lines => bare (lines.headD [])
      let row := (parts.zipIdx.map fun (part, i) =>
        if i = 0 then part
        else match (between[(i - 1) % between.length]?).getD '\t' with
          | '\x00' => part
          | c => c :: part).flatten
      row ++ '\n' :: sideBySide fuel between (files.map List.tail)

/-- The characters of a list of delimiters with escapes; one that stands for none is a zero. -/
def delimiters : Octets → List Char
  | '\\' :: '0' :: rest => '\x00' :: delimiters rest
  | '\\' :: c :: rest => ((Print.controlEscapes.lookup c).getD c) :: delimiters rest
  | c :: rest => c :: delimiters rest
  | [] => []

/-- Prints lines of files side by side, or the lines of each file in one. -/
def paste (s : State) (args : List Octets) : State :=
  let forms : List OptionForm :=
    [.valued 'd' "delimiters", .plain 's' "serial", .plain 'z' "zero-terminated"]
  withArgs s 1 forms args fun a =>
    let between := delimiters ((a.value? "d").getD ['\t'])
    let between := if between.isEmpty then ['\x00'] else between
    let inputs := a.files.count ['-']
    let (s, files) := a.files.foldl (fun ((s : State), (files : List (List Octets))) file =>
      match contentOf s 0 file with
      | .ok (bytes, s) => (s, files ++ [linesOf (Octets.ofBytes bytes)])
      | .error e => (failed s 1 (plainRefusal file e), files)) (s.withStatus 0, [])
    let shared := if inputs ≤ 1 then files
      else
        let lines := (files[(a.files.idxOf? ['-']).getD 0]?).getD []
        (a.files.zip files).foldl (fun ((done : List (List Octets)), (k : Nat)) (file, own) =>
          if file = ['-'] then
            (done ++ [(lines.zipIdx.filter fun (_, i) => i % inputs = k).map (·.1)], k + 1)
          else (done ++ [own], k)) ([], 0) |>.1
    if a.has "s" then
      put s <| files.flatMap fun lines =>
        ((lines.map bare).zipIdx.map fun (line, i) =>
          if i = 0 then line
          else match (between[(i - 1) % between.length]?).getD '\t' with
            | '\x00' => line
            | c => c :: line).flatten ++ ['\n']
    else if files.length < a.files.length then s
    else put s (sideBySide ((files.map List.length).foldl max 0).succ between shared)

end ProtoTree.Shell.Utility
