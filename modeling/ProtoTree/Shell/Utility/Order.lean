import ProtoTree.Shell.Floating
import ProtoTree.Shell.Utility.Reading

/-! # Order of lines

Utilities that put lines in order, or look at lines that are the same. Lines
are compared byte by byte unless something else is asked for.
-/

namespace ProtoTree.Shell.Utility

open Text (Bytes Octets)

/-- An order of three ways, the other way round if that is asked for. -/
def turned (reverse : Bool) (o : Ordering) : Ordering := if reverse then o.swap else o

/-- The order of two texts by their bytes. -/
def byteOrder (a b : Octets) : Ordering :=
  if a = b then .eq else if decide (a < b) then .lt else .gt

/-! ## Keys -/

/-- A place in a line: a field and a character in it, both from 1 on; character 0 is the end of the field. -/
structure KeyPlace where
  field : Nat
  char : Nat
  skipsBlanks : Bool := false
  deriving DecidableEq, Repr, Inhabited

/-- A part of lines and how it is compared. -/
structure SortKey where
  first : KeyPlace := ⟨1, 1, false⟩
  last : Option KeyPlace := none
  letters : Octets := []
  deriving Repr, Inhabited

namespace SortKey

/-- The text without its first field, whose blanks stand in front of it. -/
def dropField (tab : Option Char) (cs : Octets) : Octets :=
  match tab with
  | some tab => (cs.dropWhile (· != tab)).drop 1
  | none => (cs.dropWhile isBlank).dropWhile (!isBlank ·)

/-- The text without some fields. -/
def dropFields (tab : Option Char) : Nat → Octets → Octets
  | 0, cs => cs
  | n + 1, cs => dropFields tab n (dropField tab cs)

/-- Where a key starts in a line. -/
def startIn (tab : Option Char) (p : KeyPlace) (line : Octets) : Nat :=
  let rest := dropFields tab (p.field - 1) line
  let rest := if p.skipsBlanks then rest.dropWhile isBlank else rest
  line.length - (rest.drop (p.char - 1)).length

/-- Where a key ends in a line. -/
def endIn (tab : Option Char) (p : KeyPlace) (line : Octets) : Nat :=
  if p.char = 0 then
    match tab with
    | some tab =>
      let rest := dropFields (some tab) (p.field - 1) line
      line.length - (rest.dropWhile (· != tab)).length
    | none => line.length - (dropFields none p.field line).length
  else
    let rest := dropFields tab (p.field - 1) line
    let rest := if p.skipsBlanks then rest.dropWhile isBlank else rest
    line.length - (rest.drop p.char).length

/-- The part of a line that a key is. -/
def textIn (tab : Option Char) (k : SortKey) (line : Octets) : Octets :=
  let start := startIn tab k.first line
  let finish := match k.last with
    | some p => endIn tab p line
    | none => line.length
  (line.take (max start finish)).drop start

/-- A number at the start of a text as whole digits and decimals, and whether it is negative. -/
def numberIn (cs : Octets) : Bool × Octets × Octets :=
  let cs := cs.dropWhile isBlank
  let (negative, digits) := match cs with
    | '-' :: rest => (true, rest)
    | cs => (false, cs)
  let whole := digits.takeWhile Char.isDigit
  let decimals := match digits.drop whole.length with
    | '.' :: rest => rest.takeWhile Char.isDigit
    | _ => []
  (negative, whole.dropWhile (· == '0'), dropEnd (· == '0') decimals)

/-- The order of two numbers at the start of texts. -/
def numberOrder (a b : Octets) : Ordering :=
  let (negative, whole, decimals) := numberIn a
  let (negative', whole', decimals') := numberIn b
  let isZero (w d : Octets) : Bool := w.isEmpty && d.isEmpty
  let size : Ordering :=
    (compare whole.length whole'.length).then ((byteOrder whole whole').then (byteOrder decimals decimals'))
  let negative := negative && !isZero whole decimals
  let negative' := negative' && !isZero whole' decimals'
  match negative, negative' with
  | true, true => size.swap
  | true, false => .lt
  | false, true => .gt
  | false, false => size

/-- How large the unit behind a number is. -/
def unitIn (cs : Octets) : Nat :=
  let cs := cs.dropWhile isBlank
  let cs := if cs.head? = some '-' then cs.tail else cs
  let rest := cs.dropWhile fun c => c.isDigit || c == '.'
  match rest.head? with
  | some c => (("KMGTPEZYRQ".toList.idxOf? c).map (· + 1)).getD (if c == 'k' then 1 else 0)
  | none => 0

/-- The order of two numbers with units behind them. -/
def sizeOrder (a b : Octets) : Ordering :=
  let signed (cs : Octets) : Int :=
    let (negative, whole, decimals) := numberIn cs
    if whole.isEmpty && decimals.isEmpty then 0
    else if negative then -(unitIn cs + 1 : Int) else (unitIn cs + 1 : Int)
  (compare (signed a) (signed b)).then (numberOrder a b)

/-- The month that a text starts with, or 0. -/
def monthIn (cs : Octets) : Nat :=
  let text := String.ofList ((((cs.dropWhile isBlank).take 3)).map Char.toUpper)
  let months := ["JAN", "FEB", "MAR", "APR", "MAY", "JUN", "JUL", "AUG", "SEP", "OCT", "NOV", "DEC"]
  ((months.idxOf? text).map (· + 1)).getD 0

/-- Where a floating number stands among others: what is none comes first, then what is undefined. -/
def generalOrder (a b : Octets) : Ordering :=
  let read (cs : Octets) : Nat × Int × Nat :=
    match Floating.read? .double cs with
    | none => (0, 0, 0)
    | some r =>
      match r.number with
      | .undefined _ => (1, 0, 0)
      | .infinite true => (2, 0, 0)
      | .infinite false => (4, 0, 0)
      | .finite negative m e =>
        let size : Int := m * Nat.pow 2 (e + 1100).toNat
        (3, if negative then -size else size, 0)
  let (ka, va, _) := read a
  let (kb, vb, _) := read b
  (compare ka kb).then (compare va vb)

/-- The place of a character among others in names of versions. -/
def versionRank (c : Char) : Int :=
  if c.isDigit then 0 else if c.isAlpha then c.toNat else if c == '~' then -1 else c.toNat + 256

/-- The order of two names of versions: digits count as numbers. -/
def versionOrder (fuel : Nat) (a b : Octets) : Ordering :=
  match fuel with
  | 0 => .eq
  | fuel + 1 =>
    let letters (cs : Octets) : Octets := cs.takeWhile (!Char.isDigit ·)
    let la := letters a
    let lb := letters b
    let rank (cs : Octets) (i : Nat) : Int := (cs[i]?.map versionRank).getD 0
    let first := ((List.range (max la.length lb.length)).map fun i => compare (rank la i) (rank lb i)).find?
      (· != .eq)
    match first with
    | some o => o
    | none =>
      let restA := a.drop la.length
      let restB := b.drop lb.length
      if restA.isEmpty && restB.isEmpty then .eq
      else
        let digits (cs : Octets) : Octets := (cs.takeWhile Char.isDigit)
        let value (cs : Octets) : Nat := Digits.value (digits cs)
        (compare (value restA) (value restB)).then
          (versionOrder fuel (restA.drop (digits restA).length) (restB.drop (digits restB).length))

/-- The order of two keys. -/
def order (k : SortKey) (a b : Octets) : Ordering :=
  let has (letter : Char) : Bool := k.letters.contains letter
  let kept (c : Char) : Bool :=
    if has 'd' then isBlank c || c.isAlphanum else if has 'i' then isVisible c else true
  let seen (cs : Octets) : Octets :=
    let cs := if has 'd' || has 'i' then cs.filter kept else cs
    if has 'f' then cs.map Char.toUpper else cs
  if has 'n' then numberOrder a b
  else if has 'g' then generalOrder a b
  else if has 'h' then sizeOrder a b
  else if has 'M' then compare (monthIn a) (monthIn b)
  else if has 'V' then
    if a = b then .eq else versionOrder (a.length + b.length + 2) (seen a) (seen b)
  else byteOrder (seen a) (seen b)

/-- A place of a key and the letters behind it, or what is wrong with it. -/
def place? (spec cs : Octets) (isEnd : Bool) : Except String (KeyPlace × Octets) :=
  let invalid (reason : String) : String := s!"{reason}: invalid field specification {cited spec}"
  let digits := cs.takeWhile Char.isDigit
  let whence := if isEnd then "invalid number after ','" else "invalid number at field start"
  if digits.isEmpty then .error s!"{whence}: invalid count at start of {cited cs}"
  else if Digits.value digits = 0 then .error (invalid "field number is zero")
  else
    match cs.drop digits.length with
    | '.' :: rest =>
      let own := rest.takeWhile Char.isDigit
      if own.isEmpty then .error s!"invalid number after '.': invalid count at start of {cited rest}"
      else if Digits.value own = 0 && !isEnd then .error (invalid "character offset is zero")
      else .ok (⟨Digits.value digits, Digits.value own, false⟩, rest.drop own.length)
    | rest => .ok (⟨Digits.value digits, if isEnd then 0 else 1, false⟩, rest)

/-- The letters that tell how keys are compared. -/
def knownLetters : Octets := "bdfghiMnRrV".toList

/-- The key that a text describes, or what is wrong with it. -/
def ofText (spec : Octets) : Except String SortKey := do
  let (first, rest) ← place? spec spec false
  let letters := rest.takeWhile knownLetters.contains
  let first := { first with skipsBlanks := letters.contains 'b' }
  match rest.drop letters.length with
  | [] => return { first, letters }
  | ',' :: rest =>
    let (last, rest) ← place? spec rest true
    let more := rest.takeWhile knownLetters.contains
    if more.length < rest.length then
      throw s!"stray character in field spec: invalid field specification {cited spec}"
    return { first, last := some { last with skipsBlanks := more.contains 'b' }, letters := letters ++ more }
  | _ => throw s!"stray character in field spec: invalid field specification {cited spec}"

/-- The letters of a key that cannot stand together. -/
def clash? (letters : Octets) : Option Octets :=
  let kinds := "ghMn".toList.filter letters.contains
  let rest := "RV".toList.filter letters.contains
  let texts := "di".toList.filter letters.contains
  if 1 < kinds.length + rest.length || (!kinds.isEmpty && !texts.isEmpty) then
    some ("dfghiMnRV".toList.filter fun c => c ≠ 'f' && letters.contains c)
  else none

end SortKey

/-- Lines of files put together, those of the first one before others that are the same. -/
def merged (le : Octets → Octets → Bool) (files : List (List Octets)) : List Octets :=
  files.foldl (fun done lines => done.merge lines le) []

/-- Prints lines in order. -/
def sort (s : State) (args : List Octets) : State :=
  let forms : List OptionForm :=
    [.plain 'b' "ignore-leading-blanks", .plain 'd' "dictionary-order", .plain 'f' "ignore-case",
      .plain 'g' "general-numeric-sort", .plain 'h' "human-numeric-sort", .plain 'i' "ignore-nonprinting",
      .plain 'M' "month-sort", .plain 'n' "numeric-sort", .plain 'R' "random-sort", .plain 'r' "reverse",
      .plain 'V' "version-sort", .valued 'k' "key", .valued 't' "field-separator", .plain 'c' "check",
      .plain 'C' "", .plain 'm' "merge", .valued 'o' "output", .plain 's' "stable", .plain 'u' "unique",
      .plain 'z' "zero-terminated", .valued 'S' "buffer-size", .valued 'T' "temporary-directory",
      .long "parallel" .withValue]
  withArgs s 2 forms args fun a =>
    let fail (reason : String) : State := failed s 2 reason
    let specs := (a.flags.filter (·.1 = "k")).map (·.2)
    let common := SortKey.knownLetters.filter fun c => a.has (String.ofList [c])
    match specs.mapM SortKey.ofText with
    | .error reason => fail reason
    | .ok keys =>
      match a.value? "t" with
      | some [] => fail "empty tab"
      | tab =>
        if tab.any fun t => 1 < t.length && t ≠ ['\\', '0'] then
          fail s!"multi-character tab {cited (tab.getD [])}"
        else
          let tab := tab.map fun t => if t = ['\\', '0'] then '\x00' else t.headD '\t'
          let inherit (k : SortKey) : SortKey :=
            if k.letters.isEmpty then
              { k with
                letters := common
                first := { k.first with skipsBlanks := common.contains 'b' }
                last := k.last.map fun p => { p with skipsBlanks := common.contains 'b' } }
            else k
          let whole : SortKey := { first := ⟨1, 1, common.contains 'b'⟩, letters := common }
          let keys := if keys.isEmpty then (if common.any (· != 'r') then [whole] else []) else keys.map inherit
          match (keys.map (·.letters) ++ [common]).findSome? SortKey.clash? with
          | some letters => fail s!"options '-{String.ofList letters}' are incompatible"
          | none =>
            let reversed := common.contains 'r'
            let byKeys (x y : Octets) : Ordering :=
              keys.foldl (fun o k =>
                o.then (turned (k.letters.contains 'r') (k.order (k.textIn tab x) (k.textIn tab y)))) .eq
            let compared (x y : Octets) : Ordering :=
              let o := byKeys x y
              if o != .eq || (!keys.isEmpty && (a.has "s" || a.has "u")) then o
              else turned reversed (byteOrder x y)
            let le (x y : Octets) : Bool := compared x y != .gt
            let ending := if a.has "z" then '\x00' else '\n'
            let own (l : Octets) : Octets := if l.getLast? = some ending then l.dropLast else l
            let missing := a.files.find? fun file => match contentOf s 0 file with
              | .error _ => true
              | .ok _ => false
            let refusal (file : Octets) : String := match contentOf s 0 file with
              | .error .isDirectory => s!"read failed: {shownName file}: Is a directory"
              | .error e => s!"cannot read: {shownName file}: {e.wording}"
              | .ok _ => ""
            match missing with
            | some file => fail (refusal file)
            | none =>
              let (s, files) := a.files.foldl (fun ((s : State), (files : List (List Octets))) file =>
                match contentOf s 0 file with
                | .ok (bytes, s) => (s, files ++ [(linesEnded ending (Octets.ofBytes bytes)).map own])
                | .error _ => (s, files)) (s.withStatus 0, [])
              if a.has "c" || a.has "C" then
                match a.operands with
                | _ :: extra :: _ => failed s 2 (s!"extra operand {cited extra} not allowed with -" ++ if a.has "C" then "C" else "c")
                | _ =>
                  let lines := files.flatten
                  let bad := (lines.zip lines.tail).zipIdx.find? fun ((x, y), _) =>
                    let o := compared x y
                    if a.has "u" then o != .lt else o == .gt
                  match bad with
                  | some ((_, y), i) =>
                    if a.has "C" then s.withStatus 1
                    else
                      let title := shownName (a.files.headD ['-'])
                      (s.mention (s.name ++ s!": {title}:{i + 2}: disorder: {String.ofList y}\n".toList)).withStatus 1
                  | none => s
              else
                let sorted := if a.has "m" then merged le files else files.flatten.mergeSort le
                let same (x y : Octets) : Bool := (if keys.isEmpty then byteOrder x y else byKeys x y) == .eq
                let distinct := (sorted.foldl (fun (kept : List Octets) line =>
                  match kept with
                  | last :: _ => if same last line then kept else line :: kept
                  | [] => [line]) []).reverse
                let shown := (if a.has "u" then distinct else sorted).flatMap (· ++ [ending])
                match a.value? "o" with
                | none => put s shown
                | some file =>
                  match s.writeFile file (Octets.toBytes shown) with
                  | .ok s => s
                  | .error e => failed s 2 s!"open failed: {shownName file}: {e.wording}"

/-! ## Lines that are the same -/

/-- Runs of lines that are the same in what counts. -/
def runsBy (key : Octets → Octets) (lines : List Octets) : List (List Octets) :=
  lines.foldr (fun line runs =>
    match runs with
    | (next :: same) :: more => if key next = key line then (line :: next :: same) :: more else [line] :: runs
    | runs => [line] :: runs) []

/-- Prints one of each run of lines that are the same. -/
def uniq (s : State) (args : List Octets) : State :=
  let forms : List OptionForm :=
    [.plain 'c' "count", .plain 'd' "repeated", ⟨['D'], [], .without⟩, .long "all-repeated" .maybe,
      .valued 'f' "skip-fields", .long "group" .maybe, .plain 'i' "ignore-case", .valued 's' "skip-chars",
      .plain 'u' "unique", .valued 'w' "check-chars", .plain 'z' "zero-terminated"]
  withArgs s 1 forms args fun a =>
    let all := a.has "D" || a.has "all-repeated"
    let bad := [("f", "fields to skip"), ("s", "bytes to skip"), ("w", "bytes to compare")].find? fun (key, _) =>
      (a.value? key).any fun text => (amount? text).isNone
    match bad, a.operands with
    | some (key, what), _ =>
      failed s 1 s!"{String.ofList ((a.value? key).getD [])}: invalid number of {what}"
    | none, _ :: _ :: extra :: _ => misused s s!"extra operand {cited extra}"
    | none, operands =>
      if a.has "group" && (a.has "c" || a.has "d" || all || a.has "u") then
        misused s "--group is mutually exclusive with -c/-d/-D/-u"
      else if all && a.has "c" then
        misused s "printing all duplicated lines and repeat counts is meaningless"
      else
        let ending := if a.has "z" then '\x00' else '\n'
        let number (key : String) : Nat := (((a.value? key).bind amount?)).getD 0
        let key (line : Octets) : Octets :=
          let rest := (SortKey.dropFields none (number "f") line).drop (number "s")
          let rest := if (a.value? "w").isSome then rest.take (number "w") else rest
          if a.has "i" then rest.map Char.toUpper else rest
        match contentOf s 0 (operands.headD ['-']) with
        | .error e =>
          let file := operands.headD ['-']
          if e = .isDirectory then failed s 1 s!"error reading {quoted file}: {e.wording}"
          else failed s 1 (plainRefusal file e)
        | .ok (bytes, s) =>
          let lines := (linesEnded ending (Octets.ofBytes bytes)).map fun l =>
            if l.getLast? = some ending then l.dropLast else l
          let runs := runsBy key lines
          let kept := runs.filter fun run =>
            (!(a.has "d" || all) || 1 < run.length) && (!a.has "u" || run.length = 1)
          let method := String.ofList (((a.value? "all-repeated").or (a.value? "group")).getD [])
          let method := if a.has "group" && method = "" then "separate" else method
          let shown := kept.zipIdx.flatMap fun (run, i) =>
            if all || a.has "group" then
              let before := if method = "prepend" || method = "both" || (method = "separate" && 0 < i) then [ending] else []
              let after := if method = "append" || (method = "both" && i + 1 = kept.length) then [ending] else []
              before ++ run.flatMap (· ++ [ending]) ++ after
            else
              (if a.has "c" then rightAligned 7 (Digits.ofNat run.length) ++ [' '] else [])
                ++ run.headD [] ++ [ending]
          match operands with
          | _ :: file :: _ =>
            match (s.withStatus 0).writeFile file (Octets.toBytes shown) with
            | .ok s => s
            | .error e => failed s 1 (plainRefusal file e)
          | _ => put (s.withStatus 0) shown

/-- Prints which lines two sorted files have for themselves and in common. -/
def comm (s : State) (args : List Octets) : State :=
  let forms : List OptionForm :=
    [.plain '1' "", .plain '2' "", .plain '3' "", .long "check-order" .without, .long "nocheck-order" .without,
      .long "output-delimiter" .withValue, .long "total" .without, .plain 'z' "zero-terminated"]
  withArgs s 1 forms args fun a =>
    match a.operands with
    | [] => misused s "missing operand"
    | [file] => misused s s!"missing operand after {cited file}"
    | _ :: _ :: extra :: _ => misused s s!"extra operand {cited extra}"
    | [first, second] =>
      match contentOf s 0 first with
      | .error e => failed s 1 (plainRefusal first e)
      | .ok (bytes1, s) =>
        match contentOf s 0 second with
        | .error e => failed s 1 (plainRefusal second e)
        | .ok (bytes2, s) =>
          let lines (bytes : Bytes) : List Octets := (linesOf (Octets.ofBytes bytes)).map bare
          let between := (a.value? "output-delimiter").getD ['\t']
          let shown (column : Nat) (line : Octets) : Octets :=
            if a.has (toString column) then []
            else
              let before := (List.range (column - 1)).filter fun i => !a.has (toString (i + 1))
              (before.flatMap fun _ => between) ++ line ++ ['\n']
          put (s.withStatus 0) (pairs ((lines bytes1).length + (lines bytes2).length).succ shown
            (lines bytes1) (lines bytes2))
where
  /-- Goes along two sorted lists of lines. -/
  pairs (fuel : Nat) (shown : Nat → Octets → Octets) : List Octets → List Octets → Octets
    | [], [] => []
    | x :: xs, [] => shown 1 x ++ xs.flatMap (shown 1)
    | [], y :: ys => shown 2 y ++ ys.flatMap (shown 2)
    | x :: xs, y :: ys =>
      match fuel with
      | 0 => []
      | fuel + 1 =>
        match byteOrder x y with
        | .eq => shown 3 x ++ pairs fuel shown xs ys
        | .lt => shown 1 x ++ pairs fuel shown xs (y :: ys)
        | .gt => shown 2 y ++ pairs fuel shown (x :: xs) ys

end ProtoTree.Shell.Utility
