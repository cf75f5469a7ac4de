import ProtoTree.Shell.Condition
import ProtoTree.Shell.Regex
import ProtoTree.Shell.Utility.Basic

/-! # Expressions and conditions

Utilities that work out what their arguments come to: a value that is printed,
or a truth that only the status tells.
-/

namespace ProtoTree.Shell.Utility

open Text (Octets)

/-! ## Values -/

/-- Working out an expression: the arguments that are left, and the one before them. -/
structure ExpressionArgs where
  left : List Octets
  latest : Octets := []

abbrev Evaluating := StateT ExpressionArgs (Except String)

namespace Evaluating

/-- Takes the next argument if it is one of some words. -/
def takeOneOf (words : List String) : Evaluating (Option String) := fun e =>
  match e.left with
  | arg :: rest =>
    if words.contains (String.ofList arg) then .ok (some (String.ofList arg), ⟨rest, arg⟩) else .ok (none, e)
  | [] => .ok (none, e)

/-- Takes the next argument, which has to be there. -/
def takeArg : Evaluating Octets := fun e =>
  match e.left with
  | arg :: rest => .ok (arg, ⟨rest, arg⟩)
  | [] => .error s!"syntax error: missing argument after {cited e.latest}"

end Evaluating

/-- The whole number that a value is. -/
def wholeNumber? (value : Octets) : Option Int :=
  match value with
  | '-' :: digits => if Digits.isNumber digits then some (-(Digits.value digits : Int)) else none
  | digits => if Digits.isNumber digits then some (Digits.value digits : Int) else none

/-- Whether a value counts as nothing. -/
def isNull (value : Octets) : Bool := value.isEmpty || wholeNumber? value = some 0

/-- What of a text an expression stands for: its first group, or how much it is. -/
def matchedPart (text pattern : Octets) : Except String Octets :=
  match Regex.ofText false pattern with
  | .error fault => .error fault.message
  | .ok (r, groups) =>
    match r.matchAt? false { rest := text } with
    | some found =>
      .ok (if groups = 0 then Digits.ofNat found.length else (found.groups.lookup 1).getD [])
    | none => .ok (if groups = 0 then ['0'] else [])

/-- A comparison of two values, as numbers if both are. -/
def compared (operator : String) (a b : Octets) : Bool :=
  let (less, same) := match wholeNumber? a, wholeNumber? b with
    | some m, some n => (decide (m < n), m == n)
    | _, _ => (decide (a < b), a == b)
  match operator with
  | "<" => less
  | "<=" => less || same
  | "=" | "==" => same
  | "!=" => !same
  | ">=" => !less
  | _ => !less && !same

/-- Two numbers put together by an operator. -/
def calculated (operator : String) (a b : Octets) : Except String Octets :=
  match wholeNumber? a, wholeNumber? b with
  | some m, some n =>
    match operator with
    | "+" => .ok (Digits.ofInt (m + n))
    | "-" => .ok (Digits.ofInt (m - n))
    | "*" => .ok (Digits.ofInt (m * n))
    | operator =>
      if n = 0 then .error "division by zero"
      else .ok (Digits.ofInt (if operator = "/" then m.tdiv n else m.tmod n))
  | _, _ => .error "non-integer argument"

/-- The operators, those that bind least first. -/
def operatorLevels : List (List String) :=
  [["|"], ["&"], ["<", "<=", "=", "==", "!=", ">=", ">"], ["+", "-"], ["*", "/", "%"], [":"]]

/-- Two values put together by an operator; values that do not matter may be anything. -/
def combined (matters : Bool) (operator : String) (a b : Octets) : Except String Octets :=
  let truth (holds : Bool) : Octets := if holds then ['1'] else ['0']
  match operator with
  | "|" => .ok (if !isNull a then a else if isNull b then ['0'] else b)
  | "&" => .ok (if isNull a || isNull b then ['0'] else a)
  | ":" => if matters then matchedPart a b else .ok []
  | operator =>
    if ["<", "<=", "=", "==", "!=", ">=", ">"].contains operator then .ok (truth (compared operator a b))
    else if matters then calculated operator a b
    else .ok a

mutual

/-- A value whose operators bind at least as much as those of a level. -/
def evaluateLevel (fuel level : Nat) (matters : Bool) : Evaluating Octets :=
  match fuel with
  | 0 => throw "syntax error"
  | fuel + 1 => do
    match operatorLevels[level]? with
    | none => evaluateWord fuel matters
    | some operators =>
      let first ← evaluateLevel fuel (level + 1) matters
      evaluateMore fuel level operators matters first
termination_by structural fuel

/-- What operators of a level make of a first value and those behind it. -/
def evaluateMore (fuel level : Nat) (operators : List String) (matters : Bool) (first : Octets) :
    Evaluating Octets :=
  match fuel with
  | 0 => throw "syntax error"
  | fuel + 1 => do
    match ← Evaluating.takeOneOf operators with
    | none => return first
    | some operator =>
      let inner := matters && match operator with
        | "|" => isNull first
        | "&" => !isNull first
        | _ => true
      let second ← evaluateLevel fuel (level + 1) inner
      match combined matters operator first second with
      | .ok value => evaluateMore fuel level operators matters value
      | .error reason => throw reason
termination_by structural fuel

/-- A word, a value in parentheses, or what a function makes of values. -/
def evaluateWord (fuel : Nat) (matters : Bool) : Evaluating Octets :=
  match fuel with
  | 0 => throw "syntax error"
  | fuel + 1 => do
    match ← Evaluating.takeOneOf ["+", "length", "match", "index", "substr", "(", ")"] with
    | some "+" => Evaluating.takeArg
    | some "length" => return Digits.ofNat (← evaluateWord fuel matters).length
    | some "match" =>
      let text ← evaluateWord fuel matters
      let pattern ← evaluateWord fuel matters
      match if matters then matchedPart text pattern else .ok [] with
      | .ok value => return value
      | .error reason => throw reason
    | some "index" =>
      let text ← evaluateWord fuel matters
      let wanted ← evaluateWord fuel matters
      return Digits.ofNat ((text.findIdx? wanted.contains).elim 0 (· + 1))
    | some "substr" =>
      let text ← evaluateWord fuel matters
      let start ← evaluateWord fuel matters
      let count ← evaluateWord fuel matters
      match wholeNumber? start, wholeNumber? count with
      | some start, some count =>
        return if start ≤ 0 || count ≤ 0 then [] else (text.drop (start - 1).toNat).take count.toNat
      | _, _ => return []
    | some "(" =>
      let value ← evaluateLevel fuel 0 matters
      let e ← get
      match e.left with
      | [')'] :: rest =>
        set (ExpressionArgs.mk rest [')'])
        return value
      | found :: _ => throw s!"syntax error: expecting ')' instead of {cited found}"
      | [] => throw s!"syntax error: expecting ')' after {cited e.latest}"
    | some _ => throw "syntax error: unexpected ')'"
    | none => Evaluating.takeArg
termination_by structural fuel

end

/-- Prints the value of an expression. -/
def expr (s : State) (args : List Octets) : State :=
  let args := if args.head? = some ['-', '-'] then args.tail else args
  if args.isEmpty then misused s "missing operand" 2
  else
    match evaluateLevel (8 * args.length + 16) 0 true { left := args } with
    | .error reason => failed s 2 reason
    | .ok (_, ⟨extra :: _, _⟩) => failed s 2 s!"syntax error: unexpected argument {cited extra}"
    | .ok (value, _) => put (s.withStatus (if isNull value then 1 else 0)) (value ++ ['\n'])

/-! ## Conditions -/

namespace Deciding

/-- Deciding a condition takes arguments away from the front. -/
abbrev Step := StateT ExpressionArgs (Except String)

def binaries : List String :=
  ["=", "==", "!=", "-nt", "-ot", "-ef", "-eq", "-ne", "-lt", "-le", "-gt", "-ge"]

def isBinary (arg : Octets) : Bool := binaries.contains (String.ofList arg)

def unaries : List Char := "GLNOSbcdefghknprstuwxz".toList

/-- Whether an argument looks like an operator with one value. -/
def looksUnary : Octets → Bool
  | ['-', _] => true
  | _ => false

/-- The number that an argument is. -/
def number (arg : Octets) : Except String Int :=
  let body := dropEnd isBlank (arg.dropWhile isBlank)
  let digits := if body.head? = some '+' then body.tail else body
  match wholeNumber? digits with
  | some n => .ok n
  | none => .error s!"invalid integer {cited arg}"

/-- Fails because an argument is missing; `last` is the last one of all. -/
def beyond {α : Type} (last : Octets) : Except String α := .error s!"missing argument after {cited last}"

/-- The truth of an operator between two arguments. -/
def binary (s : State) (a operator b : Octets) : Except String Bool :=
  match String.ofList operator with
  | "==" => .ok (a == b)
  | "-nt" | "-ot" =>
    let (newer, older) := if operator = "-nt".toList then (a, b) else (b, a)
    .ok <| match s.entryOf? newer true, s.entryOf? older true with
      | .ok m, .ok n => decide (s.stampOf n < s.stampOf m)
      | .ok _, .error _ => true
      | _, _ => false
  | operator =>
    if ["-eq", "-ne", "-lt", "-le", "-gt", "-ge"].contains operator then do
      let m ← number a
      let n ← number b
      return match operator with
        | "-eq" => m == n
        | "-ne" => m != n
        | "-lt" => m < n
        | "-le" => m ≤ n
        | "-gt" => m > n
        | _ => m ≥ n
    else Condition.binaryHolds s a operator b

/-- The truth of an operator with one value. -/
def unary (s : State) (operator value : Octets) : Except String Bool :=
  match operator with
  | ['-', letter] =>
    if !unaries.contains letter then .error s!"{cited operator}: unary operator expected"
    else if letter == 't' then (number value).map fun _ => false
    else Condition.unaryHolds s (String.ofList operator) value
  | _ => .error s!"{cited operator}: unary operator expected"

/-- The operator of an argument with one value, when there is no value. -/
def bareUnary {α : Type} (last operator : Octets) : Except String α :=
  match operator with
  | ['-', letter] =>
    if unaries.contains letter then beyond last else .error s!"{cited operator}: unary operator expected"
  | _ => beyond last

mutual

/-- The truth of so many arguments from the front; the rest comes with it. -/
def holds (fuel : Nat) (s : State) (last : Octets) (count : Nat) (args : List Octets) :
    Except String (Bool × List Octets) :=
  match fuel with
  | 0 => beyond last
  | fuel + 1 =>
    let two (args : List Octets) : Except String (Bool × List Octets) :=
      match args with
      | ['!'] :: b :: rest => .ok (b.isEmpty, rest)
      | a :: b :: rest => if looksUnary a then (unary s a b).map (·, rest) else beyond last
      | _ => beyond last
    let three (args : List Octets) : Except String (Bool × List Octets) :=
      match args with
      | a :: b :: c :: rest =>
        if isBinary b then (binary s a b c).map (·, rest)
        else if a = ['!'] then (two (b :: c :: rest)).map fun (truth, rest) => (!truth, rest)
        else if a = ['('] && c = [')'] then .ok (!b.isEmpty, rest)
        else if b = ['-', 'a'] || b = ['-', 'o'] then either fuel s last args
        else .error s!"{cited b}: binary operator expected"
      | _ => beyond last
    match count, args with
    | 1, a :: rest => .ok (!a.isEmpty, rest)
    | 2, args => two args
    | 3, args => three args
    | 4, ['!'] :: rest => (three rest).map fun (truth, rest) => (!truth, rest)
    | 4, ['('] :: a :: b :: [')'] :: rest => (two [a, b]).map fun (truth, _) => (truth, rest)
    | _, args => either fuel s last args
termination_by structural fuel

/-- Conditions of which one has to hold. -/
def either (fuel : Nat) (s : State) (last : Octets) (args : List Octets) : Except String (Bool × List Octets) :=
  match fuel with
  | 0 => beyond last
  | fuel + 1 =>
    match both fuel s last args with
    | .ok (first, ['-', 'o'] :: rest) =>
      match rest with
      | [] => beyond last
      | rest => (either fuel s last rest).map fun (second, rest) => (first || second, rest)
    | decided => decided
termination_by structural fuel

/-- Conditions that all have to hold. -/
def both (fuel : Nat) (s : State) (last : Octets) (args : List Octets) : Except String (Bool × List Octets) :=
  match fuel with
  | 0 => beyond last
  | fuel + 1 =>
    match term fuel s last args with
    | .ok (first, ['-', 'a'] :: rest) =>
      match rest with
      | [] => beyond last
      | rest => (both fuel s last rest).map fun (second, rest) => (first && second, rest)
    | decided => decided
termination_by structural fuel

/-- One condition, perhaps negated or in parentheses. -/
def term (fuel : Nat) (s : State) (last : Octets) (args : List Octets) : Except String (Bool × List Octets) :=
  match fuel with
  | 0 => beyond last
  | fuel + 1 =>
    match args with
    | [] => beyond last
    | ['!'] :: rest => (term fuel s last rest).map fun (truth, rest) => (!truth, rest)
    | ['('] :: rest =>
      if rest.isEmpty then beyond last
      else
        let inside := 1 + (rest.tail.takeWhile (· ≠ [')'])).length
        let count := if 4 < inside then rest.length else inside
        match holds fuel s last count rest with
        | .error reason => .error reason
        | .ok (truth, [')'] :: rest) => .ok (truth, rest)
        | .ok (_, found :: _) => .error s!"')' expected, found {cited found}"
        | .ok (_, []) => .error "')' expected"
    | a :: b :: c :: rest =>
      if isBinary b then (binary s a b c).map (·, rest)
      else if looksUnary a then (unary s a b).map (·, c :: rest)
      else .ok (!a.isEmpty, b :: c :: rest)
    | [a, b] => if looksUnary a then (unary s a b).map (·, []) else .ok (!a.isEmpty, [b])
    | [a] => if looksUnary a then bareUnary last a else .ok (!a.isEmpty, [])
termination_by structural fuel

end

end Deciding

/-- Tells by its status whether a condition holds. -/
def test (s : State) (args : List Octets) : State :=
  if args.isEmpty then s.withStatus 1
  else
    match Deciding.holds (8 * args.length + 8) s (args.getLastD []) args.length args with
    | .error reason => failed s 2 reason
    | .ok (_, extra :: _) => failed s 2 s!"extra argument {cited extra}"
    | .ok (truth, []) => s.withStatus (if truth then 0 else 1)

/-- The same between brackets. -/
def bracketTest (s : State) (args : List Octets) : State :=
  if args.getLast? = some [']'] then test s args.dropLast else failed s 2 "missing ']'"

end ProtoTree.Shell.Utility
