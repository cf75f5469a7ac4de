import ProtoTree.Shell.Name

/-! # Arithmetic in shell scripts

Values are integers of 64 bits. An expression is read into a tree first, so
what a condition leaves out is not worked out.
-/

namespace ProtoTree.Shell

/-- A part of an arithmetic expression. -/
inductive ArithmeticToken where
  | number (n : Int)
  | name (chars : List Char)
  | operator (chars : String)
  /-- A character without a meaning. -/
  | stray
  deriving DecidableEq, Repr, Inhabited

/-- An arithmetic expression. -/
inductive Expression where
  | number (n : Int)
  | name (chars : List Char)
  | unary (operator : String) (operand : Expression)
  | binary (operator : String) (left right : Expression)
  | choice (condition thenDo elseDo : Expression)
  /-- Sets a variable, with an operator to what its value and the new one make. -/
  | assign (name : List Char) (operator : Option String) (value : Expression)
  deriving DecidableEq, Repr, Inhabited

namespace ArithmeticToken

/-- The operators between two values, with how tightly they bind. -/
def binaries : List (String × Nat) :=
  [("||", 1), ("&&", 2), ("|", 3), ("^", 4), ("&", 5), ("==", 6), ("!=", 6), ("<=", 7), (">=", 7),
    ("<", 7), (">", 7), ("<<", 8), (">>", 8), ("+", 9), ("-", 9), ("*", 10), ("/", 10), ("%", 10)]

/-- The operators that set a variable, with the operator they apply. -/
def assignments : List (String × Option String) :=
  [("=", none), ("*=", some "*"), ("/=", some "/"), ("%=", some "%"), ("+=", some "+"),
    ("-=", some "-"), ("<<=", some "<<"), (">>=", some ">>"), ("&=", some "&"), ("^=", some "^"),
    ("|=", some "|")]

/-- Every operator, longer ones first. -/
def operators : List String :=
  ["<<=", ">>=", "||", "&&", "==", "!=", "<=", ">=", "<<", ">>", "*=", "/=", "%=", "+=", "-=", "&=",
    "^=", "|=", "|", "^", "&", "<", ">", "+", "-", "*", "/", "%", "!", "~", "(", ")", "?", ":", "="]

/-- The parts of an expression. -/
def scan (fuel : Nat) (cs : List Char) : List ArithmeticToken :=
  match fuel, cs with
  | 0, _ | _, [] => []
  | fuel + 1, c :: rest =>
    if c == ' ' || c == '\t' || c == '\n' then scan fuel rest
    else if c.isDigit then
      let (n, after) := Digits.numberAt (c :: rest)
      .number n :: scan fuel after
    else if Name.isStart c then
      .name ((c :: rest).takeWhile Name.isPart) ::
        scan fuel ((c :: rest).dropWhile Name.isPart)
    else
      match operators.find? fun o => o.toList.isPrefixOf (c :: rest) with
      | some o => .operator o :: scan fuel ((c :: rest).drop o.length)
      | none => [.stray]

end ArithmeticToken

namespace Expression

/-- What was read and the parts after it, or what was expected. -/
abbrev Reading := Except String (Expression × List ArithmeticToken)

mutual

/-- An assignment, or a choice. -/
def read (fuel : Nat) (tokens : List ArithmeticToken) : Reading :=
  match fuel with
  | 0 => .error "expecting primary"
  | fuel + 1 =>
    match tokens with
    | .name chars :: .operator o :: rest =>
      match ArithmeticToken.assignments.lookup o with
      | some operator => do
        let (value, after) ← read fuel rest
        return (.assign chars operator value, after)
      | none => readChoice fuel tokens
    | tokens => readChoice fuel tokens
termination_by structural fuel

/-- An expression, perhaps the condition of a choice. -/
def readChoice (fuel : Nat) (tokens : List ArithmeticToken) : Reading :=
  match fuel with
  | 0 => .error "expecting primary"
  | fuel + 1 => do
    match ← readBinary fuel 1 tokens with
    | (condition, .operator "?" :: rest) =>
      match ← read fuel rest with
      | (thenDo, .operator ":" :: rest) =>
        let (elseDo, after) ← readChoice fuel rest
        return (.choice condition thenDo elseDo, after)
      | _ => throw "expecting ':'"
    | parsed => return parsed
termination_by structural fuel

/-- An operand with operators after it that bind at least as tightly as `tightness`. -/
def readBinary (fuel tightness : Nat) (tokens : List ArithmeticToken) : Reading :=
  match fuel with
  | 0 => .error "expecting primary"
  | fuel + 1 => do
    let (first, rest) ← readOperand fuel tokens
    readMore fuel tightness first rest
termination_by structural fuel

/-- What operators make of a first operand. -/
def readMore (fuel tightness : Nat) (first : Expression) (tokens : List ArithmeticToken) : Reading :=
  match fuel, tokens with
  | 0, _ => .error "expecting primary"
  | fuel + 1, .operator o :: rest =>
    match ArithmeticToken.binaries.lookup o with
    | none => .ok (first, tokens)
    | some own =>
      if own < tightness then .ok (first, tokens)
      else do
        let (second, after) ← readBinary fuel (own + 1) rest
        readMore fuel tightness (.binary o first second) after
  | _, tokens => .ok (first, tokens)
termination_by structural fuel

/-- A number, a parameter, a sign in front of a value, or an expression in parentheses. -/
def readOperand (fuel : Nat) (tokens : List ArithmeticToken) : Reading :=
  match fuel, tokens with
  | 0, _ => .error "expecting primary"
  | _, .number n :: rest => .ok (.number n, rest)
  | _, .name chars :: rest => .ok (.name chars, rest)
  | fuel + 1, .operator "(" :: rest => do
    match ← read fuel rest with
    | (inner, .operator ")" :: after) => return (inner, after)
    | _ => throw "expecting ')'"
  | fuel + 1, .operator o :: rest =>
    if o = "-" || o = "+" || o = "!" || o = "~" then do
      let (operand, after) ← readOperand fuel rest
      return (.unary o operand, after)
    else .error "expecting primary"
  | _, _ => .error "expecting primary"
termination_by structural fuel

end

/-- Reads an expression, or tells what was expected. -/
def ofText (text : List Char) : Except String Expression := do
  let tokens := ArithmeticToken.scan text.length.succ text
  match ← read (8 * tokens.length + 8) tokens with
  | (e, []) => return e
  | _ => throw "expecting EOF"

end Expression

namespace Arithmetic

/-- Half of the values of 64 bits. -/
def half : Int := 9223372036854775808

/-- The value of 64 bits that is closest to a number. -/
def clamp (n : Int) : Int := max (-half) (min n (half - 1))

/-- The value of 64 bits that a number comes down to. -/
def wrap (n : Int) : Int := (n + half).emod (2 * half) - half

def ofBool (b : Bool) : Int := if b then 1 else 0

/-- The bits of a value as a natural number. -/
def bits (n : Int) : Nat := (n.emod (2 * half)).toNat

/-- The value of a sign in front of another. -/
def applyUnary (operator : String) (a : Int) : Int :=
  match operator with
  | "-" => wrap (-a)
  | "!" => ofBool (a == 0)
  | "~" => -a - 1
  | _ => a

/-- The value of an operator; a division by zero has none. -/
def combine? (operator : String) (a b : Int) : Option Int :=
  match operator with
  | "|" => some (wrap (bits a ||| bits b))
  | "^" => some (wrap (bits a ^^^ bits b))
  | "&" => some (wrap (bits a &&& bits b))
  | "==" => some (ofBool (a == b))
  | "!=" => some (ofBool (a != b))
  | "<=" => some (ofBool (a ≤ b))
  | ">=" => some (ofBool (a ≥ b))
  | "<" => some (ofBool (a < b))
  | ">" => some (ofBool (a > b))
  | "<<" => some (wrap (bits a <<< (bits b % 64)))
  | ">>" => some (a >>> (bits b % 64))
  | "+" => some (wrap (a + b))
  | "-" => some (wrap (a - b))
  | "*" => some (wrap (a * b))
  | "/" => if b = 0 then none else some (wrap (a.tdiv b))
  | "%" => if b = 0 then none else some (a.tmod b)
  | _ => none

/-- Why an expression has no value. -/
inductive Fault where
  /-- The expression itself is at fault. -/
  | expression (reason : String)
  /-- The value of a variable is no number. -/
  | number (text : List Char)
  deriving DecidableEq, Repr, Inhabited

/-- The variables that were set, the latest first. -/
abbrev Values := List (List Char × Int)

/-- The value of an expression and the variables it sets, given the values of others. -/
def evaluate (valueOf : List Char → Except Fault Int) (set : Values) :
    Expression → Except Fault (Int × Values)
  | .number n => .ok (clamp n, set)
  | .name chars =>
    match set.lookup chars with
    | some n => .ok (n, set)
    | none => (valueOf chars).map fun n => (n, set)
  | .unary operator operand => do
    let (n, set) ← evaluate valueOf set operand
    return (applyUnary operator n, set)
  | .binary "||" left right => do
    let (a, set) ← evaluate valueOf set left
    if a ≠ 0 then return (1, set)
    let (b, set) ← evaluate valueOf set right
    return (ofBool (b != 0), set)
  | .binary "&&" left right => do
    let (a, set) ← evaluate valueOf set left
    if a = 0 then return (0, set)
    let (b, set) ← evaluate valueOf set right
    return (ofBool (b != 0), set)
  | .binary operator left right => do
    let (a, set) ← evaluate valueOf set left
    let (b, set) ← evaluate valueOf set right
    match combine? operator a b with
    | some n => return (n, set)
    | none => throw (.expression "division by zero")
  | .choice condition thenDo elseDo => do
    let (n, set) ← evaluate valueOf set condition
    if n ≠ 0 then evaluate valueOf set thenDo else evaluate valueOf set elseDo
  | .assign name operator value => do
    let (b, set) ← evaluate valueOf set value
    match operator with
    | none => return (b, (name, b) :: set)
    | some operator =>
      let a ← match set.lookup name with
        | some n => pure n
        | none => valueOf name
      match combine? operator a b with
      | some n => return (n, (name, n) :: set)
      | none => throw (.expression "division by zero")

/-- The value of the text of an expression, and the variables it sets. -/
def value (valueOf : List Char → Except Fault Int) (text : List Char) : Except Fault (Int × Values) :=
  match Expression.ofText text with
  | .error reason => .error (.expression reason)
  | .ok e => evaluate valueOf [] e

/-- The text without blanks around it. -/
def withoutBlanks (cs : List Char) : List Char :=
  ((cs.dropWhile isBlank).reverse.dropWhile isBlank).reverse

/-- The sign and the rest of a text. -/
def takeSign : List Char → Int × List Char
  | '-' :: rest => (-1, rest)
  | '+' :: rest => (1, rest)
  | cs => (1, cs)

/-- The decimal number that a text stands for, with an optional sign. -/
def readInt? (cs : List Char) : Option Int :=
  let (sign, digits) := takeSign (withoutBlanks cs)
  if digits.isEmpty || !digits.all Char.isDigit then none
  else some (sign * (Digits.value digits : Int))

/-- The number that a text stands for, unless it is negative or too large to count with. -/
def readCount? (cs : List Char) : Option Nat :=
  match readInt? cs with
  | some n => if 0 ≤ n && n ≤ 2147483647 then some n.toNat else none
  | none => none

/-- The number that a text starts with in any base, and what is left of it. -/
def readPrefix? (cs : List Char) : Option (Int × List Char) :=
  let (sign, digits) := takeSign (cs.dropWhile isBlank)
  if digits.head?.any Char.isDigit then
    let (n, rest) := Digits.numberAt digits
    some (sign * (n : Int), rest)
  else none

/-- The number that a variable's text stands for, if it has no more than 64 bits. -/
def readValue? (cs : List Char) : Option Int :=
  match readPrefix? cs with
  | some (n, rest) => if rest.all isBlank && clamp n = n then some n else none
  | none => if cs.all isBlank then some 0 else none

end Arithmetic

end ProtoTree.Shell
