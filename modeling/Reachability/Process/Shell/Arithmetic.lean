/-
# Arithmetic of the shell

Expressions on integers of 64 bits with a sign, which wrap.

Main definitions:

* `Shell.BinaryOperator` : the operators between two operands;
* `Shell.evaluate` : the value of an expression, or what is wrong with it.
-/
import Reachability.Text.Split

namespace Reachability.Shell

/-! ## Operators -/

/-- An operator between two operands; the higher its level, the tighter it binds. -/
structure BinaryOperator where
  sign : String
  level : Nat
  /-- The value, unless it is a division by zero. -/
  apply : Int64 → Int64 → Option Int64

/-- One or zero for a truth value. -/
def truthNumber (b : Bool) : Int64 := if b then 1 else 0

/-- The operators; a sign stands before those that it starts with. -/
def BinaryOperator.all : List BinaryOperator :=
  [⟨"||", 1, fun a b => some (truthNumber (a ≠ 0 || b ≠ 0))⟩,
   ⟨"&&", 2, fun a b => some (truthNumber (a ≠ 0 && b ≠ 0))⟩,
   ⟨"==", 6, fun a b => some (truthNumber (a == b))⟩,
   ⟨"!=", 6, fun a b => some (truthNumber (a != b))⟩,
   ⟨"<<", 8, fun a b => some (a <<< b)⟩,
   ⟨">>", 8, fun a b => some (a >>> b)⟩,
   ⟨"<=", 7, fun a b => some (truthNumber (a ≤ b))⟩,
   ⟨">=", 7, fun a b => some (truthNumber (a ≥ b))⟩,
   ⟨"<", 7, fun a b => some (truthNumber (a < b))⟩,
   ⟨">", 7, fun a b => some (truthNumber (a > b))⟩,
   ⟨"|", 3, fun a b => some (a ||| b)⟩,
   ⟨"^", 4, fun a b => some (a ^^^ b)⟩,
   ⟨"&", 5, fun a b => some (a &&& b)⟩,
   ⟨"+", 9, fun a b => some (a + b)⟩,
   ⟨"-", 9, fun a b => some (a - b)⟩,
   ⟨"*", 10, fun a b => some (a * b)⟩,
   ⟨"/", 10, fun a b => if b = 0 then none else some (a / b)⟩,
   ⟨"%", 10, fun a b => if b = 0 then none else some (a % b)⟩]

/-- The operator at the start of a text, and what follows it. -/
def BinaryOperator.read? (cs : List Char) : Option (BinaryOperator × List Char) :=
  all.findSome? fun op => (Text.after? op.sign.toList cs).map fun rest => (op, rest)

/-! ## Numbers -/

/-- The number that digits stand for in a base. -/
def numberIn (base : Nat) (digits : List Char) : Option Int64 := do
  let value (c : Char) : Nat :=
    if c.isDigit then c.toNat - '0'.toNat else c.toLower.toNat - 'a'.toNat + 10
  if digits.isEmpty || digits.any (fun c => !c.isAlphanum || base ≤ value c) then none
  else some (Int64.ofNat (digits.foldl (fun n c => base * n + value c) 0))

/-- The number that a text stands for: decimal, octal behind a zero, hexadecimal behind a zero
and a letter. -/
def number? : List Char → Option Int64
  | '0' :: 'x' :: digits => numberIn 16 digits
  | '0' :: 'X' :: digits => numberIn 16 digits
  | ['0'] => some 0
  | '0' :: digits => numberIn 8 digits
  | digits => numberIn 10 digits

/-! ## Expressions -/

/-- What is wrong with an expression. -/
inductive ArithmeticFault
  | expectingPrimary
  | expectingEnd
  | divisionByZero
deriving DecidableEq, Repr

/-- The text of a fault. -/
def ArithmeticFault.message : ArithmeticFault → String
  | expectingPrimary => "expecting primary"
  | expectingEnd => "expecting EOF"
  | divisionByZero => "division by zero"

/-- Drops the blanks at the start. -/
def skipBlanks (cs : List Char) : List Char :=
  cs.dropWhile fun c => c = ' ' || c = '\t' || c = '\n'

mutual

/-- The value at the start of a text: a number, the value of a name, a sign in front of a
value, or an expression in parentheses. -/
def primary (lookup : List Char → Int64) : Nat → List Char →
    Except ArithmeticFault (Int64 × List Char)
  | 0, _ => .error .expectingPrimary
  | fuel + 1, cs =>
      match skipBlanks cs with
      | '(' :: rest => do
          let (value, rest) ← expression lookup fuel 1 rest
          match skipBlanks rest with
          | ')' :: rest => return (value, rest)
          | _ => throw .expectingPrimary
      | '-' :: rest => do
          let (value, rest) ← primary lookup fuel rest
          return (-value, rest)
      | '+' :: rest => primary lookup fuel rest
      | '!' :: rest => do
          let (value, rest) ← primary lookup fuel rest
          return (truthNumber (value == 0), rest)
      | '~' :: rest => do
          let (value, rest) ← primary lookup fuel rest
          return (~~~value, rest)
      | cs =>
          let text := cs.takeWhile fun c => c.isAlphanum || c == '_'
          let rest := cs.drop text.length
          match text with
          | [] => .error .expectingPrimary
          | c :: _ =>
              if !c.isDigit then .ok (lookup text, rest)
              else (number? text).elim (.error .expectingPrimary) fun value => .ok (value, rest)

/-- The value of the operands and operators from a level on. -/
def expression (lookup : List Char → Int64) : Nat → Nat → List Char →
    Except ArithmeticFault (Int64 × List Char)
  | 0, _, _ => .error .expectingPrimary
  | fuel + 1, level, cs => do
      let (left, rest) ← primary lookup fuel cs
      operands lookup fuel level left rest

/-- Goes on behind a left operand as long as operators of the level follow. -/
def operands (lookup : List Char → Int64) : Nat → Nat → Int64 → List Char →
    Except ArithmeticFault (Int64 × List Char)
  | 0, _, _, _ => .error .expectingPrimary
  | fuel + 1, level, left, cs =>
      match BinaryOperator.read? (skipBlanks cs) with
      | none => .ok (left, cs)
      | some (op, rest) =>
          if op.level < level then .ok (left, cs)
          else do
            let (right, rest) ← expression lookup fuel (op.level + 1) rest
            match op.apply left right with
            | some value => operands lookup fuel level value rest
            | none => throw .divisionByZero

end

/-- The value of an expression. -/
def evaluate (lookup : List Char → Int64) (cs : List Char) : Except ArithmeticFault Int64 := do
  let (value, rest) ← expression lookup (4 * cs.length + 4) 1 cs
  if (skipBlanks rest).isEmpty then return value else throw .expectingEnd

end Reachability.Shell
