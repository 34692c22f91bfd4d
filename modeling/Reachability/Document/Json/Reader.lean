/-
# Reading JSON

The reader accepts the JSON of RFC 8259 and nothing beyond it.  A text is read in two steps:
`Json.read?` checks the grammar and builds the document, with `unreadable` in place of what
the grammar allows but no value has; `Json.readValue?` refuses documents that hold such a
place or nest too deeply.  A reader that skips an unknown field thereby skips also what it
could not read.

Main definitions:

* `Json.read?` : a text as a document;
* `Json.readValue?` : a text as a value all of which is readable.
-/
import Reachability.Document.Basic

namespace Reachability.Json

/-! ## Blanks -/

/-- The four blank characters between tokens. -/
def isBlank (c : Char) : Bool :=
  c == ' ' || c == '\t' || c == '\n' || c == '\r'

/-- Drops the blanks at the start. -/
def skipBlanks (cs : List Char) : List Char :=
  cs.dropWhile isBlank

/-! ## Numbers -/

/-- A number is computed from at most this significand; further digits only scale it. -/
def significandLimit : Nat := UInt64.size

/-- A decimal number as it was read: the digits taken, and the power of ten. -/
structure Literal where
  significand : Nat
  exponent : Int
  /-- Some digit was left out because the significand was full. -/
  full : Bool

/-- Takes a digit before the point. -/
def Literal.pushWhole (n : Literal) (c : Char) : Literal :=
  let next := n.significand * 10 + Decimal.digitValue c
  if n.full || next ≥ significandLimit then ⟨n.significand, n.exponent + 1, true⟩
  else ⟨next, n.exponent, false⟩

/-- Takes a digit after the point.  Once a digit did not fit, no later one is taken. -/
def Literal.pushFraction (state : Literal × Bool) (c : Char) : Literal × Bool :=
  let (n, closed) := state
  let next := n.significand * 10 + Decimal.digitValue c
  if closed || next ≥ significandLimit then (n, true)
  else (⟨next, n.exponent - 1, n.full⟩, false)

/-- The double `10 ^ n`. -/
def powerOfTen (n : Nat) : Binary64 := Decimal.toBinary64 false 1 n

/-- The significand times or over a power of ten, each rounded on its own; `none` above all
doubles.  Powers beyond those of a double are applied in steps. -/
def scale? (fuel : Nat) (x : Binary64) (e : Int) : Option Binary64 :=
  match fuel with
  | 0 => some x
  | fuel + 1 =>
      if e.natAbs ≤ 308 then
        if e ≥ 0 then
          let y := x * powerOfTen e.toNat
          if y.isFinite then some y else none
        else some (x / powerOfTen e.natAbs)
      else if x.isZero then some x
      else if e ≥ 0 then none
      else scale? fuel (x / powerOfTen 308) (e + 308)

/-- The value of a literal with a sign. -/
def Literal.value? (negative : Bool) (n : Literal) : Option Binary64 := do
  let x ← scale? 5 (Binary64.ofNat n.significand) n.exponent
  some (if negative then ⟨(x.bits.toNat + Binary64.signBit).toUInt64⟩ else x)

/-- The document of a number without point and exponent: an integer if it fits into
sixty-four bits, a double otherwise.  Minus zero is a double. -/
def wholeNumber (negative : Bool) (n : Literal) : Document :=
  if n.full then
    match n.value? negative with
    | some x => .real x
    | none => .unreadable
  else if !negative then .integer n.significand
  else if n.significand ≠ 0 ∧ n.significand ≤ Int64.minValue.toInt.natAbs then
    .integer (-(n.significand : Int))
  else .real ⟨((Binary64.ofNat n.significand).bits.toNat + Binary64.signBit).toUInt64⟩

/-- The digits of a whole part: a single zero, or digits without a zero in front. -/
def wholeDigits? : List Char → Option (List Char × List Char)
  | '0' :: rest =>
      match rest with
      | c :: _ => if Text.isDigit c then none else some (['0'], rest)
      | [] => some (['0'], [])
  | cs =>
      let ds := cs.takeWhile Text.isDigit
      if ds.isEmpty then none else some (ds, cs.dropWhile Text.isDigit)

/-- Digits that have to be there, and what follows them. -/
def someDigits? (cs : List Char) : Option (List Char × List Char) :=
  let ds := cs.takeWhile Text.isDigit
  if ds.isEmpty then none else some (ds, cs.dropWhile Text.isDigit)

/-- An exponent after its mark. -/
def exponent? (cs : List Char) : Option (Int × List Char) :=
  match cs with
  | '+' :: rest => (someDigits? rest).map fun (ds, rest) => ((Decimal.value ds : Int), rest)
  | '-' :: rest => (someDigits? rest).map fun (ds, rest) => (-(Decimal.value ds : Int), rest)
  | _ => (someDigits? cs).map fun (ds, rest) => ((Decimal.value ds : Int), rest)

/-- Takes the digits behind a point, if a point comes first, and tells whether one does. -/
def fractionPart? (n : Literal) (cs : List Char) : Option (Literal × Bool × List Char) :=
  match cs with
  | '.' :: more =>
      (someDigits? more).map fun (ds, rest) =>
        ((ds.foldl Literal.pushFraction (n, false)).1, true, rest)
  | _ => some (n, false, cs)

/-- Takes the exponent behind its mark, if a mark comes first, and tells whether one does. -/
def exponentPart? (n : Literal) (cs : List Char) : Option (Literal × Bool × List Char) :=
  match cs with
  | c :: more =>
      if c = 'e' ∨ c = 'E' then
        (exponent? more).map fun (e, rest) => ({ n with exponent := n.exponent + e }, true, rest)
      else some (n, false, cs)
  | [] => some (n, false, cs)

/-- The document of a number: only without point and exponent can it be whole. -/
def Literal.document (negative broken : Bool) (n : Literal) : Document :=
  if broken then
    match n.value? negative with
    | some x => .real x
    | none => .unreadable
  else wholeNumber negative n

/-- A number without its sign. -/
def unsigned? (negative : Bool) (cs : List Char) : Option (Document × List Char) := do
  let (whole, rest) ← wholeDigits? cs
  let (n, hasFraction, rest) ← fractionPart? (whole.foldl Literal.pushWhole ⟨0, 0, false⟩) rest
  let (n, hasExponent, rest) ← exponentPart? n rest
  some (n.document negative (hasFraction || hasExponent), rest)

/-- A number at the start of the text. -/
def number? : List Char → Option (Document × List Char)
  | '-' :: rest => unsigned? true rest
  | cs => unsigned? false cs

/-! ## Strings -/

/-- A string as far as it was read; `none` once an unpaired surrogate occurred. -/
abbrev Scanned := Option (List Char)

/-- The value of four hexadecimal digits at the start. -/
def fourHex? : List Char → Option (Nat × List Char)
  | a :: b :: c :: d :: rest => do
      let w ← Percent.hexValue? a
      let x ← Percent.hexValue? b
      let y ← Percent.hexValue? c
      let z ← Percent.hexValue? d
      some (((w * 16 + x) * 16 + y) * 16 + z, rest)
  | _ => none

/-- The character of a simple escape. -/
def escaped? : Char → Option Char
  | '"' => some '"'
  | '\\' => some '\\'
  | '/' => some '/'
  | 'b' => some '\x08'
  | 'f' => some '\x0c'
  | 'n' => some '\n'
  | 'r' => some '\r'
  | 't' => some '\t'
  | _ => none

/-- A code unit that opens a surrogate pair. -/
def isHighSurrogate (n : Nat) : Bool := 0xd800 ≤ n && n < 0xdc00

/-- A code unit that closes a surrogate pair. -/
def isLowSurrogate (n : Nat) : Bool := 0xdc00 ≤ n && n < 0xe000

/-- The characters of a string up to its closing quote, latest first, and what follows.
`open` holds the first half of a surrogate pair when one was just read. -/
def stringRest? : Nat → Option Nat → Scanned → List Char → Option (Scanned × List Char)
  | 0, _, _, _ => none
  | _ + 1, _, _, [] => none
  | fuel + 1, pending, acc, c :: cs =>
      let push (acc : Scanned) (c : Char) : Scanned := acc.map (c :: ·)
      -- A half of a pair that nothing completes spoils the string.
      let acc' : Scanned := if pending.isSome then none else acc
      if c = '"' then some (acc', cs)
      else if c = '\\' then
        match cs with
        | 'u' :: rest => do
            let (n, rest) ← fourHex? rest
            match pending with
            | some high =>
                if isLowSurrogate n then
                  stringRest? fuel none
                    (push acc (Char.ofNat (0x10000 + (high - 0xd800) * 0x400 + (n - 0xdc00)))) rest
                else stringRest? fuel none none rest
            | none =>
                if isHighSurrogate n then stringRest? fuel (some n) acc rest
                else if isLowSurrogate n then stringRest? fuel none none rest
                else stringRest? fuel none (push acc (Char.ofNat n)) rest
        | e :: rest => do
            let c ← escaped? e
            stringRest? fuel none (push acc' c) rest
        | [] => none
      else if c.toNat < 0x20 then none
      else stringRest? fuel none (push acc' c) cs

/-- A string after its opening quote: its text, or `none` if it has an unpaired surrogate. -/
def string? (cs : List Char) : Option (Option String × List Char) :=
  (stringRest? (cs.length + 1) none (some []) cs).map fun (scanned, rest) =>
    (scanned.map fun acc => String.ofList acc.reverse, rest)

/-! ## Values -/

/-- A constant at the start of the text. -/
def constant? : List Char → Option (Document × List Char)
  | 'n' :: 'u' :: 'l' :: 'l' :: rest => some (.null, rest)
  | 't' :: 'r' :: 'u' :: 'e' :: rest => some (.bool true, rest)
  | 'f' :: 'a' :: 'l' :: 's' :: 'e' :: rest => some (.bool false, rest)
  | _ => none

/-- The entries read so far, latest first, or `none` once a name could not be read. -/
abbrev Entries := Option (List (String × Document))

mutual

/-- A value at the start of the text, after blanks. -/
def value? : Nat → List Char → Option (Document × List Char)
  | 0, _ => none
  | fuel + 1, cs =>
      match skipBlanks cs with
      | '"' :: rest => do
          let (s, rest) ← string? rest
          some ((s.map Document.text).getD .unreadable, rest)
      | '[' :: rest =>
          match skipBlanks rest with
          | ']' :: rest => some (.list [], rest)
          | _ => items? fuel [] rest
      | '\x7b' :: rest =>
          match skipBlanks rest with
          | '\x7d' :: rest => some (.table [], rest)
          | _ => entries? fuel (some []) rest
      | c :: rest =>
          if c = '-' || Text.isDigit c then number? (c :: rest) else constant? (c :: rest)
      | [] => none

/-- The items of a list up to its closing bracket. -/
def items? : Nat → List Document → List Char → Option (Document × List Char)
  | 0, _, _ => none
  | fuel + 1, acc, cs => do
      let (item, rest) ← value? fuel cs
      match skipBlanks rest with
      | ',' :: rest => items? fuel (item :: acc) rest
      | ']' :: rest => some (.list (item :: acc).reverse, rest)
      | _ => none

/-- The entries of a table up to its closing brace. -/
def entries? : Nat → Entries → List Char → Option (Document × List Char)
  | 0, _, _ => none
  | fuel + 1, acc, cs =>
      match skipBlanks cs with
      | '"' :: rest => do
          let (name, rest) ← string? rest
          match skipBlanks rest with
          | ':' :: rest => do
              let (item, rest) ← value? fuel rest
              let acc : Entries := do some ((← name, item) :: (← acc))
              match skipBlanks rest with
              | ',' :: rest => entries? fuel acc rest
              | '\x7d' :: rest =>
                  some ((acc.map fun es => Document.table es.reverse).getD .unreadable, rest)
              | _ => none
          | _ => none
      | _ => none

end

/-! ## Texts -/

/-- The document that a text is. -/
def read? (s : String) : Option Document :=
  let cs := s.toList
  match value? (2 * cs.length + 2) cs with
  | some (d, rest) => if (skipBlanks rest).isEmpty then some d else none
  | none => none

/-- Lists and tables may nest below this depth. -/
def depthLimit : Nat := 128

/-- Whether all of a document is readable within a depth. -/
def isReadable : Nat → Document → Bool
  | _, .unreadable => false
  | 0, .list _ => false
  | 0, .table _ => false
  | depth + 1, .list items => items.attach.all fun ⟨d, _⟩ => isReadable depth d
  | depth + 1, .table entries => entries.attach.all fun ⟨e, _⟩ => isReadable depth e.2
  | _, _ => true

/-- The value that a text is, if all of it is readable. -/
def readValue? (s : String) : Option Document := do
  let d ← read? s
  if isReadable (depthLimit - 1) d then some d else none

end Reachability.Json
