/-
# Single values of TOML

Strings in their four forms, numbers, truth values and dates.

Main definitions:

* `Toml.Problem` : what is wrong with a text, and where;
* `Toml.string` : a string in any of its forms;
* `Toml.scalar` : any single value that is not a string.
-/
import Reachability.Document.Basic

namespace Reachability.Toml

/-! ## Problems -/

/-- What is wrong with a text: the number of characters from the place to the end, and what
was expected. -/
structure Problem where
  remaining : Nat
  notes : List String
deriving DecidableEq, Repr

/-- What reading gives: a value and the rest of the text. -/
abbrev Parsed (α : Type) := Except Problem (α × List Char)

/-- Fails at the start of the text. -/
def fail {α : Type} (cs : List Char) (notes : List String) : Except Problem α :=
  .error ⟨cs.length, notes⟩

/-! ## Characters -/

/-- The blanks within a line. -/
def isBlank (c : Char) : Bool := c == ' ' || c == '\t'

/-- Drops the blanks at the start. -/
def skipBlanks (cs : List Char) : List Char := cs.dropWhile isBlank

/-- The text after a line end at its start. -/
def lineEnd? : List Char → Option (List Char)
  | '\n' :: rest => some rest
  | '\r' :: '\n' :: rest => some rest
  | _ => none

/-- A character that may stand for itself in a comment or a string. -/
def isPrintable (c : Char) : Bool := c == '\t' || (0x20 ≤ c.toNat && c.toNat ≠ 0x7f)

/-- A character of an unquoted key. -/
def isBareKey (c : Char) : Bool :=
  c.isAlphanum || c == '_' || c == '-'

/-! ## Strings -/

/-- The note for a string that is not ended as it should be. -/
def badString : List String := ["invalid string"]

/-- The character of a number of hexadecimal digits. -/
def hexEscape? (count : Nat) (cs : List Char) : Option (Char × List Char) := do
  let digits := cs.take count
  if digits.length < count then none
  else
    let n := (← digits.mapM Percent.hexValue?).foldl (fun v d => v * 16 + d) 0
    if h : n.isValidChar then some (Char.ofNatAux n h, cs.drop count) else none

/-- The character that an escape stands for, after the backslash. -/
def escape? : List Char → Option (Char × List Char)
  | 'b' :: rest => some ('\x08', rest)
  | 't' :: rest => some ('\t', rest)
  | 'n' :: rest => some ('\n', rest)
  | 'f' :: rest => some ('\x0c', rest)
  | 'r' :: rest => some ('\r', rest)
  | '"' :: rest => some ('"', rest)
  | '\\' :: rest => some ('\\', rest)
  | 'u' :: rest => hexEscape? 4 rest
  | 'U' :: rest => hexEscape? 8 rest
  | _ => none

/-- The rest of a string on one line; escapes are read if `escapes`. -/
def lineString (quote : Char) (escapes : Bool) : Nat → List Char → List Char → Parsed String
  | 0, _, cs => fail cs badString
  | _ + 1, _, [] => fail [] badString
  | fuel + 1, acc, c :: cs =>
      if c = quote then .ok (String.ofList acc.reverse, cs)
      else if escapes && c == '\\' then
        match escape? cs with
        | some (e, rest) => lineString quote escapes fuel (e :: acc) rest
        | none => fail cs badString
      else if isPrintable c then lineString quote escapes fuel (c :: acc) cs
      else fail (c :: cs) badString

/-- The text after the blanks and line ends that a backslash at a line's end swallows: there
has to be a line end among them. -/
def swallow? (cs : List Char) : Option (List Char) :=
  match lineEnd? (skipBlanks cs) with
  | none => none
  | some rest => some (rest.dropWhile fun c => isBlank c || c == '\n' || c == '\r')

/-- The rest of a string of several lines.  It ends at three quotes; up to two further ones
belong to it. -/
def blockString (quote : Char) (escapes : Bool) : Nat → List Char → List Char → Parsed String
  | 0, _, cs => fail cs badString
  | _ + 1, _, [] => fail [] badString
  | fuel + 1, acc, c :: cs =>
      if c = quote then
        let quotes := ((c :: cs).takeWhile (· == quote)).length
        if quotes ≥ 3 then
          let own := min (quotes - 3) 2
          .ok (String.ofList (List.replicate own quote ++ acc).reverse, (c :: cs).drop (own + 3))
        else blockString quote escapes fuel (c :: acc) cs
      else if escapes && c == '\\' then
        match swallow? cs with
        | some rest => blockString quote escapes fuel acc rest
        | none =>
            match escape? cs with
            | some (e, rest) => blockString quote escapes fuel (e :: acc) rest
            | none => fail cs badString
      else match lineEnd? (c :: cs) with
        | some rest => blockString quote escapes fuel ('\n' :: acc) rest
        | none =>
            if isPrintable c then blockString quote escapes fuel (c :: acc) cs
            else fail (c :: cs) badString

/-- A line end right after the opening quotes does not belong to the string. -/
def openBlock (cs : List Char) : List Char := (lineEnd? cs).getD cs

/-- A string in any of its forms, at its opening quote. -/
def string (cs : List Char) : Parsed String :=
  let fuel := cs.length + 1
  match cs with
  | '"' :: '"' :: '"' :: rest => blockString '"' true fuel [] (openBlock rest)
  | '\'' :: '\'' :: '\'' :: rest => blockString '\'' false fuel [] (openBlock rest)
  | '"' :: rest => lineString '"' true fuel [] rest
  | '\'' :: rest => lineString '\'' false fuel [] rest
  | _ => fail cs ["invalid string", "expected `\"`, `'`"]

/-! ## Numbers -/

/-- Digits with single underscores between them: the digits and the rest. -/
def grouped? (isDigit : Char → Bool) (cs : List Char) : Option (List Char × List Char) :=
  let run := cs.takeWhile fun c => isDigit c || c == '_'
  let pieces := Text.fields '_' run
  if pieces.any List.isEmpty then none
  else some (pieces.flatten, cs.drop run.length)

/-- The sign at the start, and whether there is one. -/
def sign : List Char → Bool × Bool × List Char
  | '-' :: rest => (true, true, rest)
  | '+' :: rest => (false, true, rest)
  | cs => (false, false, cs)

/-- Decimal digits that do not begin with a superfluous zero. -/
def wholeDigits? (cs : List Char) : Option (List Char × List Char) := do
  let (digits, rest) ← grouped? Text.isDigit cs
  match digits with
  | '0' :: _ :: _ => none
  | _ => some (digits, rest)

/-- An integer of a base, after its mark. -/
def based? (base : Nat) (isDigit : Char → Bool) (cs : List Char) :
    Option (Document × List Char) := do
  let (digits, rest) ← grouped? isDigit cs
  let n := (← digits.mapM Percent.hexValue?).foldl (fun v d => v * base + d) 0
  if n ≤ Int64.maxValue.toInt then some (.integer n, rest) else none

/-- An integer. -/
def integer? (cs : List Char) : Option (Document × List Char) :=
  match cs with
  | '0' :: 'x' :: rest => based? 16 (fun c => (Percent.hexValue? c).isSome) rest
  | '0' :: 'o' :: rest => based? 8 (fun c => '0' ≤ c && c ≤ '7') rest
  | '0' :: 'b' :: rest => based? 2 (fun c => c == '0' || c == '1') rest
  | _ => do
      let (negative, _, rest) := sign cs
      let (digits, rest) ← wholeDigits? rest
      let n := Decimal.value digits
      let i : Int := if negative then -n else n
      if Int64.minValue.toInt ≤ i ∧ i ≤ Int64.maxValue.toInt then some (.integer i, rest) else none

/-- The exponent of a number. -/
def exponent? : List Char → Option (Int × List Char)
  | c :: rest => do
      if c ≠ 'e' ∧ c ≠ 'E' then none
      else
        let (negative, _, rest) := sign rest
        let (digits, rest) ← grouped? Text.isDigit rest
        let n : Int := Decimal.value digits
        some (if negative then -n else n, rest)
  | [] => none

/-- A number with a fraction or an exponent, or one of the special numbers.  It lies within
the range of doubles. -/
def real? (cs : List Char) : Option (Document × List Char) :=
  let (negative, _, unsigned) := sign cs
  match unsigned with
  | 'i' :: 'n' :: 'f' :: rest => some (.real (.infinity negative), rest)
  | 'n' :: 'a' :: 'n' :: rest => some (.real .nan, rest)
  | _ => do
      let (whole, rest) ← wholeDigits? unsigned
      let (fraction, rest, hasFraction) ← match rest with
        | '.' :: more => (grouped? Text.isDigit more).map fun (f, rest) => (f, rest, true)
        | _ => some ([], rest, false)
      let (e, rest) ← match exponent? rest with
        | some (e, rest) => some (e, rest)
        | none => if hasFraction then some (0, rest) else none
      let digits := Decimal.value (whole ++ fraction)
      let x := Decimal.toBinary64 negative digits (e - fraction.length)
      if x.isFinite then some (.real x, rest) else none

/-! ## Dates -/

/-- A number of exactly `count` digits between two bounds. -/
def field? (count low high : Nat) (cs : List Char) : Option (Nat × List Char) :=
  let digits := cs.take count
  if digits.length < count || !digits.all Text.isDigit then none
  else
    let n := Decimal.value digits
    if low ≤ n ∧ n ≤ high then some (n, cs.drop count) else none

/-- The text after a character that has to stand at its start. -/
def after? (c : Char) : List Char → Option (List Char)
  | d :: rest => if d = c then some rest else none
  | [] => none

/-- The days of a month. -/
def daysOfMonth (year month : Nat) : Nat :=
  if month = 2 then
    if year % 4 = 0 ∧ (year % 100 ≠ 0 ∨ year % 400 = 0) then 29 else 28
  else if month = 4 ∨ month = 6 ∨ month = 9 ∨ month = 11 then 30
  else 31

/-- The text after a date. -/
def afterDate? (cs : List Char) : Option (List Char) := do
  let (year, cs) ← field? 4 0 9999 cs
  let (month, cs) ← field? 2 1 12 (← after? '-' cs)
  let (_, cs) ← field? 2 1 (daysOfMonth year month) (← after? '-' cs)
  some cs

/-- The text after a time of day, with a fraction or without. -/
def afterTime? (cs : List Char) : Option (List Char) := do
  let (_, cs) ← field? 2 0 23 cs
  let (_, cs) ← field? 2 0 59 (← after? ':' cs)
  let (_, cs) ← field? 2 0 60 (← after? ':' cs)
  match cs with
  | '.' :: rest =>
      match rest with
      | d :: _ => if Text.isDigit d then some (rest.dropWhile Text.isDigit) else none
      | [] => none
  | _ => some cs

/-- The text after the distance from universal time, if it is given. -/
def afterOffset (cs : List Char) : List Char :=
  let offset? (rest : List Char) : Option (List Char) := do
    let (_, rest) ← field? 2 0 23 rest
    let (_, rest) ← field? 2 0 59 (← after? ':' rest)
    some rest
  match cs with
  | 'Z' :: rest => rest
  | 'z' :: rest => rest
  | '+' :: rest => (offset? rest).getD cs
  | '-' :: rest => (offset? rest).getD cs
  | _ => cs

/-- The name under which a date is the only entry of a table. -/
def dateName : String := "$__toml_private_datetime"

/-- A date, a time of day, or both.  It is read as a table with the text as its only
entry. -/
def date? (cs : List Char) : Option (Document × List Char) := do
  let rest ← match afterDate? cs with
    | some rest =>
        let timed? := match rest with
          | c :: more => if c = 'T' ∨ c = 't' ∨ c = ' ' then afterTime? more else none
          | [] => none
        match timed? with
        | some rest => some (afterOffset rest)
        | none => some rest
    | none => afterTime? cs
  let text := String.ofList (cs.take (cs.length - rest.length))
  some (.table [(dateName, .text text)], rest)

/-! ## Any single value -/

/-- A value that is neither a string nor a list nor a table. -/
def scalar (cs : List Char) : Parsed Document :=
  match cs with
  | 't' :: 'r' :: 'u' :: 'e' :: rest => .ok (.bool true, rest)
  | 'f' :: 'a' :: 'l' :: 's' :: 'e' :: rest => .ok (.bool false, rest)
  | 'i' :: 'n' :: 'f' :: rest => .ok (.real (.infinity false), rest)
  | 'n' :: 'a' :: 'n' :: rest => .ok (.real .nan, rest)
  | c :: _ =>
      if c = '+' ∨ c = '-' ∨ Text.isDigit c then
        match ((date? cs).or (real? cs)).or (integer? cs) with
        | some found => .ok found
        | none => fail cs ["invalid number"]
      else fail cs ["string values must be quoted", "expected literal string"]
  | [] => fail cs ["invalid string", "expected `\"`, `'`"]

end Reachability.Toml
