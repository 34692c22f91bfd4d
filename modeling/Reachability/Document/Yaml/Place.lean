/-
# Places in a YAML text

Indentation carries meaning in YAML, so a reader has to know in which line and column it
stands.

Main definitions:

* `Yaml.Place` : the rest of a text with the position of its start;
* `Yaml.Place.next`, `Yaml.Place.drop` : the places behind it;
* `Yaml.Place.toToken` : the place of the next token.
-/
import Reachability.Document.Basic

namespace Reachability.Yaml

/-! ## Characters -/

/-- The blanks within a line. -/
def isBlank (c : Char) : Bool := c == ' ' || c == '\t'

/-- The characters that end a line. -/
def isBreak (c : Char) : Bool :=
  c == '\n' || c == '\r' || c == '\x85' || c == '\u2028' || c == '\u2029'

/-- Whether a text starts with white space or is empty. -/
def startsBlank : List Char → Bool
  | [] => true
  | c :: _ => isBlank c || isBreak c

/-- The characters that may stand in a text. -/
def isAllowed (c : Char) : Bool :=
  let n := c.toNat
  n == 0x09 || n == 0x0a || n == 0x0d || (0x20 ≤ n && n ≤ 0x7e) || n == 0x85 ||
    (0xa0 ≤ n && n ≤ 0xfffd) || 0x10000 ≤ n

/-! ## Places -/

/-- The rest of a text with the position of its start, and what was said before it: the values
that were given names, and what the handles of tags stand for. -/
structure Place where
  rest : List Char
  line : Nat
  column : Nat
  anchors : List (String × Document)
  handles : List (List Char × List Char)

namespace Place

/-- The place behind the next character; a carriage return takes its line feed along. -/
def next (p : Place) : Place :=
  match p.rest with
  | [] => p
  | '\r' :: '\n' :: rest => { p with rest, line := p.line + 1, column := 0 }
  | c :: rest =>
      if isBreak c then { p with rest, line := p.line + 1, column := 0 }
      else { p with rest, column := p.column + 1 }

/-- The place behind a number of characters of one line. -/
def drop (n : Nat) (p : Place) : Place :=
  { p with rest := p.rest.drop n, column := p.column + n }

/-- The place behind the characters of the line that satisfy `f`. -/
def dropWhile (f : Char → Bool) (p : Place) : Place :=
  p.drop (p.rest.takeWhile f).length

/-- The place behind the blanks. -/
def skipBlanks (p : Place) : Place := p.dropWhile isBlank

/-- The start of the line of a place that has only blanks before it. -/
def lineStart (p : Place) : Place :=
  { p with rest := List.replicate p.column ' ' ++ p.rest, column := 0 }

/-- The place at the end of the line. -/
def lineEnd (p : Place) : Place := p.dropWhile fun c => !isBreak c

/-- What a line end stands for in a value. -/
def breakChar (p : Place) : Char :=
  match p.rest with
  | c :: _ => if c = '\u2028' ∨ c = '\u2029' then c else '\n'
  | [] => '\n'

/-- Whether there is a mark between documents. -/
def atMarker (p : Place) : Bool :=
  p.column == 0 &&
    match p.rest with
    | '-' :: '-' :: '-' :: rest => startsBlank rest
    | '.' :: '.' :: '.' :: rest => startsBlank rest
    | _ => false

/-- Whether the document ends here. -/
def atEnd (p : Place) : Bool := p.rest.isEmpty || p.atMarker

/-- Whether an indicator stands here, white space behind it. -/
def atIndicator (c : Char) (p : Place) : Bool :=
  match p.rest with
  | d :: rest => d == c && startsBlank rest
  | [] => false

/-- Whether the line ends here, with a comment before its end or without. -/
def atLineEnd (p : Place) : Bool :=
  match p.rest with
  | [] => true
  | c :: _ => isBreak c || c == '#'

/-- The place of the next token, and whether a key may start there: it may after a line end
outside brackets.  A tab cannot stand where a key may start. -/
def toToken (inFlow : Bool) : Nat → Bool → Place → Place × Bool
  | 0, keys, p => (p, keys)
  | fuel + 1, keys, p =>
      match p.rest with
      | [] => (p, keys)
      | ' ' :: _ => toToken inFlow fuel keys p.next
      | '\t' :: _ => if inFlow || !keys then toToken inFlow fuel keys p.next else (p, keys)
      | '#' :: _ => toToken inFlow fuel keys p.lineEnd
      | c :: _ => if isBreak c then toToken inFlow fuel (keys || !inFlow) p.next else (p, keys)

/-- The place of the next token outside brackets, and whether a key may start there. -/
def token (keys : Bool) (p : Place) : Place × Bool := toToken false (p.rest.length + 1) keys p

/-- The place of the next token within brackets. -/
def flowToken (p : Place) : Place := (toToken true (p.rest.length + 1) false p).1

end Place
end Reachability.Yaml
