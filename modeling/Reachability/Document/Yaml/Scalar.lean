/-
# Scalars of YAML

A scalar is a text: unquoted words, a text in quotes, or the indented lines of a block.
Where a scalar goes on in the next line, a single line end counts as a blank, and of several
all but the first are kept.

Main definitions:

* `Yaml.plain?` : unquoted words;
* `Yaml.singleQuoted?`, `Yaml.doubleQuoted?` : texts in quotes;
* `Yaml.block?` : the lines of a block, kept or folded.
-/
import Reachability.Document.Yaml.Place

namespace Reachability.Yaml

/-! ## Lines that go on -/

/-- White space between two words: the blanks if they are in one line, else what the line
ends stand for. -/
structure Gap where
  /-- The blanks, last first, as long as no line ended. -/
  blanks : List Char := []
  /-- What the line ends stand for, last first. -/
  breaks : List Char := []

/-- What stands in a value for a gap, last first. -/
def Gap.filling (g : Gap) : List Char :=
  match g.breaks.reverse with
  | [] => g.blanks
  | ['\n'] => [' ']
  | '\n' :: more => more.reverse
  | _ => g.breaks

/-- The gap at a place and the place behind it.  Where a line goes on, no tab may stand
before the given column. -/
def gap? (indent : Nat) : Nat → Gap → Place → Option (Gap × Place)
  | 0, _, _ => none
  | fuel + 1, g, p =>
      match p.rest with
      | [] => some (g, p)
      | c :: _ =>
          if isBreak c then gap? indent fuel ⟨[], p.breakChar :: g.breaks⟩ p.next
          else if isBlank c then
            if g.breaks.isEmpty then gap? indent fuel ⟨c :: g.blanks, []⟩ p.next
            else if c = '\t' ∧ p.column < indent then none
            else gap? indent fuel g p.next
          else some (g, p)

/-! ## Unquoted words -/

/-- The characters that mean something in brackets. -/
def isFlowIndicator (c : Char) : Bool :=
  c == ',' || c == '[' || c == ']' || c == '\x7b' || c == '\x7d'

/-- Whether an unquoted word may start here. -/
def startsPlain (inFlow : Bool) : List Char → Bool
  | [] => false
  | c :: rest =>
      if c = '-' then !rest.head?.any isBlank
      else if c = '?' ∨ c = ':' then !inFlow && !startsBlank rest
      else !(isBlank c || isBreak c || isFlowIndicator c || "#&*!|>'\"%@`".toList.contains c)

/-- A word: the characters up to white space, a colon before white space, or, in brackets,
one of their indicators.  In brackets, a colon may not stand before an indicator. -/
def word? (inFlow : Bool) : Nat → List Char → Place → Option (List Char × Place)
  | 0, _, _ => none
  | fuel + 1, acc, p =>
      match p.rest with
      | [] => some (acc, p)
      | c :: rest =>
          if isBlank c || isBreak c then some (acc, p)
          else if c = ':' ∧ startsBlank rest then some (acc, p)
          else if inFlow && c == ':' && rest.head?.any (fun d => isFlowIndicator d || d == '?') then
            none
          else if inFlow && isFlowIndicator c then some (acc, p)
          else word? inFlow fuel (c :: acc) p.next

/-- Words with gaps between them.  Outside brackets, a line that goes on is indented deeper
than `indent`. -/
def words? (inFlow : Bool) (indent : Nat) : Nat → List Char → Place → Option (List Char × Place)
  | 0, _, _ => none
  | fuel + 1, acc, p => do
      let (acc, afterWord) ← word? inFlow (p.rest.length + 1) acc p
      let (g, q) ← gap? indent (afterWord.rest.length + 1) {} afterWord
      let goesOn :=
        q.rest.length < afterWord.rest.length && (inFlow || indent ≤ q.column) && !q.atEnd &&
          match q.rest with
          | '#' :: _ => false
          | ':' :: rest => !startsBlank rest
          | c :: _ => !(inFlow && isFlowIndicator c)
          | [] => false
      if goesOn then words? inFlow indent fuel (g.filling ++ acc) q
      else some (acc, afterWord)

/-- Unquoted words.  Lines that go on have at least the given column. -/
def plain? (inFlow : Bool) (indent : Nat) (p : Place) : Option (String × Place) :=
  (words? inFlow indent (p.rest.length + 1) [] p).map fun (acc, q) =>
    (String.ofList acc.reverse, q)

/-! ## Quoted texts -/

/-- The text in single quotes, in which a quote is written twice. -/
def singleQuotedRest? : Nat → List Char → Place → Option (List Char × Place)
  | 0, _, _ => none
  | fuel + 1, acc, p =>
      if p.atMarker then none
      else match p.rest with
        | [] => none
        | '\'' :: '\'' :: _ => singleQuotedRest? fuel ('\'' :: acc) (p.drop 2)
        | '\'' :: _ => some (acc, p.next)
        | c :: _ =>
            if isBlank c || isBreak c then do
              let (g, q) ← gap? 0 (p.rest.length + 1) {} p
              singleQuotedRest? fuel (g.filling ++ acc) q
            else singleQuotedRest? fuel (c :: acc) p.next

/-- A text in single quotes, behind the opening quote. -/
def singleQuoted? (p : Place) : Option (String × Place) :=
  (singleQuotedRest? (p.rest.length + 1) [] p).map fun (acc, q) => (String.ofList acc.reverse, q)

/-- The character of a hexadecimal escape. -/
def hexEscape? (count : Nat) (cs : List Char) : Option Char := do
  let digits := cs.take count
  if digits.length < count then none
  else
    let n := (← digits.mapM Percent.hexValue?).foldl (fun v d => v * 16 + d) 0
    if h : n.isValidChar then some (Char.ofNatAux n h) else none

/-- The character that an escape stands for, and the length of the escape. -/
def escape? : List Char → Option (Char × Nat)
  | [] => none
  | c :: rest =>
      match c with
      | '0' => some ('\x00', 1)
      | 'a' => some ('\x07', 1)
      | 'b' => some ('\x08', 1)
      | 't' => some ('\t', 1)
      | '\t' => some ('\t', 1)
      | 'n' => some ('\n', 1)
      | 'v' => some ('\x0b', 1)
      | 'f' => some ('\x0c', 1)
      | 'r' => some ('\r', 1)
      | 'e' => some ('\x1b', 1)
      | ' ' => some (' ', 1)
      | '"' => some ('"', 1)
      | '/' => some ('/', 1)
      | '\\' => some ('\\', 1)
      | 'N' => some ('\x85', 1)
      | '_' => some ('\xa0', 1)
      | 'L' => some ('\u2028', 1)
      | 'P' => some ('\u2029', 1)
      | 'x' => (hexEscape? 2 rest).map (·, 3)
      | 'u' => (hexEscape? 4 rest).map (·, 5)
      | 'U' => (hexEscape? 8 rest).map (·, 9)
      | _ => none

/-- The text in double quotes, in which a backslash starts an escape. -/
def doubleQuotedRest? : Nat → List Char → Place → Option (List Char × Place)
  | 0, _, _ => none
  | fuel + 1, acc, p =>
      if p.atMarker then none
      else match p.rest with
        | [] => none
        | '"' :: _ => some (acc, p.next)
        | '\\' :: rest =>
            if rest.head?.any isBreak then do
              -- An escaped line end joins the lines; only further ones are kept.
              let (g, q) ← gap? 0 (p.rest.length + 1) {} p.next.next
              doubleQuotedRest? fuel (g.breaks ++ acc) q
            else do
              let (c, length) ← escape? rest
              doubleQuotedRest? fuel (c :: acc) (p.drop (length + 1))
        | c :: _ =>
            if isBlank c || isBreak c then do
              let (g, q) ← gap? 0 (p.rest.length + 1) {} p
              doubleQuotedRest? fuel (g.filling ++ acc) q
            else doubleQuotedRest? fuel (c :: acc) p.next

/-- A text in double quotes, behind the opening quote. -/
def doubleQuoted? (p : Place) : Option (String × Place) :=
  (doubleQuotedRest? (p.rest.length + 1) [] p).map fun (acc, q) => (String.ofList acc.reverse, q)

/-! ## Blocks -/

/-- Which line ends at the end of a block belong to it. -/
inductive Chomping
  | strip
  | clip
  | keep
deriving DecidableEq, Repr

/-- The header of a block: its chomping, and its indentation if that is given. -/
structure BlockHeader where
  chomping : Chomping := .clip
  indentation : Option Nat := none

/-- Reads the indicators of a header, each at most once. -/
def blockHeader? (p : Place) : Option (BlockHeader × Place) :=
  let chomping? (c : Char) : Option Chomping :=
    if c = '+' then some .keep else if c = '-' then some .strip else none
  let digit? (c : Char) : Option Nat :=
    if '1' ≤ c ∧ c ≤ '9' then some (Decimal.digitValue c) else none
  match p.rest with
  | c :: rest =>
      match chomping? c with
      | some chomping =>
          match rest.head?.bind digit? with
          | some n => some (⟨chomping, some n⟩, p.drop 2)
          | none => if rest.head? = some '0' then none else some (⟨chomping, none⟩, p.drop 1)
      | none =>
          if c = '0' then none
          else match digit? c with
            | some n =>
                match rest.head?.bind chomping? with
                | some chomping => some (⟨chomping, some n⟩, p.drop 2)
                | none => some (⟨.clip, some n⟩, p.drop 1)
            | none => some ({}, p)
  | [] => some ({}, p)

/-- The line ends of empty lines, last first, and the place behind them.  Without a fixed
indentation, the largest number of blanks is counted along. -/
def emptyLines? (indentation : Option Nat) :
    Nat → Nat → List Char → Place → Option (Nat × List Char × Place)
  | 0, _, _, _ => none
  | fuel + 1, deepest, breaks, p =>
      let blanks := (p.rest.takeWhile (· == ' ')).length
      let taken := match indentation with
        | some n => min blanks (n - p.column)
        | none => blanks
      let q := p.drop taken
      let deepest := max deepest q.column
      let short := match indentation with
        | some n => q.column < n
        | none => true
      match q.rest with
      | c :: _ =>
          if short && c == '\t' then none
          else if isBreak c then
            emptyLines? indentation fuel deepest (q.breakChar :: breaks) q.next
          else some (deepest, breaks, q)
      | [] => some (deepest, breaks, q)

/-- What was read of a block: the text, the last line end, and the line ends of the empty
lines behind it, each last first. -/
structure BlockText where
  text : List Char
  lastBreak : List Char
  breaks : List Char
  /-- Whether the last line started with a blank. -/
  startedBlank : Bool

/-- What joins a line to the next one. -/
def BlockText.joined (b : BlockText) (folded nextBlank : Bool) : List Char :=
  if folded && b.lastBreak == ['\n'] && !b.startedBlank && !nextBlank then
    if b.breaks.isEmpty then ' ' :: b.text else b.breaks ++ b.text
  else b.breaks ++ b.lastBreak ++ b.text

/-- The lines of a block from the first one with the block's indentation on. -/
def blockLines? (folded : Bool) (indentation : Nat) :
    Nat → BlockText → Place → Option (BlockText × Place)
  | 0, _, _ => none
  | fuel + 1, b, p =>
      if p.column ≠ indentation || p.rest.isEmpty then some (b, p)
      else do
        let startsBlank := p.rest.head?.any isBlank
        let content := p.rest.takeWhile fun c => !isBreak c
        let q := p.lineEnd
        let text := content.reverse ++ b.joined folded startsBlank
        let lastBreak := if q.rest.isEmpty then [] else [q.breakChar]
        let (_, breaks, r) ←
          emptyLines? (some indentation) (q.rest.length + 1) 0 [] q.next
        blockLines? folded indentation fuel ⟨text, lastBreak, breaks, startsBlank⟩ r

/-- A block, behind its opening indicator, in a value whose own indentation is `indent`. -/
def block? (folded : Bool) (indent : Int) (p : Place) : Option (String × Place) := do
  let (header, q) ← blockHeader? p
  let q := q.skipBlanks
  if !q.atLineEnd then none
  else
    let q := q.lineEnd.next
    let own := max 0 indent
    let fixed := header.indentation.map fun n => (own + n).toNat
    let (deepest, breaks, r) ← emptyLines? fixed (q.rest.length + 1) 0 [] q
    let indentation := fixed.getD (max (max deepest (indent + 1).toNat) 1)
    let (b, r) ← blockLines? folded indentation (r.rest.length + 1) ⟨[], [], breaks, false⟩ r
    let text := match header.chomping with
      | .strip => b.text
      | .clip => b.lastBreak ++ b.text
      | .keep => b.breaks ++ b.lastBreak ++ b.text
    some (String.ofList text.reverse, r.lineStart)

end Reachability.Yaml
