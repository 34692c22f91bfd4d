/-
# Printing YAML

Tables and lists are printed as blocks, two blanks for each level of tables.  A text is
unquoted where it reads back as itself.

Main definitions:

* `Yaml.scalarLines` : a text as a scalar, in the plainest form that reads back;
* `Yaml.print` : a document as a text.
-/
import Reachability.Document.Yaml.Scalar

namespace Reachability.Yaml

/-! ## Forms of texts -/

/-- Characters that are shown as they are. -/
def isPrintable (c : Char) : Bool :=
  let n := c.toNat
  n == 0x0a || (0x20 ≤ n && n ≤ 0x7e) || (0xa0 ≤ n && n ≤ 0xfffd && n ≠ 0xfeff) || 0x10000 ≤ n

/-- Characters that only an escape can show; a tab counts apart. -/
def isSpecial (c : Char) : Bool := !isPrintable c && c ≠ '\t'

/-- Whether an unquoted text would be taken for another type. -/
def readsAsOther (s : String) : Bool :=
  Word.isNull s || (Word.bool? s).isSome || Word.isNumber s || Word.hasSuperfluousZero s.toList

/-- Whether some character behind the first, with what stands before and behind it, means
something in a block. -/
def hasInnerIndicator : List Char → Bool
  | a :: b :: rest =>
      (b == ':' && startsBlank rest) || (b == '#' && (isBlank a || isBreak a)) ||
        hasInnerIndicator (b :: rest)
  | _ => false

/-- Whether a text starts with what means something in a block. -/
def hasLeadingIndicator (cs : List Char) : Bool :=
  match cs with
  | [] => false
  | c :: rest =>
      "#,[]\x7b\x7d&*!|>'\"%@`".toList.contains c ||
        ((c == '?' || c == ':' || c == '-') && startsBlank rest) ||
        cs.take 3 == "---".toList || cs.take 3 == "...".toList

/-- Whether a blank stands at an end of the text. -/
def hasOuterBlank (cs : List Char) : Bool :=
  cs.head? == some ' ' || cs.getLast? == some ' '

/-- Whether a blank stands before a line end. -/
def hasBlankBeforeBreak : List Char → Bool
  | a :: b :: rest => (a == ' ' && isBreak b) || hasBlankBeforeBreak (b :: rest)
  | _ => false

/-- Whether a blank stands behind a line end. -/
def hasBlankBehindBreak : List Char → Bool
  | a :: b :: rest => (isBreak a && b == ' ') || hasBlankBehindBreak (b :: rest)
  | _ => false

/-- Whether an unquoted text reads back as itself. -/
def canBePlain (cs : List Char) : Bool :=
  !cs.isEmpty && !hasOuterBlank cs && !cs.any isBreak && !cs.contains '\t' &&
    !cs.any isSpecial && !hasLeadingIndicator cs && !hasInnerIndicator cs

/-- Whether a text in single quotes reads back as itself. -/
def canBeSingleQuoted (cs : List Char) : Bool :=
  !hasBlankBeforeBreak cs && !hasBlankBehindBreak cs && !cs.contains '\t' && !cs.any isSpecial

/-- Whether the lines of a block read back as the text. -/
def canBeBlock (cs : List Char) : Bool :=
  cs.getLast? != some ' ' && !hasBlankBeforeBreak cs && !cs.any isSpecial

/-! ## Escapes -/

/-- A number in so many hexadecimal digits. -/
def hexDigits (count n : Nat) : List Char :=
  (List.range count).map fun i => Percent.hexDigit (n / Nat.pow 16 (count - 1 - i) % 16)

/-- A character of a text in double quotes. -/
def escaped (c : Char) : List Char :=
  let named : List (Char × Char) :=
    [('\x00', '0'), ('\x07', 'a'), ('\x08', 'b'), ('\t', 't'), ('\n', 'n'), ('\x0b', 'v'),
     ('\x0c', 'f'), ('\r', 'r'), ('\x1b', 'e'), ('"', '"'), ('\\', '\\'), ('\x85', 'N'),
     ('\xa0', '_'), ('\u2028', 'L'), ('\u2029', 'P')]
  if isPrintable c && !isBreak c && c ≠ '"' && c ≠ '\\' then [c]
  else match named.lookup c with
    | some e => ['\\', e]
    | none =>
        let n := c.toNat
        if n < 0x100 then '\\' :: 'x' :: hexDigits 2 n
        else if n < 0x10000 then '\\' :: 'u' :: hexDigits 4 n
        else '\\' :: 'U' :: hexDigits 8 n

/-- A text in double quotes. -/
def doubleQuoted (cs : List Char) : String :=
  "\"" ++ String.ofList (cs.flatMap escaped) ++ "\""

/-! ## Lines -/

/-- The lines of a text.  A line feed is left out; any other character that ends a line stays
at the end of its line. -/
def linesOf (cs : List Char) : List (List Char) :=
  cs.foldr (fun c lines =>
    if c = '\n' then [] :: lines
    else if isBreak c then [c] :: lines
    else match lines with
      | [] => [[c]]
      | line :: others => (c :: line) :: others) []

/-- A line two blanks further to the right, unless nothing but its end stands in it. -/
def indentedLine (line : String) : String :=
  match line.toList with
  | [] => line
  | c :: _ => if isBreak c then line else "  " ++ line

/-- Indents all lines. -/
def indented (lines : List String) : List String := lines.map indentedLine

/-- Puts a text before the first line and indents the others. -/
def behind (start : String) : List String → List String
  | [] => [start]
  | first :: others => (start ++ first) :: indented others

/-- Puts a text before the first line. -/
def onLine (start : String) : List String → List String
  | [] => [start]
  | first :: others => (start ++ first) :: others

/-- The lines of a text in single quotes, in which a quote is written twice. -/
def singleQuoted (cs : List Char) : List String :=
  let body := cs.flatMap fun c => if c = '\'' then ['\'', '\''] else [c]
  behind "'" ((linesOf (body ++ ['\''])).map String.ofList)

/-! ## Scalars -/

/-- The indicators behind the mark of a block: the indentation if the first line could not
show it, and what to do with the line ends at the end. -/
def blockHints (cs : List Char) : String :=
  let indentation :=
    if cs.head?.any fun c => c == ' ' || isBreak c then "2" else ""
  let chomping := match cs.reverse with
    | [] => "-"
    | c :: more =>
        if !isBreak c then "-"
        else match more with
          | [] => "+"
          | d :: _ => if isBreak d then "+" else ""
  indentation ++ chomping

/-- A text as a scalar: its first line, and the further lines, indented. -/
def scalarLines (s : String) : List String :=
  let cs := s.toList
  if cs.contains '\n' then
    if canBeBlock cs then
      ("|" ++ blockHints cs) :: indented ((linesOf cs).map String.ofList)
    else [doubleQuoted cs]
  else if canBePlain cs && !readsAsOther s then [s]
  else if canBeSingleQuoted cs then singleQuoted cs
  else [doubleQuoted cs]

/-! ## Documents -/

/-- The lines of an entry, from its key and the lines of its value.  A list stands under its
key as it is, a table indented. -/
def entryLines (name : String) (value : Document) (lines : List String) : List String :=
  let key := (scalarLines name).headD ""
  match value with
  | .list (_ :: _) => (key ++ ":") :: lines
  | .table (_ :: _) => (key ++ ":") :: indented lines
  | _ => onLine (key ++ ": ") lines

/-- The lines of an item of a list.  A list or a table in it is indented as far as its mark is
wide; the lines of a block are indented already. -/
def itemLines (value : Document) (lines : List String) : List String :=
  match value with
  | .list _ => behind "- " lines
  | .table _ => behind "- " lines
  | _ => onLine "- " lines

/-- A document in lines. -/
def documentLines : Document → List String
  | .list items =>
      if items.isEmpty then ["[]"]
      else (items.attach.map fun ⟨d, _⟩ => itemLines d (documentLines d)).flatten
  | .table entries =>
      if entries.isEmpty then ["\x7b\x7d"]
      else (entries.attach.map fun ⟨e, _⟩ => entryLines e.1 e.2 (documentLines e.2)).flatten
  | .null => ["null"]
  | .unreadable => ["null"]
  | .bool b => [if b then "true" else "false"]
  | .integer i => [Decimal.ofInt i]
  | .real x => [Decimal.plain x]
  | .text s => scalarLines s
  | .word w => [w]
termination_by d => sizeOf d
decreasing_by
  · have := List.sizeOf_lt_of_mem (by assumption)
    simp +arith
    omega
  · rename_i h
    have h1 := List.sizeOf_lt_of_mem h
    have h2 : sizeOf e.2 < sizeOf e := by cases e; simp +arith
    simp +arith
    omega

/-- A line with its end, which it may have brought along. -/
def ended (line : String) : String :=
  if line.toList.getLast?.any isBreak then line else line ++ "\n"

/-- A document as a text. -/
def print (d : Document) : String :=
  String.join ((documentLines d).map ended)

end Reachability.Yaml
