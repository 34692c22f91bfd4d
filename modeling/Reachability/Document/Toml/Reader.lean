/-
# Reading TOML

A TOML text is a list of lines: headers of tables, and values under keys.

Main definitions:

* `Toml.read` : the document of a text, or what is wrong with it;
* `Toml.Problem.report` : a problem in words, with the line that shows it.
-/
import Reachability.Document.Toml.Scalar
import Reachability.Document.Toml.Tree

namespace Reachability.Toml

/-! ## Keys -/

/-- One part of a key: unquoted, or a string on one line. -/
def keyPart (cs : List Char) : Parsed String :=
  match cs with
  | '"' :: rest => lineString '"' true (rest.length + 1) [] rest
  | '\'' :: rest => lineString '\'' false (rest.length + 1) [] rest
  | _ =>
      let name := cs.takeWhile isBareKey
      if name.isEmpty then fail cs ["invalid key"]
      else .ok (String.ofList name, cs.drop name.length)

/-- A key and tables may not have more parts or nest deeper than this. -/
def depthLimit : Nat := 80

/-- The parts of a key with points between them, blanks around the parts allowed. -/
def keyParts : Nat → List Char → Except Problem (List String × List Char)
  | 0, cs => fail cs ["recursion limit exceeded"]
  | fuel + 1, cs => do
      let (name, rest) ← keyPart (skipBlanks cs)
      match skipBlanks rest with
      | '.' :: more => do
          let (names, rest) ← keyParts fuel more
          return (name :: names, rest)
      | rest => return ([name], rest)

/-- A key. -/
def key (cs : List Char) : Except Problem (List String × List Char) := keyParts (depthLimit - 1) cs

/-! ## Comments and line ends -/

/-- The text after a comment, which ends before the line end. -/
def skipComment (cs : List Char) : List Char :=
  match cs with
  | '#' :: rest => rest.dropWhile isPrintable
  | _ => cs

/-- The text after the end of a line, with a comment before it or without. -/
def endOfLine? (cs : List Char) : Option (List Char) :=
  match skipComment (skipBlanks cs) with
  | [] => some []
  | rest => lineEnd? rest

/-- The text after blanks, comments and line ends, as they may stand in a list. -/
def skipLines : Nat → List Char → List Char
  | 0, cs => cs
  | fuel + 1, cs =>
      let rest := skipComment (skipBlanks cs)
      match lineEnd? rest with
      | some rest => skipLines fuel rest
      | none => rest

/-! ## Values -/

mutual

/-- A value at the start of the text; lists and tables in it may nest as deep as the depth
says. -/
def value : Nat → Nat → List Char → Except Problem (Document × List Char)
  | 0, _, cs => fail cs ["recursion limit exceeded"]
  | fuel + 1, depth, cs =>
      match cs with
      | '"' :: _ => Except.map (fun (s, rest) => (Document.text s, rest)) (string cs)
      | '\'' :: _ => Except.map (fun (s, rest) => (Document.text s, rest)) (string cs)
      | '[' :: rest =>
          if depth = 0 then fail cs ["recursion limit exceeded"]
          else items fuel (depth - 1) [] rest
      | '\x7b' :: rest =>
          if depth = 0 then fail cs ["recursion limit exceeded"]
          else match skipBlanks rest with
            | '\x7d' :: rest => .ok (.table [], rest)
            | rest => inlineEntries fuel (depth - 1) [] rest
      | _ => scalar cs

/-- The items of a list up to its closing bracket; a comma may follow the last one. -/
def items : Nat → Nat → List Document → List Char → Except Problem (Document × List Char)
  | 0, _, _, cs => fail cs ["invalid array"]
  | fuel + 1, depth, acc, cs =>
      match skipLines cs.length cs with
      | ']' :: rest => .ok (.list acc.reverse, rest)
      | cs => do
          let (item, rest) ← value fuel depth cs
          match skipLines rest.length rest with
          | ',' :: rest => items fuel depth (item :: acc) rest
          | ']' :: rest => .ok (.list (item :: acc).reverse, rest)
          | rest => fail rest ["invalid array", "expected `]`"]

/-- The entries of an inline table up to its closing brace, all on one line. -/
def inlineEntries : Nat → Nat → Entries → List Char → Except Problem (Document × List Char)
  | 0, _, _, cs => fail cs ["invalid inline table"]
  | fuel + 1, depth, acc, cs => do
      let (names, rest) ← key cs
      match rest with
      | '=' :: rest => do
          let (d, after) ← value fuel depth (skipBlanks rest)
          match put? (1 < names.length) false acc names d with
          | none => fail cs ["duplicate key"]
          | some acc =>
              match skipBlanks after with
              | ',' :: rest => inlineEntries fuel depth acc rest
              | '\x7d' :: rest => .ok (acc.finish, rest)
              | rest => fail rest ["invalid inline table", "expected `\x7d`"]
      | rest => fail rest ["expected `.`, `=`"]

end

/-! ## Lines -/

/-- What was read so far: the root table, and the path of the table that is open. -/
structure Progress where
  root : Entries
  path : List String

/-- The text after the closing brackets of a header and the end of its line. -/
def closeHeader (closing : List Char) (notes : List String) (cs : List Char) :
    Except Problem (List Char) :=
  match Text.after? closing cs with
  | none => fail cs ("invalid table header" :: notes)
  | some rest =>
      match endOfLine? rest with
      | some rest => .ok rest
      | none => fail (skipBlanks rest) ["invalid table header", "expected newline, `#`"]

/-- A header, at its opening bracket. -/
def header (p : Progress) (cs : List Char) : Except Problem (Progress × List Char) := do
  match cs with
  | '[' :: '[' :: rest =>
      let (path, rest) ← key rest
      let rest ← closeHeader [']', ']'] ["expected `.`, `]]`"] rest
      match openItem? p.root path with
      | some root => return (⟨root, path⟩, rest)
      | none => fail cs ["invalid table header", "duplicate key"]
  | _ =>
      let (path, rest) ← key (cs.drop 1)
      let rest ← closeHeader [']'] ["expected `.`, `]`"] rest
      match openTable? p.root path with
      | some root => return (⟨root, path⟩, rest)
      | none => fail cs ["invalid table header", "duplicate key"]

/-- A value under a key, with the end of its line. -/
def entry (p : Progress) (cs : List Char) : Except Problem (Progress × List Char) := do
  let (names, rest) ← key cs
  match rest with
  | '=' :: rest =>
      let (d, rest) ← value (2 * rest.length + 2) depthLimit (skipBlanks rest)
      match endOfLine? rest with
      | none => fail (skipBlanks rest) ["expected newline, `#`"]
      | some rest =>
          match change? (fun entries => put? (1 < names.length) false entries names d)
              p.root p.path with
          | some root => return ({ p with root }, rest)
          | none => fail cs ["duplicate key"]
  | rest => fail rest ["expected `.`, `=`"]

/-- The lines of a text, one after the other. -/
def lines : Nat → Progress → List Char → Except Problem Progress
  | 0, p, _ => .ok p
  | fuel + 1, p, cs => do
      match skipBlanks cs with
      | [] => return p
      | '[' :: rest =>
          let (p, rest) ← header p ('[' :: rest)
          lines fuel p rest
      | '#' :: rest =>
          match endOfLine? ('#' :: rest) with
          | some rest => lines fuel p rest
          | none => fail (skipComment ('#' :: rest)) ["invalid comment"]
      | c :: rest =>
          match lineEnd? (c :: rest) with
          | some rest => lines fuel p rest
          | none => do
              let (p, rest) ← entry p (c :: rest)
              lines fuel p rest

/-- A byte order mark at the start is no part of the text. -/
def withoutMark (cs : List Char) : List Char :=
  match cs with
  | '\ufeff' :: rest => rest
  | _ => cs

/-- The document of a text. -/
def read (text : String) : Except Problem Document := do
  let cs := withoutMark text.toList
  let p ← lines (cs.length + 1) ⟨[], []⟩ cs
  return p.root.finish

/-! ## Problems in words -/

/-- The report of a problem in a text: the place, the line with a mark under the place, and
what was expected there. -/
def Problem.report (p : Problem) (text : String) : String :=
  let cs := text.toList
  let before := cs.take (cs.length - p.remaining)
  let number := Decimal.ofNat (before.count '\n' + 1)
  let column := (Text.afterLast (· == '\n') before).length
  let line := Text.afterLast (· == '\n') before ++
    (cs.drop before.length).takeWhile fun c => c ≠ '\n' && c ≠ '\r'
  let gutter := "".pushn ' ' (number.length + 1)
  "\n".intercalate
    (["TOML parse error at line " ++ number ++ ", column " ++ Decimal.ofNat (column + 1),
      gutter ++ "|",
      number ++ " | " ++ String.ofList line,
      gutter ++ "|" ++ "".pushn ' ' (column + 1) ++ "^"] ++ p.notes ++ [""])

end Reachability.Toml
