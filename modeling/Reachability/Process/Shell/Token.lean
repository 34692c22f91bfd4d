/-
# Tokens of scripts

A script is cut into words, operators and redirections.  The texts of here-documents are
taken from the lines below the line that announces them.

Main definitions:

* `Shell.Token` : words, operators and redirections;
* `Shell.Lexeme` : a token with the number of its line;
* `Shell.lexemes?` : the tokens of a script.
-/
import Reachability.Process.Shell.Script
import Reachability.Text.Split

namespace Reachability.Shell

/-! ## Tokens -/

/-- A piece of a script. -/
inductive Token
  | word (w : Word)
  /-- A separator between commands, or a parenthesis. -/
  | operator (text : String)
  /-- The target of a redirection follows: of input, of output, of a duplicate. -/
  | input
  | output (descriptor : Nat)
  | duplicate (descriptor : Nat)
  | document (text : Word)
deriving DecidableEq, Repr

/-- A token with the number of its line. -/
structure Lexeme where
  line : Nat
  token : Token
deriving DecidableEq, Repr

/-! ## Names -/

/-- The characters that names start with. -/
def startsName (c : Char) : Bool := c.isAlpha || c == '_'

/-- The characters that names go on with. -/
def continuesName (c : Char) : Bool := c.isAlphanum || c == '_'

/-- The characters that name a parameter on their own. -/
def isSpecialParameter (c : Char) : Bool := c.isDigit || "?#@*$!-".toList.contains c

/-- The characters that end a word. -/
def endsWord (c : Char) : Bool := " \t\n;&|<>()".toList.contains c

/-! ## Substitutions -/

/-- Where a text stands with its quotes. -/
inductive Quotes
  | outside
  | single
  | double
deriving DecidableEq, Repr

/-- The text up to the parenthesis that closes `depth` open ones and one more, and what
follows it. -/
def closing (depth : Nat) (quotes : Quotes) : List Char → Option (List Char × List Char)
  | [] => none
  | '\\' :: c :: cs =>
      if quotes = .single then (closing depth (if c = '\'' then .outside else .single) cs).map
        fun (text, rest) => ('\\' :: c :: text, rest)
      else (closing depth quotes cs).map fun (text, rest) => ('\\' :: c :: text, rest)
  | c :: cs =>
      if c = ')' ∧ quotes = .outside ∧ depth = 0 then some ([], cs)
      else
        let depth := if quotes ≠ .outside then depth
          else if c = '(' then depth + 1 else if c = ')' then depth - 1 else depth
        let quotes := match quotes, c with
          | .outside, '\'' => .single
          | .outside, '"' => .double
          | .single, '\'' => .outside
          | .double, '"' => .outside
          | _, _ => quotes
        (closing depth quotes cs).map fun (text, rest) => (c :: text, rest)

/-- What a dollar sign with the text behind it stands for. -/
def dollar (quoted : Bool) (cs : List Char) : Option (Part × List Char) :=
  match cs with
  | '(' :: '(' :: rest =>
      match closing 0 .outside rest with
      | some (expression, ')' :: rest) => some (.arithmetic expression quoted, rest)
      | _ => none
  | '(' :: rest => (closing 0 .outside rest).map fun (script, rest) =>
      (.output script quoted, rest)
  | '{' :: rest => (Text.cutFirst? '}' rest).map fun (name, rest) =>
      (.parameter name quoted, rest)
  | c :: rest =>
      if isSpecialParameter c then some (.parameter [c] quoted, rest)
      else if startsName c then
        some (.parameter (cs.takeWhile continuesName) quoted, cs.dropWhile continuesName)
      else some (.char '$' quoted, cs)
  | [] => some (.char '$' quoted, [])

/-- The script between backticks, from behind the first one. -/
def backticks : List Char → Option (List Char × List Char)
  | [] => none
  | '\x60' :: cs => some ([], cs)
  | '\\' :: c :: cs =>
      let kept := if c = '\x60' || c = '\\' || c = '$' then [c] else ['\\', c]
      (backticks cs).map fun (text, rest) => (kept ++ text, rest)
  | c :: cs => (backticks cs).map fun (text, rest) => (c :: text, rest)

/-! ## Quotes -/

/-- The parts up to a double quote, or to the end if there is to be none. -/
def doubleQuoted (closed : Bool) : Nat → List Char → Option (Word × List Char)
  | 0, _ => none
  | fuel + 1, cs =>
      let go (part : List Part) (rest : List Char) :=
        (doubleQuoted closed fuel rest).map fun (w, rest) => (part ++ w, rest)
      match cs with
      | [] => if closed then none else some ([], [])
      | '\\' :: '\n' :: rest => go [] rest
      | '\\' :: c :: rest =>
          if c = '$' || c = '\x60' || c = '\\' || (closed && c = '"') then go [.char c true] rest
          else go [.char '\\' true, .char c true] rest
      | '$' :: rest => (dollar true rest).bind fun (part, rest) => go [part] rest
      | '\x60' :: rest =>
          (backticks rest).bind fun (script, rest) => go [.output script true] rest
      | c :: rest => if closed && c = '"' then some ([], rest) else go [.char c true] rest

/-- Quoted parts, of which something stays if there is none. -/
def inQuotes (w : Word) : Word := if w.isEmpty then [.emptyQuotes] else w

/-- The parts of a word, and what follows it. -/
def word : Nat → List Char → Option (Word × List Char)
  | 0, _ => none
  | fuel + 1, cs =>
      let go (part : List Part) (rest : List Char) :=
        (word fuel rest).map fun (w, rest) => (part ++ w, rest)
      match cs with
      | [] => some ([], [])
      | '\\' :: '\n' :: rest => go [] rest
      | '\\' :: c :: rest => go [.char c true] rest
      | '\'' :: rest => (Text.cutFirst? '\'' rest).bind fun (text, rest) =>
          go (inQuotes (text.map fun c => .char c true)) rest
      | '"' :: rest => (doubleQuoted true (rest.length + 1) rest).bind fun (w, rest) =>
          go (inQuotes w) rest
      | '$' :: rest => (dollar false rest).bind fun (part, rest) => go [part] rest
      | '\x60' :: rest =>
          (backticks rest).bind fun (script, rest) => go [.output script false] rest
      | c :: rest => if endsWord c then some ([], cs) else go [.char c false] rest

/-! ## Here-documents -/

/-- The text up to a line that is the delimiter, and the lines below it; without such a line
the document goes on to the end. -/
def documentLines (stripped : Bool) (delimiter : List Char) :
    List (List Char) → List Char × List (List Char)
  | [] => ([], [])
  | line :: lines =>
      let line := if stripped then line.dropWhile (· = '\t') else line
      if line = delimiter then ([], lines)
      else
        let (text, rest) := documentLines stripped delimiter lines
        (if lines.isEmpty then line else line ++ '\n' :: text, rest)

/-- The text of a here-document that is announced on a line, and the script without it: the
rest of that line, then the lines below the document. -/
def document (stripped : Bool) (delimiter : Word) (cs : List Char) :
    Option (Word × List Char) := do
  let (line, below) := (Text.cutFirst? '\n' cs).getD (cs, [])
  let (text, rest) := documentLines stripped delimiter.chars (Text.fields '\n' below)
  let parts ← if delimiter.isQuoted then some (text.map fun c => .char c true)
    else (doubleQuoted false (text.length + 1) text).map (·.1)
  return (parts, line ++ '\n' :: ['\n'].intercalate rest)

/-! ## Scripts -/

/-- A redirection from behind its sign. -/
def redirection (descriptor : Nat) (sign : Char) (cs : List Char) :
    Option (Token × List Char) :=
  let announced (stripped : Bool) (rest : List Char) : Option (Token × List Char) := do
    let rest := rest.dropWhile fun c => c = ' ' || c = '\t'
    let (delimiter, rest) ← word (rest.length + 1) rest
    let (text, rest) ← document stripped delimiter rest
    return (.document text, rest)
  match sign, cs with
  | '>', '&' :: rest => some (.duplicate descriptor, rest)
  | '>', '>' :: rest => some (.output descriptor, rest)
  | '>', '|' :: rest => some (.output descriptor, rest)
  | '>', rest => some (.output descriptor, rest)
  | _, '<' :: '-' :: rest => announced true rest
  | _, '<' :: rest => announced false rest
  | _, '&' :: rest => some (.duplicate 0, rest)
  | _, rest => some (.input, rest)

/-- The digit that names a descriptor in front of a redirection. -/
def descriptor? : List Char → Option (Nat × Char × List Char)
  | '<' :: rest => some (0, '<', rest)
  | '>' :: rest => some (1, '>', rest)
  | d :: '<' :: rest => if d.isDigit then some (d.toNat - 48, '<', rest) else none
  | d :: '>' :: rest => if d.isDigit then some (d.toNat - 48, '>', rest) else none
  | _ => none

/-- The tokens of a script from a line on. -/
def lex : Nat → Nat → List Char → Option (List Lexeme)
  | 0, _, _ => none
  | fuel + 1, line, cs =>
      let operator (text : String) (rest : List Char) (next : Nat) :=
        (lex fuel next rest).map (⟨line, .operator text⟩ :: ·)
      match cs with
      | [] => some []
      | ' ' :: rest => lex fuel line rest
      | '\t' :: rest => lex fuel line rest
      | '\\' :: '\n' :: rest => lex fuel (line + 1) rest
      | '#' :: rest => lex fuel line (rest.dropWhile (· ≠ '\n'))
      | '\n' :: rest => operator "\n" rest (line + 1)
      | '&' :: '&' :: rest => operator "&&" rest line
      | '|' :: '|' :: rest => operator "||" rest line
      | ';' :: ';' :: rest => operator ";;" rest line
      | _ => match descriptor? cs with
        | some (descriptor, sign, rest) =>
            (redirection descriptor sign rest).bind fun (token, rest) =>
              (lex fuel line rest).map (⟨line, token⟩ :: ·)
        | none => match cs with
          | c :: rest =>
              if endsWord c then operator (String.singleton c) rest line
              else (word (cs.length + 1) cs).bind fun (w, rest) =>
                let taken := cs.take (cs.length - rest.length)
                (lex fuel (line + taken.count '\n') rest).map (⟨line, .word w⟩ :: ·)
          | [] => some []

/-- The tokens of a script; none if its quotes or parentheses stay open. -/
def lexemes? (script : List Char) : Option (List Lexeme) :=
  lex (2 * script.length + 1) 1 script

end Reachability.Shell
