/-
# Shell scripts

The scripts of a shell: words with their quoting, redirections, and commands.

Main definitions:

* `Shell.Word` : a word before its expansion, a list of `Shell.Part`s;
* `Shell.Redirection` : where a command reads from and writes to;
* `Shell.Script` : a command, simple or made of others.
-/

namespace Reachability.Shell

/-! ## Words -/

/-- A part of a word.  What a quoted part stands for is not cut at its blanks. -/
inductive Part
  | char (c : Char) (quoted : Bool)
  /-- The value of a parameter. -/
  | parameter (name : List Char) (quoted : Bool)
  /-- The value of an expression on integers. -/
  | arithmetic (expression : List Char) (quoted : Bool)
  /-- What a script writes. -/
  | output (script : List Char) (quoted : Bool)
  /-- A text that a part was found to stand for. -/
  | value (text : List Char) (quoted : Bool)
  /-- Quotes with nothing between them. -/
  | emptyQuotes
deriving DecidableEq, Repr

/-- A word before its expansion. -/
abbrev Word := List Part

/-- The characters of a word that has no quotes and nothing to expand. -/
def Word.plain? (w : Word) : Option (List Char) :=
  w.mapM fun
    | .char c false => some c
    | _ => none

/-- The characters of a word as they stand, without its quotes. -/
def Word.chars (w : Word) : List Char :=
  w.flatMap fun
    | .char c _ => [c]
    | .value text _ => text
    | _ => []

/-- Whether some part of a word is quoted. -/
def Word.isQuoted (w : Word) : Bool :=
  w.any fun
    | .char _ quoted => quoted
    | .parameter _ quoted => quoted
    | .arithmetic _ quoted => quoted
    | .output _ quoted => quoted
    | .value _ quoted => quoted
    | .emptyQuotes => true

/-! ## Redirections -/

/-- Where a command reads from and writes to instead; descriptor 0 is read from, descriptors
1 and 2 are written to. -/
inductive Redirection
  /-- Reads from a file. -/
  | input (path : Word)
  /-- Reads a text of the script itself. -/
  | document (text : Word)
  /-- Writes to a file. -/
  | output (descriptor : Nat) (path : Word)
  /-- Writes to where another descriptor leads. -/
  | duplicate (descriptor : Nat) (source : Word)
deriving DecidableEq, Repr

/-! ## Commands -/

/-- A command. -/
inductive Script
  /-- Nothing at all, which goes well. -/
  | nothing
  /-- A program with its arguments, and the values that are set for it or for good. -/
  | simple (line : Nat) (settings : List (List Char × Word)) (words : List Word)
      (redirections : List Redirection)
  /-- One after the other. -/
  | sequence (first second : Script)
  /-- The second only if the first goes well. -/
  | both (first second : Script)
  /-- The second only if the first does not go well. -/
  | either (first second : Script)
  | negation (script : Script)
  /-- The second reads what the first writes. -/
  | pipe (first second : Script)
  /-- Not waited for. -/
  | background (script : Script)
  /-- In a shell of its own. -/
  | subshell (script : Script)
  | redirected (script : Script) (redirections : List Redirection)
  | choice (test yes no : Script)
  /-- As long as the test goes well, or as long as it does not. -/
  | loop (wanted : Bool) (test body : Script)
  /-- Once for each word; without words, for each argument. -/
  | each (name : List Char) (words : Option (List Word)) (body : Script)
deriving DecidableEq, Repr

end Reachability.Shell
