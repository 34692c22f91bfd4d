/-
# Reading scripts

From the tokens of a script to its commands.

Main definitions:

* `Shell.Script.parse?` : the script that a text is, or none if it is no script.
-/
import Reachability.Process.Shell.Token

namespace Reachability.Shell

/-! ## Simple commands -/

/-- The name and the value of a word that sets one. -/
def setting? (w : Word) : Option (List Char × Word) :=
  let name := w.takeWhile fun
    | .char c false => continuesName c
    | _ => false
  match name, w.drop name.length with
  | .char c false :: _, .char '=' false :: value =>
      if startsName c then (Word.plain? name).map fun name => (name, value) else none
  | _, _ => none

/-- What a simple command is made of. -/
structure Simple where
  settings : List (List Char × Word) := []
  words : List Word := []
  redirections : List Redirection := []

/-- A simple command without anything. -/
def Simple.isEmpty (s : Simple) : Bool :=
  s.settings.isEmpty && s.words.isEmpty && s.redirections.isEmpty

/-- The redirection of a token with the word behind it. -/
def redirection? (t : Token) (target : Option Word) : Option (Redirection × Bool) :=
  match t, target with
  | .document text, _ => some (.document text, false)
  | .input, some w => some (.input w, true)
  | .output descriptor, some w => some (.output descriptor w, true)
  | .duplicate descriptor, some w => some (.duplicate descriptor w, true)
  | _, _ => none

/-- The redirections at the start, and what follows them. -/
def redirections : Nat → List Lexeme → List Redirection × List Lexeme
  | 0, ts => ([], ts)
  | fuel + 1, ts =>
      match ts with
      | [] => ([], [])
      | t :: rest =>
          let target := match rest with
            | ⟨_, .word w⟩ :: _ => some w
            | _ => none
          match redirection? t.token target with
          | some (r, taken) =>
              let (more, rest) := redirections fuel (if taken then rest.drop 1 else rest)
              (r :: more, rest)
          | none => ([], ts)

/-- The words and redirections of a simple command, and what follows them. -/
def simple : Nat → List Lexeme → Simple × List Lexeme
  | 0, ts => ({}, ts)
  | fuel + 1, ts =>
      match ts with
      | ⟨_, .word w⟩ :: rest =>
          let (s, rest) := simple fuel rest
          ({ s with words := w :: s.words }, rest)
      | _ =>
          match redirections ts.length ts with
          | ([], ts) => ({}, ts)
          | (rs, rest) =>
              let (s, rest) := simple fuel rest
              ({ s with redirections := rs ++ s.redirections }, rest)

/-- Takes the words that set something from the start of a command. -/
def Simple.withSettings (s : Simple) : Simple :=
  let settings := (s.words.takeWhile fun w => (setting? w).isSome).filterMap setting?
  { s with settings, words := s.words.drop settings.length }

/-! ## Reserved words -/

/-- The plain word at the start. -/
def keyword? : List Lexeme → Option String
  | ⟨_, .word w⟩ :: _ => w.plain?.map String.ofList
  | _ => none

/-- What follows a reserved word at the start. -/
def expect (keyword : String) (ts : List Lexeme) : Option (List Lexeme) :=
  if keyword? ts = some keyword then some (ts.drop 1) else none

/-- Whether an operator stands at the start. -/
def startsWith (operator : String) : List Lexeme → Bool
  | ⟨_, .operator text⟩ :: _ => text == operator
  | _ => false

/-- The words that end a list of commands. -/
def closers : List String := ["\x7d", "then", "else", "elif", "fi", "do", "done"]

/-- Whether a list of commands ends here. -/
def closes (ts : List Lexeme) : Bool :=
  ts.isEmpty || startsWith ")" ts || (keyword? ts).any closers.contains

/-- Drops the line ends at the start. -/
def skipLines (ts : List Lexeme) : List Lexeme :=
  ts.dropWhile fun t => t.token == .operator "\n"

/-- The words at the start, and what follows them. -/
def wordsOf (ts : List Lexeme) : List Word × List Lexeme :=
  let words := ts.map fun t => match t.token with
    | .word w => some w
    | _ => none
  let taken := (words.takeWhile Option.isSome).filterMap id
  (taken, ts.drop taken.length)

/-! ## Commands -/

mutual

/-- Commands one after the other, and what follows them. -/
def commands : Nat → List Lexeme → Option (Script × List Lexeme)
  | 0, _ => none
  | fuel + 1, ts =>
      let ts := skipLines ts
      if closes ts then some (.nothing, ts)
      else do
        let (first, rest) ← conditional fuel ts
        if startsWith "&" rest then
          let (second, rest) ← commands fuel (rest.drop 1)
          return (.sequence (.background first) second, rest)
        else if startsWith ";" rest || startsWith "\n" rest then
          let (second, rest) ← commands fuel (rest.drop 1)
          return (if second = .nothing then first else .sequence first second, rest)
        else if closes rest then return (first, rest)
        else none

/-- Pipelines of which each is run or not after the one before. -/
def conditional : Nat → List Lexeme → Option (Script × List Lexeme)
  | 0, _ => none
  | fuel + 1, ts => do
      let (first, rest) ← pipeline fuel ts
      conditions fuel first rest

/-- Goes on behind a pipeline as long as conditions follow. -/
def conditions : Nat → Script → List Lexeme → Option (Script × List Lexeme)
  | 0, _, _ => none
  | fuel + 1, first, ts =>
      if startsWith "&&" ts then do
        let (second, rest) ← pipeline fuel (skipLines (ts.drop 1))
        conditions fuel (.both first second) rest
      else if startsWith "||" ts then do
        let (second, rest) ← pipeline fuel (skipLines (ts.drop 1))
        conditions fuel (.either first second) rest
      else some (first, ts)

/-- Commands of which each reads what the one before writes. -/
def pipeline : Nat → List Lexeme → Option (Script × List Lexeme)
  | 0, _ => none
  | fuel + 1, ts =>
      if keyword? ts = some "!" then do
        let (script, rest) ← pipeline fuel (ts.drop 1)
        return (.negation script, rest)
      else do
        let (first, rest) ← command fuel ts
        if startsWith "|" rest then
          let (second, rest) ← pipeline fuel (skipLines (rest.drop 1))
          return (.pipe first second, rest)
        else return (first, rest)

/-- One command with its redirections. -/
def command : Nat → List Lexeme → Option (Script × List Lexeme)
  | 0, _ => none
  | fuel + 1, ts =>
      let redirected (script : Script) (rest : List Lexeme) :=
        match redirections rest.length rest with
        | ([], rest) => (script, rest)
        | (rs, rest) => (Script.redirected script rs, rest)
      if startsWith "(" ts then do
        let (script, rest) ← commands fuel (ts.drop 1)
        if startsWith ")" rest then return redirected (.subshell script) (rest.drop 1) else none
      else match keyword? ts with
        | some "\x7b" => do
            let (script, rest) ← commands fuel (ts.drop 1)
            return redirected script (← expect "\x7d" rest)
        | some "if" => do
            let (script, rest) ← branches fuel (ts.drop 1)
            return redirected script rest
        | some "while" => do
            let (script, rest) ← loop fuel true (ts.drop 1)
            return redirected script rest
        | some "until" => do
            let (script, rest) ← loop fuel false (ts.drop 1)
            return redirected script rest
        | some "for" => do
            let (script, rest) ← each fuel (ts.drop 1)
            return redirected script rest
        | keyword =>
            let (s, rest) := simple (ts.length + 1) ts
            let s := s.withSettings
            let line := (ts.head?.map Lexeme.line).getD 1
            if s.isEmpty || keyword.any closers.contains then none
            else some (.simple line s.settings s.words s.redirections, rest)

/-- The branches behind a test. -/
def branches : Nat → List Lexeme → Option (Script × List Lexeme)
  | 0, _ => none
  | fuel + 1, ts => do
      let (test, rest) ← commands fuel ts
      let (yes, rest) ← commands fuel (← expect "then" rest)
      match keyword? rest with
      | some "elif" =>
          let (no, rest) ← branches fuel (rest.drop 1)
          return (.choice test yes no, rest)
      | some "else" =>
          let (no, rest) ← commands fuel (rest.drop 1)
          return (.choice test yes no, ← expect "fi" rest)
      | _ => return (.choice test yes .nothing, ← expect "fi" rest)

/-- The test and the body of a loop, which goes well if its body is never run. -/
def loop : Nat → Bool → List Lexeme → Option (Script × List Lexeme)
  | 0, _, _ => none
  | fuel + 1, wanted, ts => do
      let (test, rest) ← commands fuel ts
      let (body, rest) ← commands fuel (← expect "do" rest)
      return (.sequence .nothing (.loop wanted test body), ← expect "done" rest)

/-- The name, the words and the body of a loop over words. -/
def each : Nat → List Lexeme → Option (Script × List Lexeme)
  | 0, _ => none
  | fuel + 1, ts => do
      let name ← keyword? ts
      let rest := skipLines (ts.drop 1)
      let (words, rest) := match expect "in" rest with
        | some rest => let (words, rest) := wordsOf rest; (some words, rest)
        | none => (none, rest)
      let rest := skipLines (if startsWith ";" rest then rest.drop 1 else rest)
      let (body, rest) ← commands fuel (← expect "do" rest)
      return (.each name.toList words body, ← expect "done" rest)

end

/-- The script that a text is. -/
def Script.parse? (text : List Char) : Option Script := do
  let ts ← lexemes? text
  match ← commands (8 * ts.length + 8) ts with
  | (script, []) => return script
  | _ => none

end Reachability.Shell
