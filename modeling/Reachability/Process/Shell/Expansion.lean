/-
# Expansion of words

What the words of a command stand for once its parameters are known: a word may become
several fields, or none.

Main definitions:

* `Shell.Scope` : the parameters of a shell, with `Scope.value`;
* `Shell.Scope.fields` : the fields of a word;
* `Shell.Scope.text` : the text of a word that is not cut.
-/
import Reachability.Number.Decimal
import Reachability.Process.Shell.Arithmetic
import Reachability.Process.Shell.Script

namespace Reachability.Shell

/-! ## Parameters -/

/-- The parameters of a shell. -/
structure Scope where
  /-- The name that the shell goes by. -/
  name : List Char
  arguments : List (List Char)
  bindings : List (List Char × List Char) := []
  /-- The variables that a shell within this one knows. -/
  exported : List (List Char × List Char) := []
  /-- How the last command went. -/
  status : Nat := 0
deriving DecidableEq, Repr

namespace Scope

/-- The number of the process, of which a script learns nothing else. -/
def processNumber : List Char := ['2']

/-- The value of a parameter. -/
def value (s : Scope) (name : List Char) : List Char :=
  match name with
  | ['0'] => s.name
  | ['?'] => Decimal.digits s.status
  | ['#'] => Decimal.digits s.arguments.length
  | ['$'] => processNumber
  | ['@'] => [' '].intercalate s.arguments
  | ['*'] => [' '].intercalate s.arguments
  | _ =>
      if name.all Char.isDigit then (s.arguments[Decimal.value name - 1]?).getD []
      else (s.bindings.lookup name).getD []

/-- The scope with another value of a variable. -/
def set (s : Scope) (name value : List Char) : Scope :=
  { s with bindings := (name, value) :: s.bindings.filter (·.1 ≠ name) }

/-- The scope with a variable passed on to shells within this one. -/
def passOn (s : Scope) (name : List Char) : Scope :=
  { s with exported := (name, s.value name) :: s.exported.filter (·.1 ≠ name) }

/-- The value of a parameter with what stands behind its name in braces: a text in place of no
value or of an empty one, or one for a value. -/
def valueWith (s : Scope) (text : List Char) : List Char :=
  let isName (c : Char) : Bool := c.isAlphanum || c == '_'
  match text with
  | '#' :: c :: cs => Decimal.digits (s.value (c :: cs)).length
  | _ =>
      let name := if text.any isName && (text.head?.any isName) then text.takeWhile isName
        else text.take 1
      let known := (s.value name) ≠ [] || s.bindings.any (·.1 = name)
      match text.drop name.length with
      | ':' :: '-' :: other => if s.value name = [] then other else s.value name
      | '-' :: other => if known then s.value name else other
      | ':' :: '+' :: other => if s.value name = [] then [] else other
      | '+' :: other => if known then other else []
      | _ => s.value name

/-- The value of a parameter as an integer. -/
def integer (s : Scope) (name : List Char) : Int64 :=
  match s.value name with
  | '-' :: digits => -(number? digits).getD 0
  | digits => (number? digits).getD 0

/-- An expression with the values of the parameters that it marks with a dollar sign. -/
def filled (s : Scope) : Nat → List Char → List Char
  | 0, _ => []
  | _ + 1, [] => []
  | fuel + 1, '$' :: cs =>
      let isName (c : Char) : Bool := c.isAlphanum || c == '_'
      match cs with
      | '{' :: rest =>
          let name := rest.takeWhile isName
          s.value name ++ filled s fuel (rest.drop (name.length + 1))
      | c :: rest =>
          if isName c && !c.isDigit then
            let name := cs.takeWhile isName
            s.value name ++ filled s fuel (cs.drop name.length)
          else s.value [c] ++ filled s fuel rest
      | [] => ['$']
  | fuel + 1, c :: cs => c :: filled s fuel cs

/-- The digits of the value of an expression, or what is wrong with it. -/
def calculated (s : Scope) (expression : List Char) : Except String (List Char) :=
  let text := s.filled (expression.length + 1) expression
  match evaluate s.integer text with
  | .ok value => .ok (Decimal.ofInt value.toInt).toList
  | .error fault =>
      .error ("arithmetic expression: " ++ fault.message ++ ": \"" ++ String.ofList text ++ "\"")

/-! ## Fields -/

/-- Fields under construction: those that are finished, the last one first, and the one that
has been started, its last character first. -/
structure Fields where
  finished : List (List Char) := []
  started : Option (List Char) := none

namespace Fields

/-- Starts a field if none is started. -/
def start (f : Fields) : Fields := { f with started := some (f.started.getD []) }

/-- Puts characters at the end of the field. -/
def append (f : Fields) (cs : List Char) : Fields :=
  { f with started := some (cs.reverse ++ f.started.getD []) }

/-- Finishes the field that has been started. -/
def finish (f : Fields) : Fields :=
  match f.started with
  | some field => ⟨field.reverse :: f.finished, none⟩
  | none => f

/-- Whether unquoted values are cut at a character. -/
def isSeparator (c : Char) : Bool := c = ' ' || c = '\t' || c = '\n'

/-- Puts a value at the end, cut at its blanks unless it is quoted. -/
def insert (f : Fields) (value : List Char) (quoted : Bool) : Fields :=
  if quoted then f.append value
  else value.foldl (fun f c => if isSeparator c then f.finish else f.append [c]) f

/-- Puts values at the end, a field for each. -/
def insertEach (f : Fields) (quoted : Bool) : List (List Char) → Fields
  | [] => f
  | [value] => f.insert value quoted
  | value :: values => ((f.insert value quoted).finish).insertEach quoted values

/-- The finished fields. -/
def toList (f : Fields) : List (List Char) := f.finish.finished.reverse

end Fields

/-- The fields with what a part stands for. -/
def extend (s : Scope) (f : Fields) : Part → Except String Fields
  | .char c _ => .ok (f.append [c])
  | .emptyQuotes => .ok f.start
  | .value text quoted => .ok (f.insert text quoted)
  | .output _ _ => .ok f
  | .arithmetic expression quoted => do return f.insert (← s.calculated expression) quoted
  | .parameter name quoted =>
      if name = ['@'] then .ok (f.insertEach quoted s.arguments)
      else if name = ['*'] && !quoted then .ok (f.insertEach false s.arguments)
      else .ok (f.insert (s.valueWith name) quoted)

/-- The fields that a word stands for. -/
def fields (s : Scope) (w : Word) : Except String (List (List Char)) := do
  return (← w.foldlM s.extend {}).toList

/-- The fields that words stand for. -/
def allFields (s : Scope) (ws : List Word) : Except String (List (List Char)) := do
  return (← ws.mapM s.fields).flatten

/-- What a word stands for where it is not cut. -/
def text (s : Scope) (w : Word) : Except String (List Char) := do
  let parts ← w.mapM fun
    | .char c _ => .ok [c]
    | .emptyQuotes => .ok []
    | .value text _ => .ok text
    | .output _ _ => .ok []
    | .arithmetic expression _ => s.calculated expression
    | .parameter name _ => .ok (s.valueWith name)
  return parts.flatten

end Scope
end Reachability.Shell
