/-
# Reading YAML

A YAML text holds one document: nested blocks told apart by their indentation, or lists and
tables in brackets.  An unquoted scalar becomes a word, whose type is left open; a missing
value is the empty word.

Main definitions:

* `Yaml.read?` : the document of a text.
-/
import Reachability.Document.Yaml.Scalar
import Reachability.Document.Yaml.Tag

namespace Reachability.Yaml

/-! ## Properties -/

/-- What may stand before a value: a name for it, and a tag. -/
structure Properties where
  anchor : Option String := none
  tag : Option String := none

/-- Whether a value has a name or a tag. -/
def Properties.isSome (q : Properties) : Bool := q.anchor.isSome || q.tag.isSome

/-- The name behind its indicator; white space or an indicator follows it. -/
def name? (p : Place) : Option (String × Place) :=
  let cs := p.rest.takeWhile isNameChar
  let q := p.drop cs.length
  let ends := startsBlank q.rest ||
    q.rest.head?.any fun c => "?:,]\x7d%@`".toList.contains c
  if cs.isEmpty || !ends then none else some (String.ofList cs, q)

/-- The properties at a place, each at most once. -/
def properties? (inFlow : Bool) : Nat → Properties → Place → Option (Properties × Place)
  | 0, found, p => some (found, p)
  | fuel + 1, found, p =>
      match p.rest with
      | '&' :: _ => do
          if found.anchor.isSome then none
          else
            let (name, q) ← name? p.next
            properties? inFlow fuel { found with anchor := some name } q.skipBlanks
      | '!' :: _ => do
          if found.tag.isSome then none
          else
            let (tag, q) ← tag? inFlow p.next
            properties? inFlow fuel { found with tag := some tag } q.skipBlanks
      | _ => some (found, p)

/-- A value with its properties: the tag of texts makes a text of a word, and the name is
remembered. -/
def Properties.apply (q : Properties) (d : Document) (p : Place) : Document × Place :=
  let d := match d, q.tag with
    | .word w, some "tag:yaml.org,2002:str" => .text w
    | d, _ => d
  match q.anchor with
  | some name => (d, { p with anchors := (name, d) :: p.anchors })
  | none => (d, p)

/-! ## Keys -/

/-- The name that a key is.  A key that is no text spoils its table. -/
def keyName? : Document → Option String
  | .text s => some s
  | .word w => if Word.isNumber w then none else some w
  | _ => none

/-- Entries of a table, last first, or `none` once a key was no text. -/
abbrev Entries := Option (List (String × Document))

/-- One more entry. -/
def Entries.add (entries : Entries) (key value : Document) : Entries := do
  some ((← keyName? key, value) :: (← entries))

/-- The table of the entries. -/
def Entries.finish (entries : Entries) : Document :=
  (entries.map fun es => Document.table es.reverse).getD .unreadable

/-- The empty word, which stands for a missing value. -/
def missing : Document := .word ""

/-! ## Brackets -/

/-- The longest text that can be a key. -/
def keyLimit : Nat := 1024

/-- Whether the text between two places can be a key: it lies in one line and is not too
long. -/
def canBeKey (start finish : Place) : Bool :=
  start.line == finish.line && finish.column ≤ start.column + keyLimit

/-- The value that was given a name. -/
def alias? (p : Place) : Option (Document × Place) := do
  let (name, q) ← name? p
  some (← q.anchors.lookup name, q)

mutual

/-- A value within brackets; nothing may stand for a missing value. -/
def flowNode? (indent : Nat) : Nat → Place → Option (Document × Place)
  | 0, _ => none
  | fuel + 1, p => do
      let (found, q) ← properties? true 3 {} p
      let q := q.flowToken
      let ends := q.rest.isEmpty || q.rest.head?.any fun c =>
        c == ',' || c == ']' || c == '\x7d' || c == ':'
      if ends then if found.isSome then some (found.apply missing q) else none
      else
        let (d, r) ← flowLeaf? indent fuel q
        some (found.apply d r)

/-- A list, table, alias or scalar within brackets. -/
def flowLeaf? (indent : Nat) : Nat → Place → Option (Document × Place)
  | 0, _ => none
  | fuel + 1, p =>
      match p.rest with
      | '[' :: _ => flowItems? indent fuel [] p.next.flowToken
      | '\x7b' :: _ => flowEntries? indent fuel (some []) p.next.flowToken
      | '*' :: _ => alias? p.next
      | '\'' :: _ => do
          let (s, q) ← singleQuoted? p.next
          some (.text s, q)
      | '"' :: _ => do
          let (s, q) ← doubleQuoted? p.next
          some (.text s, q)
      | cs =>
          if startsPlain true cs then do
            let (s, q) ← plain? true indent p
            some (.word s, q)
          else none

/-- The value behind a colon within brackets. -/
def flowValue? (indent : Nat) : Nat → Place → Option (Document × Place)
  | 0, _ => none
  | fuel + 1, p =>
      match p.rest with
      | [] => none
      | c :: _ =>
          if c = ',' ∨ c = ']' ∨ c = '\x7d' then some (missing, p) else flowNode? indent fuel p

/-- A key with the value that may follow it, and whether a colon made it one. -/
def flowPair? (indent : Nat) : Nat → Place → Option (Document × Option Document × Place)
  | 0, _ => none
  | fuel + 1, p => do
      let explicit := p.rest.head? == some '?' && startsBlank (p.rest.drop 1)
      let start := if explicit then p.next.flowToken else p
      let (key, q) ← match start.rest with
        | ':' :: _ => some (missing, start)
        | ',' :: _ => if explicit then some (missing, start) else none
        | ']' :: _ => if explicit then some (missing, start) else none
        | '\x7d' :: _ => if explicit then some (missing, start) else none
        | _ => flowNode? indent fuel start
      let q' := q.flowToken
      match q'.rest with
      | ':' :: _ =>
          if explicit || canBeKey p q' then do
            let (value, r) ← flowValue? indent fuel q'.next.flowToken
            some (key, some value, r)
          else none
      | _ => some (key, if explicit then some missing else none, q')

/-- The items of a list up to its closing bracket. -/
def flowItems? (indent : Nat) : Nat → List Document → Place → Option (Document × Place)
  | 0, _, _ => none
  | fuel + 1, acc, p =>
      match p.rest with
      | ']' :: _ => some (.list acc.reverse, p.next)
      | _ => do
          let (key, value, q) ← flowPair? indent fuel p
          let item := match value with
            | some v => (Entries.add (some []) key v).finish
            | none => key
          let q := q.flowToken
          match q.rest with
          | ',' :: _ => flowItems? indent fuel (item :: acc) q.next.flowToken
          | ']' :: _ => some (.list (item :: acc).reverse, q.next)
          | _ => none

/-- The entries of a table up to its closing brace. -/
def flowEntries? (indent : Nat) : Nat → Entries → Place → Option (Document × Place)
  | 0, _, _ => none
  | fuel + 1, acc, p =>
      match p.rest with
      | '\x7d' :: _ => some (acc.finish, p.next)
      | _ => do
          let (key, value, q) ← flowPair? indent fuel p
          let acc := acc.add key (value.getD missing)
          let q := q.flowToken
          match q.rest with
          | ',' :: _ => flowEntries? indent fuel acc q.next.flowToken
          | '\x7d' :: _ => some (acc.finish, q.next)
          | _ => none

end

/-! ## Blocks -/

/-- A value that is no block: brackets, an alias, a scalar in quotes or unquoted words.  The
block around it is indented by `indent`. -/
def leaf? (indent : Int) (p : Place) : Option (Document × Place) :=
  let column := (indent + 1).toNat
  match p.rest with
  | '[' :: _ => flowLeaf? column (6 * p.rest.length + 6) p
  | '\x7b' :: _ => flowLeaf? column (6 * p.rest.length + 6) p
  | '*' :: _ => alias? p.next
  | '\'' :: _ => do
      let (s, q) ← singleQuoted? p.next
      some (.text s, q)
  | '"' :: _ => do
      let (s, q) ← doubleQuoted? p.next
      some (.text s, q)
  | cs =>
      if startsPlain false cs then do
        let (s, q) ← plain? false column p
        some (.word s, q)
      else none

/-- A key of a block that no question mark introduces, up to its colon. -/
def simpleKey? (indent : Int) (p : Place) : Option (Document × Place) := do
  if p.atIndicator ':' then some (missing, p)
  else
    let (found, q) ← properties? false 3 {} p
    let (d, r) ← leaf? indent q
    let r := r.skipBlanks
    if canBeKey p r && r.atIndicator ':' then some (found.apply d r) else none

mutual

/-- A value in a block that is indented by `indent`.  A key may start here if `keys`; the
items of a list that is the value of a key need no deeper indentation. -/
def node? : Nat → Int → Bool → Bool → Place → Option (Document × Place)
  | 0, _, _, _, _ => none
  | fuel + 1, indent, keys, underKey, start =>
      let (p, keys) := start.token keys
      if p.atEnd then some (missing, start)
      else if (p.column : Int) ≤ indent then
        if underKey && keys && (p.column : Int) == indent && p.atIndicator '-' then
          listItems? fuel p.column true [] p
        else some (missing, start)
      else if p.atIndicator '-' then
        if keys then listItems? fuel p.column false [] p else none
      else if p.atIndicator '?' || p.atIndicator ':' then
        if keys then entries? fuel p.column (some []) p else none
      else do
        let (found, q) ← properties? false 3 {} p
        if found.isSome && q.atLineEnd then
          let (d, r) ← node? fuel indent false underKey q
          some (found.apply d r)
        else match q.rest with
          | '|' :: _ => do
              let (s, r) ← block? false indent q.next
              some (found.apply (.text s) r)
          | '>' :: _ => do
              let (s, r) ← block? true indent q.next
              some (found.apply (.text s) r)
          | _ =>
              match if keys then simpleKey? (p.column : Int) p else none with
              | some _ => entries? fuel p.column (some []) p
              | none => do
                  let (d, r) ← leaf? indent q
                  some (found.apply d r)

/-- The entries of a table whose keys stand in the given column. -/
def entries? : Nat → Nat → Entries → Place → Option (Document × Place)
  | 0, _, _, _ => none
  | fuel + 1, column, acc, p => do
      let (key, q) ←
        if p.atIndicator '?' then do
          let (key, q) ← node? fuel column true true p.next
          let (q', keys) := q.token false
          some (key, if keys && q'.column == column && q'.atIndicator ':' then q' else q)
        else simpleKey? column p
      let (value, r) ←
        if q.atIndicator ':' then node? fuel column (p.atIndicator '?') true q.next
        else some (missing, q)
      let acc := acc.add key value
      let (next, keys) := r.token (r.column == 0)
      if next.atEnd || next.column < column then some (acc.finish, r)
      else if next.column == column && keys then entries? fuel column acc next
      else none

/-- The items of a list whose marks stand in the given column. -/
def listItems? : Nat → Nat → Bool → List Document → Place → Option (Document × Place)
  | 0, _, _, _, _ => none
  | fuel + 1, column, underKey, acc, p => do
      let (item, q) ← node? fuel column true false p.next
      let (next, keys) := q.token (q.column == 0)
      if next.atEnd || next.column < column then some (.list (item :: acc).reverse, q)
      else if next.column == column && keys then
        if next.atIndicator '-' then listItems? fuel column underKey (item :: acc) next
        else if underKey then some (.list (item :: acc).reverse, q)
        else none
      else none

end

/-! ## Texts -/

/-- The place behind a mark of three characters. -/
def marker? (mark : String) (p : Place) : Option Place :=
  if p.atMarker && p.rest.take 3 == mark.toList then some (p.drop 3) else none

/-- The place behind any marks that end a document. -/
def skipEnds : Nat → Place → Place
  | 0, p => p
  | fuel + 1, p =>
      let p := (p.token true).1
      match marker? "..." p with
      | some q => skipEnds fuel q
      | none => p

/-- The document of a text.  There is no more than one; a text without one stands for a
missing value. -/
def read? (text : String) : Option Document := do
  let cs := match text.toList with
    | '\ufeff' :: rest => rest
    | cs => cs
  if !cs.all isAllowed then none
  else
    let fuel := cs.length + 1
    let start : Place := skipEnds fuel ⟨cs, 0, 0, [], []⟩
    let (found, p) ← directives? fuel false false start
    if p.rest.isEmpty then if found then none else some missing
    else
      let (d, q) ← match marker? "---" p with
        | some q => node? (4 * fuel) (-1) false false q
        | none => if found then none else node? (4 * fuel) (-1) true false p
      let (q, keys) := q.token (q.column == 0)
      if q.rest.isEmpty then some d
      else if q.atMarker && keys then
        if (skipEnds fuel q).rest.isEmpty then some d else none
      else none

end Reachability.Yaml
