/-
# Lines of ping output

Two kinds of line carry numbers.  A reply line says how many bytes came back and how long
it took, in either of two wordings:

    64 bytes from 8.8.8.8: icmp_seq=1 ttl=115 time=11.2 ms
    Reply from 10.0.0.1: bytes=32 time<1ms TTL=128

A summary line says how many packets were sent and received and how many were lost:

    4 packets transmitted, 0 received, +4 errors, 100% packet loss, time 3050ms

Here the lines are recognised and the texts of their numbers cut out; whether those texts
are well-formed numbers is another matter.  Fixed words are recognised in either letter
case.

Main definitions:

* `Ping.Reply.find?` : the numbers of a reply line;
* `Ping.Summary.find?` : the numbers of a summary line.
-/
import Reachability.Text.Blank
import Reachability.Text.Split
import Reachability.Text.WordCharacter

namespace Reachability.Ping

/-! ## Pieces of lines -/

/-- A letter without regard to case.  Besides the ASCII capitals, the long s and the Kelvin
sign differ from a small letter in case only. -/
def foldCase (c : Char) : Char :=
  if c = '\u017F' then 's' else if c = '\u212A' then 'k' else c.toLower

/-- What follows a fixed word, given in small letters, in either letter case. -/
def afterWord? : List Char → List Char → Option (List Char)
  | [], rest => some rest
  | w :: ws, c :: rest => if foldCase c = w then afterWord? ws rest else none
  | _ :: _, [] => none

/-- What follows at least one blank. -/
def afterBlanks? : List Char → Option (List Char)
  | c :: rest => if Text.isBlank c then some (rest.dropWhile Text.isBlank) else none
  | [] => none

/-- Drops the blanks at the start. -/
def skipBlanks (cs : List Char) : List Char := cs.dropWhile Text.isBlank

/-- The longest run of characters that are no blanks, which must not be empty, and what
follows it. -/
def token? (cs : List Char) : Option (List Char × List Char) :=
  let token := cs.takeWhile fun c => !Text.isBlank c
  if token.isEmpty then none else some (token, cs.dropWhile fun c => !Text.isBlank c)

/-- The first result of `f` at the start of the line or behind a blank. -/
def firstAtToken? {α : Type} (f : List Char → Option α) (line : List Char) : Option α :=
  (f line).or (go line)
where
  /-- The first result behind a blank. -/
  go : List Char → Option α
    | [] => none
    | c :: cs => if Text.isBlank c then (f cs).or (go cs) else go cs

/-! ## Reply lines -/

/-- The texts of the numbers in a reply line. -/
structure Reply where
  /-- The number of bytes. -/
  bytes : List Char
  /-- Whether the time is exact, or only an upper bound. -/
  exact : Bool
  /-- The time, with its unit if that follows without a blank. -/
  time : List Char
deriving DecidableEq, Repr

namespace Reply

/-- A time at the start of the text: the word, the sign and the number. -/
def time? (cs : List Char) : Option (Bool × List Char) := do
  let rest ← afterWord? "time".toList cs
  match skipBlanks rest with
  | '=' :: rest => (token? (skipBlanks rest)).map fun (time, _) => (true, time)
  | '<' :: rest => (token? (skipBlanks rest)).map fun (time, _) => (false, time)
  | _ => none

/-- The first time in the text that starts at the boundary of a word; `before` is the
character in front of the text. -/
def firstTime? (before : Char) : List Char → Option (Bool × List Char)
  | [] => none
  | c :: cs =>
      let here :=
        if Text.isWordBoundary (some before) (some c) then time? (c :: cs) else none
      here.or (firstTime? c cs)

/-- A reply in the first wording: a number, the words `bytes from`, and a time anywhere
behind them. -/
def leading? (cs : List Char) : Option Reply := do
  let (bytes, rest) ← token? cs
  let rest ← afterWord? "bytes".toList (← afterBlanks? rest)
  let rest ← afterWord? "from".toList (← afterBlanks? rest)
  if Text.isWordBoundary (some 'm') rest.head? then
    let (exact, time) ← firstTime? 'm' rest
    some ⟨bytes, exact, time⟩
  else none

/-- The longest start of the token, of at least one character, that a time follows
somewhere.  `taken` holds the start under trial, latest character first. -/
def longestBefore? : List Char → List Char → Option Reply
  | [], _ => none
  | c :: taken, rest =>
      match firstTime? c rest with
      | some (exact, time) => some ⟨(c :: taken).reverse, exact, time⟩
      | none => longestBefore? taken (c :: rest)

/-- A reply in the second wording: `bytes=` with a number, and a time anywhere behind it. -/
def labelled? (cs : List Char) : Option Reply := do
  let rest ← afterWord? "bytes=".toList cs
  let (token, rest) ← token? rest
  longestBefore? token.reverse rest

/-- The reply that a line reports. -/
def find? (line : List Char) : Option Reply :=
  firstAtToken? (fun cs => (leading? cs).or (labelled? cs)) line

end Reply

/-! ## Summary lines -/

/-- The texts of the numbers in a summary line. -/
structure Summary where
  transmitted : List Char
  received : List Char
  /-- The loss in percent. -/
  loss : List Char
deriving DecidableEq, Repr

namespace Summary

/-- The loss at the start of the text: a number with a percent sign, and the words
`packet loss`. -/
def loss? (cs : List Char) : Option (List Char) := do
  let (token, rest) ← token? cs
  match token.reverse with
  | '%' :: digits =>
      if digits.isEmpty then none
      else
        let rest ← afterWord? "packet".toList (← afterBlanks? rest)
        let _ ← afterWord? "loss".toList (← afterBlanks? rest)
        some digits.reverse
  | _ => none

/-- A remark at the start of the text, such as `+4 errors,`: what follows it and its
blanks. -/
def afterRemark? (cs : List Char) : Option (List Char) :=
  match cs with
  | '+' :: rest => do
      let (_, rest) ← token? rest
      let rest ← afterBlanks? rest
      let word := rest.takeWhile Text.isWordCharacter
      if word.isEmpty then none
      else
        match rest.dropWhile Text.isWordCharacter with
        | ',' :: rest => some (skipBlanks rest)
        | _ => none
  | _ => none

/-- The loss behind as many remarks as possible. -/
def lossAfterRemarks? : Nat → List Char → Option (List Char)
  | 0, cs => loss? cs
  | fuel + 1, cs =>
      ((afterRemark? cs).bind (lossAfterRemarks? fuel)).or (loss? cs)

/-- The number of packets received at the start of the text, with or without the word
`packets`, and what follows. -/
def received? (cs : List Char) : Option (List Char × List Char) := do
  let (received, rest) ← token? cs
  let rest ← afterBlanks? rest
  let named := do
    afterWord? "received,".toList (← afterBlanks? (← afterWord? "packets".toList rest))
  let rest ← named.or (afterWord? "received,".toList rest)
  some (received, rest)

/-- The summary at the start of the text. -/
def at? (cs : List Char) : Option Summary := do
  let (transmitted, rest) ← token? cs
  let rest ← afterWord? "packets".toList (← afterBlanks? rest)
  let rest ← afterWord? "transmitted,".toList (← afterBlanks? rest)
  let (received, rest) ← received? (skipBlanks rest)
  let rest := skipBlanks rest
  let loss ← lossAfterRemarks? rest.length rest
  some ⟨transmitted, received, loss⟩

/-- The summary that a line gives. -/
def find? (line : List Char) : Option Summary :=
  firstAtToken? at? line

end Summary
end Reachability.Ping
