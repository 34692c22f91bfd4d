/-
# Raw texts

What the system takes as names and paths: bytes.  Most of them are the bytes of a text, but any
others will do.

Main definitions:

* `RawText` : the bytes; where one is wanted, a text stands for its bytes;
* `RawText.text?` : the text, if the bytes are those of one;
* `RawText.shown` : what is shown of any bytes.
-/
import Reachability.Text.Utf8

namespace Reachability

/-- Bytes that may be those of a text. -/
structure RawText where
  bytes : List UInt8
deriving DecidableEq, Repr, Inhabited

namespace RawText

/-- The bytes of a text. -/
def ofText (s : String) : RawText := ⟨Utf8.encode s.toList⟩

instance : Coe String RawText := ⟨ofText⟩

/-- The text whose bytes they are. -/
def text? (r : RawText) : Option String := (Utf8.decode? r.bytes).map String.ofList

/-- Whether they are the bytes of a text. -/
def isText (r : RawText) : Bool := r.text?.isSome

/-- A text to show, in which a replacement character stands for what is none. -/
def shown (r : RawText) : String := String.ofList (Utf8.decodeLossy r.bytes)

/-- The number of bytes. -/
def size (r : RawText) : Nat := r.bytes.length

end RawText
end Reachability
