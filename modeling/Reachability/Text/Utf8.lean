/-
# UTF-8

Reading bytes as text, strictly or with replacement, and writing text as bytes.
One scan serves both readers: it walks the bytes once and reports, per well-formed
sequence, its character, and per ill-formed piece, a gap.  An ill-formed piece is the
longest start of a well-formed sequence that stands there, or else a single byte.

Main definitions:

* `Utf8.scan` : characters and gaps;
* `Utf8.decode?` : the text, if there is no gap;
* `Utf8.decodeLossy` : the text with U+FFFD for each gap;
* `Utf8.encode` : the bytes of a text.
-/

namespace Reachability.Utf8

/-! ## Reading -/

/-- What the scan still expects: `need` more bytes, the next of them between `low` and
`high`, after the bits of `value`. -/
structure Pending where
  need : Nat
  low : Nat
  high : Nat
  value : Nat

/-- The state in front of a fresh byte: either a finished item or an open sequence. -/
inductive Lead
  | char (c : Char)
  | opens (p : Pending)
  | bad

/-- Classifies a byte in first place.  The bounds on the second byte rule out overlong
forms, surrogates and values above U+10FFFF. -/
def lead (b : UInt8) : Lead :=
  let n := b.toNat
  if n < 0x80 then .char (Char.ofNat n)
  else if n < 0xc2 then .bad
  else if n < 0xe0 then .opens ⟨1, 0x80, 0xbf, n - 0xc0⟩
  else if n = 0xe0 then .opens ⟨2, 0xa0, 0xbf, 0⟩
  else if n = 0xed then .opens ⟨2, 0x80, 0x9f, n - 0xe0⟩
  else if n < 0xf0 then .opens ⟨2, 0x80, 0xbf, n - 0xe0⟩
  else if n = 0xf0 then .opens ⟨3, 0x90, 0xbf, 0⟩
  else if n < 0xf4 then .opens ⟨3, 0x80, 0xbf, n - 0xf0⟩
  else if n = 0xf4 then .opens ⟨3, 0x80, 0x8f, n - 0xf0⟩
  else .bad

/-- The characters of the bytes in order, `none` standing for an ill-formed piece. -/
def scan : Option Pending → List UInt8 → List (Option Char)
  | none, [] => []
  | some _, [] => [none]
  | none, b :: bs =>
      match lead b with
      | .char c => some c :: scan none bs
      | .opens p => scan (some p) bs
      | .bad => none :: scan none bs
  | some p, b :: bs =>
      let n := b.toNat
      if p.low ≤ n ∧ n ≤ p.high then
        let value := p.value * 64 + (n - 0x80)
        if p.need ≤ 1 then some (Char.ofNat value) :: scan none bs
        else scan (some ⟨p.need - 1, 0x80, 0xbf, value⟩) bs
      else
        match lead b with
        | .char c => none :: some c :: scan none bs
        | .opens q => none :: scan (some q) bs
        | .bad => none :: none :: scan none bs

/-- The text of well-formed bytes. -/
def decode? (bs : List UInt8) : Option (List Char) :=
  (scan none bs).mapM id

/-- The text of any bytes, with U+FFFD for each ill-formed piece. -/
def decodeLossy (bs : List UInt8) : List Char :=
  (scan none bs).map fun c => c.getD '\uFFFD'

/-! ## Writing -/

/-- The one to four bytes of a character. -/
def encodeChar (c : Char) : List UInt8 :=
  let n := c.toNat
  if n < 0x80 then [n.toUInt8]
  else if n < 0x800 then [(0xc0 + n / 64).toUInt8, (0x80 + n % 64).toUInt8]
  else if n < 0x10000 then
    [(0xe0 + n / 4096).toUInt8, (0x80 + n / 64 % 64).toUInt8, (0x80 + n % 64).toUInt8]
  else
    [(0xf0 + n / 262144).toUInt8, (0x80 + n / 4096 % 64).toUInt8,
      (0x80 + n / 64 % 64).toUInt8, (0x80 + n % 64).toUInt8]

/-- The bytes of a text. -/
def encode (cs : List Char) : List UInt8 :=
  cs.flatMap encodeChar

/-- How many bytes a text takes. -/
def size (s : String) : Nat :=
  (encode s.toList).length

end Reachability.Utf8
