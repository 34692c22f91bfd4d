/-
# Percent encoding undone

Bytes may be written as text in many ways: a byte that is an unreserved character as that
character, and every byte as a percent sign with two hexadecimal digits, in either letter case.
Whatever way is taken, decoding gives the bytes back; and it never gives more characters than it was
given.

Main definitions:

* `Percent.isUnreserved` : the characters that may stand for themselves;
* `Percent.Writes` : the texts that write bytes.

Main results:

* `decode_of_writes`, `decodeText?_of_writes` : **what is written is decoded**;
* `writes_encodeWhere` : encoding all but the unreserved characters is one way to write a text;
* `length_le_of_decodeText?` : decoding ASCII makes no text longer.
-/
import Reachability.Proofs.Text.Utf8
import Reachability.Text.Percent

namespace Reachability

/-! ## Bytes of ASCII -/

namespace Utf8

theorem encode_cons (c : Char) (cs : List Char) : encode (c :: cs) = encodeChar c ++ encode cs :=
  rfl

theorem encodeChar_of_ascii {c : Char} (h : c.toNat < 0x80) :
    encodeChar c = [c.toNat.toUInt8] := by
  rw [encodeChar, if_pos h]

/-- ASCII takes one byte for each character. -/
theorem length_encode_of_ascii {cs : List Char} (h : ∀ c ∈ cs, c.toNat < 0x80) :
    (encode cs).length = cs.length := by
  induction cs with
  | nil => rfl
  | cons c cs ih =>
    rw [List.forall_mem_cons] at h
    rw [encode_cons, encodeChar_of_ascii h.1, List.singleton_append, List.length_cons,
      List.length_cons, ih h.2]

/-- A scan gives at most one item for each byte, and one for an open sequence. -/
theorem length_scan_le (bs : List UInt8) :
    (scan none bs).length ≤ bs.length ∧ ∀ p, (scan (some p) bs).length ≤ bs.length + 1 := by
  induction bs with
  | nil => exact ⟨Nat.le_refl 0, fun _ => Nat.le_refl 1⟩
  | cons b bs ih =>
    obtain ⟨fresh, opened⟩ := ih
    refine ⟨?_, fun p => ?_⟩
    · rw [scan]
      split
      · exact Nat.succ_le_succ fresh
      · exact opened _
      · exact Nat.succ_le_succ fresh
    -- an open sequence that breaks off gives an item before the byte that broke it gives one
    · rw [scan]
      dsimp only
      split
      · split
        · exact Nat.succ_le_succ (Nat.le_succ_of_le fresh)
        · exact Nat.le_succ_of_le (opened _)
      · split
        · exact Nat.succ_le_succ (Nat.succ_le_succ fresh)
        · exact Nat.succ_le_succ (opened _)
        · exact Nat.succ_le_succ (Nat.succ_le_succ fresh)

theorem length_of_mapM_id {items : List (Option Char)} {cs : List Char}
    (h : items.mapM id = some cs) : cs.length = items.length := by
  induction items generalizing cs with
  | nil =>
    cases h
    rfl
  | cons item items ih =>
    rw [List.mapM_cons, Option.bind_eq_bind, Option.bind_eq_some_iff] at h
    obtain ⟨c, -, h⟩ := h
    obtain ⟨rest, others, same⟩ := Option.bind_eq_some_iff.1 h
    cases same
    rw [List.length_cons, List.length_cons, ih others]

/-- A text has no more characters than bytes. -/
theorem length_le_of_decode? {bs : List UInt8} {cs : List Char} (h : decode? bs = some cs) :
    cs.length ≤ bs.length := by
  rw [length_of_mapM_id h]
  exact (length_scan_le bs).1

end Utf8

namespace Percent

/-! ## Ways to write bytes -/

/-- The characters that may stand for themselves: the letters and digits of ASCII and four signs. -/
def isUnreserved (c : Char) : Bool := c.isAlphanum || ['-', '_', '.', '~'].contains c

/-- The texts that write bytes.  An unreserved character writes its own byte; a percent sign and two
hexadecimal digits write the byte of their value. -/
inductive Writes : List Char → List UInt8 → Prop
  | nil : Writes [] []
  | plain {c : Char} (unreserved : isUnreserved c = true) {cs : List Char} {bs : List UInt8}
      (rest : Writes cs bs) : Writes (c :: cs) (c.toNat.toUInt8 :: bs)
  | escaped {a b : Char} {high low : Nat} (first : hexValue? a = some high)
      (second : hexValue? b = some low) {cs : List Char} {bs : List UInt8}
      (rest : Writes cs bs) : Writes ('%' :: a :: b :: cs) ((high * 16 + low).toUInt8 :: bs)

theorem toNat_lt_of_isUnreserved {c : Char} (h : isUnreserved c = true) : c.toNat < 0x80 := by
  rw [isUnreserved, Bool.or_eq_true] at h
  rcases h with h | h
  · rcases Bool.or_eq_true_iff.1 h with letter | digit
    · rcases Bool.or_eq_true_iff.1 letter with upper | lower
      · have below : c.val ≤ 'Z'.val := (of_decide_eq_true upper).2
        exact Nat.lt_of_le_of_lt below (by decide)
      · have below : c.val ≤ 'z'.val := of_decide_eq_true (Bool.and_eq_true_iff.1 lower).2
        exact Nat.lt_of_le_of_lt below (by decide)
    · have below : c.val ≤ '9'.val := of_decide_eq_true (Bool.and_eq_true_iff.1 digit).2
      exact Nat.lt_of_le_of_lt below (by decide)
  · simp only [List.contains_iff_mem, List.mem_cons, List.not_mem_nil, or_false] at h
    rcases h with rfl | rfl | rfl | rfl <;> decide

theorem isUnreserved_of_hexValue? {c : Char} {n : Nat} (h : hexValue? c = some n) :
    isUnreserved c = true := by
  have low : c.toNat < 0x80 := by
    rw [hexValue?] at h
    split at h
    · omega
    · split at h
      · omega
      · split at h
        · omega
        · cases h
  -- what is left to look at are the characters of ASCII, one by one
  have all : (hexValue? c).isSome = true → isUnreserved c = true :=
    forall_of_toNat_lt (p := fun c => (hexValue? c).isSome = true → isUnreserved c = true)
      (by decide) low
  exact all (by rw [h]; rfl)

/-- What is written consists of unreserved characters and percent signs. -/
theorem Writes.mem {cs : List Char} {bs : List UInt8} (h : Writes cs bs) {c : Char}
    (there : c ∈ cs) : isUnreserved c = true ∨ c = '%' := by
  induction h with
  | nil => cases there
  | plain unreserved rest ih =>
    rcases List.mem_cons.1 there with rfl | there
    · exact .inl unreserved
    · exact ih there
  | escaped first second rest ih =>
    simp only [List.mem_cons] at there
    rcases there with rfl | rfl | rfl | there
    · exact .inr rfl
    · exact .inl (isUnreserved_of_hexValue? first)
    · exact .inl (isUnreserved_of_hexValue? second)
    · exact ih there

/-! ## Decoding -/

/-- A byte that is no percent sign is kept. -/
theorem decode_cons {b : UInt8} (plain : b ≠ 0x25) (bs : List UInt8) :
    decode (b :: bs) = b :: decode bs := by
  rw [decode]
  intro x y rest same
  exact absurd same plain

/-- The byte of a hexadecimal digit has its value. -/
theorem hexByte?_of_hexValue? {c : Char} {n : Nat} (h : hexValue? c = some n) :
    hexByte? c.toNat.toUInt8 = some n := by
  have low := toNat_lt_of_isUnreserved (isUnreserved_of_hexValue? h)
  rw [hexByte?, Utf8.toNat_toUInt8 (by omega), Char.ofNat_toNat, h]

/-- **What is written is decoded**: the bytes of a text that writes bytes are decoded to these. -/
theorem decode_of_writes {cs : List Char} {bs : List UInt8} (h : Writes cs bs) :
    decode (Utf8.encode cs) = bs := by
  induction h with
  | nil => rfl
  | @plain c unreserved cs bs rest ih =>
    have low := toNat_lt_of_isUnreserved unreserved
    -- only the percent sign itself has its byte, and it is reserved
    have noSign : c.toNat.toUInt8 ≠ 0x25 := by
      intro same
      have number : c.toNat = 0x25 := by
        rw [← Utf8.toNat_toUInt8 (n := c.toNat) (by omega), same]
        rfl
      have sign : c = '%' := by rw [← Char.ofNat_toNat c, number]
      rw [sign] at unreserved
      exact absurd unreserved (by decide)
    rw [Utf8.encode_cons, Utf8.encodeChar_of_ascii low, List.singleton_append,
      decode_cons noSign, ih]
  | @escaped a b high low first second cs bs rest ih =>
    have lowA := toNat_lt_of_isUnreserved (isUnreserved_of_hexValue? first)
    have lowB := toNat_lt_of_isUnreserved (isUnreserved_of_hexValue? second)
    rw [Utf8.encode_cons, Utf8.encode_cons, Utf8.encode_cons, Utf8.encodeChar_of_ascii lowA,
      Utf8.encodeChar_of_ascii lowB]
    change decode (0x25 :: a.toNat.toUInt8 :: b.toNat.toUInt8 :: Utf8.encode cs) = _
    rw [decode, hexByte?_of_hexValue? first, hexByte?_of_hexValue? second, ih]

/-- A text whose bytes are written is decoded. -/
theorem decodeText?_of_writes {cs text : List Char} (h : Writes cs (Utf8.encode text)) :
    decodeText? cs = some text := by
  rw [decodeText?, decode_of_writes h, Utf8.decode?_encode]

theorem length_decode_le (bs : List UInt8) : (decode bs).length ≤ bs.length := by
  induction bs using decode.induct with
  | case1 a b rest x y first second ih =>
    rw [decode, first, second]
    simp only [List.length_cons]
    omega
  | case2 a b rest noDigits ih =>
    rw [decode]
    split
    · next first second => exact absurd second (noDigits _ _ first)
    · exact Nat.succ_le_succ ih
  | case3 b rest _ ih =>
    rw [decode]
    · exact Nat.succ_le_succ ih
    · assumption
  | case4 => exact Nat.le_refl 0

/-- Decoding ASCII makes no text longer. -/
theorem length_le_of_decodeText? {cs text : List Char} (ascii : ∀ c ∈ cs, c.toNat < 0x80)
    (h : decodeText? cs = some text) : text.length ≤ cs.length :=
  calc text.length ≤ (decode (Utf8.encode cs)).length := Utf8.length_le_of_decode? h
    _ ≤ (Utf8.encode cs).length := length_decode_le _
    _ = cs.length := Utf8.length_encode_of_ascii ascii

/-! ## Encoding -/

theorem hexValue?_hexDigit {n : Nat} (h : n < 16) : hexValue? (hexDigit n) = some n := by
  have all : ∀ n < 16, hexValue? (hexDigit n) = some n := by decide
  exact all n h

theorem Writes.append {cs ds : List Char} {bs es : List UInt8} (front : Writes cs bs)
    (back : Writes ds es) : Writes (cs ++ ds) (bs ++ es) := by
  induction front with
  | nil => exact back
  | plain unreserved _ ih => exact .plain unreserved ih
  | escaped first second _ ih => exact .escaped first second ih

/-- The escapes of bytes write them. -/
theorem writes_escapes (bs : List UInt8) : Writes (bs.flatMap escape) bs := by
  induction bs with
  | nil => exact .nil
  | cons b bs ih =>
    have whole : (b.toNat / 16 * 16 + b.toNat % 16).toUInt8 = b := by
      rw [Nat.div_add_mod' b.toNat 16]
      exact UInt8.ofNat_toNat
    have bound : b.toNat < 256 := b.toNat_lt
    have written := Writes.escaped (hexValue?_hexDigit (n := b.toNat / 16) (by omega))
      (hexValue?_hexDigit (n := b.toNat % 16) (by omega)) ih
    rwa [whole] at written

/-- Escaping all but the unreserved characters is one way to write a text. -/
theorem writes_encodeWhere (cs : List Char) :
    Writes (encodeWhere (fun c => !isUnreserved c) cs) (Utf8.encode cs) := by
  induction cs with
  | nil => exact .nil
  | cons c cs ih =>
    refine Writes.append ?_ ih
    rw [encodeCharWhere]
    split
    · next plain =>
      simp only [Bool.not_not, Bool.and_eq_true, decide_eq_true_eq] at plain
      rw [Utf8.encodeChar_of_ascii plain.1]
      exact .plain plain.2 .nil
    · exact writes_escapes _

end Percent
end Reachability
