/-
# Text in bytes

What is written as bytes reads back, and bytes that are read as a text are those of the text.  The
bytes of a character are one of four sequences, by the size of its number; the first byte tells how
many follow and between which bounds the next one lies, and each that follows brings six bits of the
number.

Main results:

* `scan_encodeChar_append` : the bytes of a character are scanned as that character;
* `decode?_encode`, `decodeLossy_encode` : the bytes of a text are read as that text;
* `encode_of_decode?` : what is read as a text are the bytes of that text;
* `mem_of_mem_encode` : a byte of seven bits stands for a character of its own.
-/
import Mathlib.Data.List.Basic
import Reachability.Text.Utf8

namespace Reachability

/-! ## Numbers of characters -/

/-- What holds of all numbers up to a bound holds of the characters that they stand for. -/
theorem forall_of_toNat_lt {p : Char → Prop} {b : Nat} (h : ∀ n < b, p (Char.ofNat n)) {c : Char}
    (low : c.toNat < b) : p c := by
  have hp := h c.toNat low
  rwa [Char.ofNat_toNat] at hp

namespace Utf8

/-- The numbers of characters end below 0x110000 and leave out the surrogates. -/
theorem toNat_bounds (c : Char) : c.toNat < 0x110000 ∧ ¬(0xd800 ≤ c.toNat ∧ c.toNat < 0xe000) := by
  have valid : c.toNat.isValidChar := c.valid
  unfold Nat.isValidChar at valid
  omega

theorem toNat_toUInt8 {n : Nat} (h : n < 256) : n.toUInt8.toNat = n := by
  rw [Nat.toUInt8, UInt8.toNat_ofNat']
  omega

/-! ## Sequences of bytes -/

section Sequence

variable {need low high value n : Nat}

/-- A byte that a sequence goes on with. -/
theorem scan_some_cons (more : 1 < need) (small : n < 256) (within : low ≤ n ∧ n ≤ high)
    (bs : List UInt8) : scan (some ⟨need, low, high, value⟩) (n.toUInt8 :: bs) =
      scan (some ⟨need - 1, 0x80, 0xbf, value * 64 + (n - 0x80)⟩) bs := by
  rw [scan, toNat_toUInt8 small, if_pos within]
  exact if_neg (Nat.not_le.2 more)

/-- The last byte of a sequence. -/
theorem scan_some_last (small : n < 256) (within : low ≤ n ∧ n ≤ high) (bs : List UInt8) :
    scan (some ⟨1, low, high, value⟩) (n.toUInt8 :: bs) =
      some (Char.ofNat (value * 64 + (n - 0x80))) :: scan none bs := by
  rw [scan, toNat_toUInt8 small, if_pos within]
  rfl

/-- The first byte of a sequence. -/
theorem scan_none_cons {p : Pending} (opens : lead n.toUInt8 = .opens p) (bs : List UInt8) :
    scan none (n.toUInt8 :: bs) = scan (some p) bs := by
  rw [scan, opens]

/-- The first of two bytes. -/
theorem lead_of_two (wide : 0x80 ≤ n) (short : n < 0x800) :
    lead (0xc0 + n / 64).toUInt8 = .opens ⟨1, 0x80, 0xbf, n / 64⟩ := by
  rw [lead, toNat_toUInt8 (by omega)]
  rw [if_neg (by omega), if_neg (by omega), if_pos (by omega), Nat.add_sub_cancel_left]

/-- The first of three bytes leaves out the sequences that have a shorter form, and the
surrogates. -/
theorem lead_of_three (wide : 0x800 ≤ n) (short : n < 0x10000)
    (noSurrogate : ¬(0xd800 ≤ n ∧ n < 0xe000)) :
    ∃ low high, lead (0xe0 + n / 4096).toUInt8 = .opens ⟨2, low, high, n / 4096⟩ ∧
      low ≤ 0x80 + n / 64 % 64 ∧ 0x80 + n / 64 % 64 ≤ high := by
  rw [lead, toNat_toUInt8 (by omega)]
  rw [if_neg (by omega), if_neg (by omega), if_neg (by omega), Nat.add_sub_cancel_left]
  split
  case isTrue first =>
    refine ⟨0xa0, 0xbf, ?_, by omega, by omega⟩
    rw [show n / 4096 = 0 by omega]
  case isFalse =>
    split
    case isTrue => exact ⟨0x80, 0x9f, rfl, by omega, by omega⟩
    case isFalse =>
      rw [if_pos (by omega)]
      exact ⟨0x80, 0xbf, rfl, by omega, by omega⟩

/-- The first of four bytes leaves out the sequences that have a shorter form, and what lies behind
the last character. -/
theorem lead_of_four (wide : 0x10000 ≤ n) (below : n < 0x110000) :
    ∃ low high, lead (0xf0 + n / 262144).toUInt8 = .opens ⟨3, low, high, n / 262144⟩ ∧
      low ≤ 0x80 + n / 4096 % 64 ∧ 0x80 + n / 4096 % 64 ≤ high := by
  rw [lead, toNat_toUInt8 (by omega)]
  rw [if_neg (by omega), if_neg (by omega), if_neg (by omega), if_neg (by omega),
    if_neg (by omega), if_neg (by omega), Nat.add_sub_cancel_left]
  split
  case isTrue first =>
    refine ⟨0x90, 0xbf, ?_, by omega, by omega⟩
    rw [show n / 262144 = 0 by omega]
  case isFalse =>
    split
    case isTrue => exact ⟨0x80, 0xbf, rfl, by omega, by omega⟩
    case isFalse =>
      rw [if_pos (by omega)]
      exact ⟨0x80, 0x8f, rfl, by omega, by omega⟩

end Sequence

/-! ## Characters and texts -/

/-- The bytes of a character are scanned as that character. -/
theorem scan_encodeChar_append (c : Char) (bs : List UInt8) :
    scan none (encodeChar c ++ bs) = some c :: scan none bs := by
  obtain ⟨below, noSurrogate⟩ := toNat_bounds c
  have whole : Char.ofNat c.toNat = c := Char.ofNat_toNat c
  rw [encodeChar]
  generalize c.toNat = n at *
  subst whole
  have six (k : Nat) : 0x80 ≤ 0x80 + k % 64 ∧ 0x80 + k % 64 ≤ 0xbf := by omega
  by_cases one : n < 0x80
  · rw [if_pos one, List.singleton_append, scan, lead, toNat_toUInt8 (by omega)]
    rw [if_pos one]
  rw [if_neg one]
  by_cases two : n < 0x800
  · rw [if_pos two, List.cons_append, scan_none_cons (lead_of_two (by omega) two),
      List.singleton_append, scan_some_last (by omega) (six n)]
    rw [show n / 64 * 64 + (0x80 + n % 64 - 0x80) = n by omega]
  rw [if_neg two]
  by_cases three : n < 0x10000
  · obtain ⟨low, high, opens, within⟩ := lead_of_three (by omega) three noSurrogate
    rw [if_pos three, List.cons_append, scan_none_cons opens, List.cons_append,
      scan_some_cons (by omega) (by omega) within, List.singleton_append,
      scan_some_last (by omega) (six n)]
    rw [show (n / 4096 * 64 + (0x80 + n / 64 % 64 - 0x80)) * 64 + (0x80 + n % 64 - 0x80) = n by
      omega]
  · obtain ⟨low, high, opens, within⟩ := lead_of_four (by omega) below
    rw [if_neg three, List.cons_append, scan_none_cons opens, List.cons_append,
      scan_some_cons (by omega) (by omega) within, List.cons_append,
      scan_some_cons (by omega) (by omega) (six (n / 64)), List.singleton_append,
      scan_some_last (by omega) (six n)]
    rw [show ((n / 262144 * 64 + (0x80 + n / 4096 % 64 - 0x80)) * 64 +
      (0x80 + n / 64 % 64 - 0x80)) * 64 + (0x80 + n % 64 - 0x80) = n by omega]

/-- The bytes of a text are read as that text. -/
theorem decode?_encode (cs : List Char) : decode? (encode cs) = some cs := by
  induction cs with
  | nil => rfl
  | cons c cs ih =>
    rw [decode?] at ih ⊢
    rw [encode, List.flatMap_cons, scan_encodeChar_append, List.mapM_cons]
    change ((scan none (encode cs)).mapM id >>= fun cs => some (c :: cs)) = _
    rw [ih]
    rfl

/-- Nor is anything lost when they are read with replacement. -/
theorem decodeLossy_encode (cs : List Char) : decodeLossy (encode cs) = cs := by
  induction cs with
  | nil => rfl
  | cons c cs ih =>
    rw [decodeLossy] at ih ⊢
    rw [encode, List.flatMap_cons, scan_encodeChar_append, List.map_cons]
    exact congrArg (c :: ·) ih

theorem encode_inj {cs ds : List Char} : encode cs = encode ds ↔ cs = ds := by
  constructor
  · intro same
    rw [← decodeLossy_encode cs, same, decodeLossy_encode]
  · rintro rfl
    rfl

/-! ## Bytes of seven bits -/

/-- A byte of seven bits is all of a character. -/
theorem eq_of_mem_encodeChar {c : Char} {b : UInt8} (there : b ∈ encodeChar c)
    (short : b.toNat < 0x80) : c = Char.ofNat b.toNat := by
  have below := (toNat_bounds c).1
  have whole : Char.ofNat c.toNat = c := Char.ofNat_toNat c
  rw [encodeChar] at there
  generalize c.toNat = n at *
  subst whole
  by_cases one : n < 0x80
  · rw [if_pos one, List.mem_singleton] at there
    rw [there, toNat_toUInt8 (by omega)]
  -- all the bytes of a longer sequence have eight bits
  exfalso
  rw [if_neg one] at there
  split at there
  · rw [List.mem_cons, List.mem_singleton] at there
    rcases there with rfl | rfl <;> rw [toNat_toUInt8 (by omega)] at short <;> omega
  · split at there
    · rw [List.mem_cons, List.mem_cons, List.mem_singleton] at there
      rcases there with rfl | rfl | rfl <;> rw [toNat_toUInt8 (by omega)] at short <;> omega
    · rw [List.mem_cons, List.mem_cons, List.mem_cons, List.mem_singleton] at there
      rcases there with rfl | rfl | rfl | rfl <;> rw [toNat_toUInt8 (by omega)] at short <;> omega

/-- A byte of seven bits stands for a character of its own. -/
theorem mem_of_mem_encode {cs : List Char} {b : UInt8} (there : b ∈ encode cs)
    (short : b.toNat < 0x80) : Char.ofNat b.toNat ∈ cs := by
  obtain ⟨c, hc, hb⟩ := List.mem_flatMap.1 there
  rwa [← eq_of_mem_encodeChar hb short]

/-! ## Bytes that are read -/

section Read

variable {low high value : Nat} {bs : List UInt8} {cs : List Char}

/-- A number that is that of a character. -/
theorem toNat_ofNat {n : Nat} (below : n < 0x110000) (noSurrogate : ¬(0xd800 ≤ n ∧ n < 0xe000)) :
    (Char.ofNat n).toNat = n := by
  have valid : n.isValidChar := by
    unfold Nat.isValidChar
    omega
  rw [Char.ofNat, dif_pos valid]
  rfl

/-- A sequence that is read without a gap goes on with a byte between its bounds. -/
theorem exists_of_scan_some {need : Nat}
    (h : scan (some ⟨need, low, high, value⟩) bs = cs.map some) :
    ∃ b rest, bs = b :: rest ∧ low ≤ b.toNat ∧ b.toNat ≤ high ∧
      (if need ≤ 1 then some (Char.ofNat (value * 64 + (b.toNat - 0x80))) :: scan none rest
        else scan (some ⟨need - 1, 0x80, 0xbf, value * 64 + (b.toNat - 0x80)⟩) rest) =
          cs.map some := by
  cases bs with
  | nil =>
    cases cs <;> cases h
  | cons b rest =>
    rw [scan] at h
    dsimp only at h
    split at h
    · next within => exact ⟨b, rest, rfl, within.1, within.2, h⟩
    · -- a byte that does not fit leaves a gap in front
      cases cs with
      | nil => split at h <;> cases h
      | cons c cs => split at h <;> simp at h

/-- The last byte of a sequence completes a character. -/
theorem exists_of_scan_last (h : scan (some ⟨1, low, high, value⟩) bs = cs.map some) :
    ∃ b rest more, bs = b :: rest ∧ low ≤ b.toNat ∧ b.toNat ≤ high ∧
      cs = Char.ofNat (value * 64 + (b.toNat - 0x80)) :: more ∧ scan none rest = more.map some := by
  obtain ⟨b, rest, hbs, hlow, hhigh, hscan⟩ := exists_of_scan_some h
  rw [if_pos (Nat.le_refl 1)] at hscan
  cases cs with
  | nil => cases hscan
  | cons c more =>
    rw [List.map_cons, List.cons.injEq, Option.some.injEq] at hscan
    exact ⟨b, rest, more, hbs, hlow, hhigh, by rw [hscan.1], hscan.2⟩

/-- Another byte of a sequence brings six bits. -/
theorem exists_of_scan_more {need : Nat} (more : 1 < need)
    (h : scan (some ⟨need, low, high, value⟩) bs = cs.map some) :
    ∃ b rest, bs = b :: rest ∧ low ≤ b.toNat ∧ b.toNat ≤ high ∧
      scan (some ⟨need - 1, 0x80, 0xbf, value * 64 + (b.toNat - 0x80)⟩) rest = cs.map some := by
  obtain ⟨b, rest, hbs, hlow, hhigh, hscan⟩ := exists_of_scan_some h
  rw [if_neg (Nat.not_le.2 more)] at hscan
  exact ⟨b, rest, hbs, hlow, hhigh, hscan⟩

/-- A byte that opens a sequence tells its length; the bounds of the next one rule out what has a
shorter form and what is no character. -/
theorem lead_eq_opens {b : UInt8} {p : Pending} (h : lead b = .opens p) :
    (0xc2 ≤ b.toNat ∧ b.toNat < 0xe0 ∧ p = ⟨1, 0x80, 0xbf, b.toNat - 0xc0⟩) ∨
    (∃ low high, 0xe0 ≤ b.toNat ∧ b.toNat < 0xf0 ∧ p = ⟨2, low, high, b.toNat - 0xe0⟩ ∧
      0x80 ≤ low ∧ high ≤ 0xbf ∧ (b.toNat = 0xe0 → 0xa0 ≤ low) ∧ (b.toNat = 0xed → high ≤ 0x9f)) ∨
    (∃ low high, 0xf0 ≤ b.toNat ∧ b.toNat < 0xf5 ∧ p = ⟨3, low, high, b.toNat - 0xf0⟩ ∧
      0x80 ≤ low ∧ high ≤ 0xbf ∧ (b.toNat = 0xf0 → 0x90 ≤ low) ∧
      (b.toNat = 0xf4 → high ≤ 0x8f)) := by
  unfold lead at h
  dsimp only at h
  generalize b.toNat = n at h ⊢
  split at h
  · cases h
  split at h
  · cases h
  split at h
  · cases h
    exact .inl ⟨by omega, by omega, rfl⟩
  split at h
  · cases h
    exact .inr (.inl ⟨_, _, by omega, by omega, by subst n; rfl, by omega⟩)
  split at h
  · cases h
    exact .inr (.inl ⟨_, _, by omega, by omega, rfl, by omega⟩)
  split at h
  · cases h
    exact .inr (.inl ⟨_, _, by omega, by omega, rfl, by omega⟩)
  split at h
  · cases h
    exact .inr (.inr ⟨_, _, by omega, by omega, by subst n; rfl, by omega⟩)
  split at h
  · cases h
    exact .inr (.inr ⟨_, _, by omega, by omega, rfl, by omega⟩)
  split at h
  · cases h
    exact .inr (.inr ⟨_, _, by omega, by omega, rfl, by omega⟩)
  · cases h

/-- A number that is written as a byte. -/
theorem toUInt8_eq {n : Nat} {b : UInt8} (h : n = b.toNat) : n.toUInt8 = b := by
  rw [h, Nat.toUInt8, UInt8.ofNat_toNat]

/-- A sequence that is read as a character is that character's. -/
theorem exists_of_scan_opens {b : UInt8} {p : Pending} (opens : lead b = .opens p)
    (h : scan (some p) bs = cs.map some) :
    ∃ c rest more, cs = c :: more ∧ b :: bs = encodeChar c ++ rest ∧
      scan none rest = more.map some := by
  rcases lead_eq_opens opens with ⟨wide, short, rfl⟩ |
    ⟨low, high, wide, short, rfl, hlow, hhigh, first, last⟩ |
    ⟨low, high, wide, short, rfl, hlow, hhigh, first, last⟩
  · obtain ⟨b₁, rest, more, rfl, low₁, high₁, rfl, hrest⟩ := exists_of_scan_last h
    refine ⟨_, rest, more, rfl, ?_, hrest⟩
    rw [encodeChar, toNat_ofNat (by omega) (by omega), if_neg (by omega), if_pos (by omega),
      toUInt8_eq (b := b) (by omega), toUInt8_eq (b := b₁) (by omega)]
    rfl
  · obtain ⟨b₁, bs, rfl, low₁, high₁, h⟩ := exists_of_scan_more (by omega) h
    obtain ⟨b₂, rest, more, rfl, low₂, high₂, rfl, hrest⟩ := exists_of_scan_last h
    refine ⟨_, rest, more, rfl, ?_, hrest⟩
    rw [encodeChar, toNat_ofNat (by omega) (by omega), if_neg (by omega), if_neg (by omega),
      if_pos (by omega), toUInt8_eq (b := b) (by omega), toUInt8_eq (b := b₁) (by omega),
      toUInt8_eq (b := b₂) (by omega)]
    rfl
  · obtain ⟨b₁, bs, rfl, low₁, high₁, h⟩ := exists_of_scan_more (by omega) h
    obtain ⟨b₂, bs, rfl, low₂, high₂, h⟩ := exists_of_scan_more (by omega) h
    obtain ⟨b₃, rest, more, rfl, low₃, high₃, rfl, hrest⟩ := exists_of_scan_last h
    refine ⟨_, rest, more, rfl, ?_, hrest⟩
    rw [encodeChar, toNat_ofNat (by omega) (by omega), if_neg (by omega), if_neg (by omega),
      if_neg (by omega), toUInt8_eq (b := b) (by omega), toUInt8_eq (b := b₁) (by omega),
      toUInt8_eq (b := b₂) (by omega), toUInt8_eq (b := b₃) (by omega)]
    rfl

/-- Bytes that are scanned without a gap are those of their characters. -/
theorem encode_of_scan (h : scan none bs = cs.map some) : encode cs = bs := by
  induction hn : bs.length using Nat.strongRecOn generalizing bs cs with
  | ind n ih =>
    cases bs with
    | nil =>
      obtain rfl : cs = [] := List.map_eq_nil_iff.1 h.symm
      rfl
    | cons b bs =>
      rw [scan] at h
      cases hlead : lead b with
      | bad =>
        rw [hlead] at h
        cases cs <;> cases h
      | char c =>
        rw [hlead] at h
        cases cs with
        | nil => cases h
        | cons d cs =>
          rw [List.map_cons, List.cons.injEq, Option.some.injEq] at h
          obtain ⟨rfl, h⟩ := h
          have single : encodeChar c = [b] := by
            unfold lead at hlead
            dsimp only at hlead
            split at hlead
            · next low =>
              obtain rfl := Lead.char.inj hlead
              rw [encodeChar, toNat_ofNat (by omega) (by omega), if_pos low, toUInt8_eq rfl]
            · repeat' split at hlead
              all_goals cases hlead
          have tail := ih bs.length (by rw [← hn]; exact Nat.lt_succ_self _) h rfl
          rw [encode] at tail ⊢
          rw [List.flatMap_cons, single, tail]
          rfl
      | opens p =>
        rw [hlead] at h
        obtain ⟨c, rest, more, rfl, hbs, hrest⟩ := exists_of_scan_opens hlead h
        have shorter : rest.length < n := by
          have some_bytes : encodeChar c ≠ [] := by
            unfold encodeChar
            dsimp only
            repeat' split
            all_goals simp
          have hlength := congrArg List.length hbs
          rw [List.length_append, hn] at hlength
          have := List.length_pos_of_ne_nil some_bytes
          omega
        have tail := ih rest.length shorter hrest rfl
        rw [encode] at tail ⊢
        rw [hbs, List.flatMap_cons, tail]

/-- A list without a gap. -/
theorem eq_map_of_mapM_id {α : Type} {items : List (Option α)} {as : List α}
    (h : items.mapM id = some as) : items = as.map some := by
  induction items generalizing as with
  | nil =>
    cases h
    rfl
  | cons item items ih =>
    rw [List.mapM_cons] at h
    obtain ⟨a, hitem, h⟩ := Option.bind_eq_some_iff.1 h
    obtain ⟨as, hitems, h⟩ := Option.bind_eq_some_iff.1 h
    cases h
    rw [List.map_cons, ih hitems, ← hitem]
    rfl

/-- What is read as a text are the bytes of that text. -/
theorem encode_of_decode? (h : decode? bs = some cs) : encode cs = bs :=
  encode_of_scan (eq_map_of_mapM_id h)

end Read

end Utf8
end Reachability
