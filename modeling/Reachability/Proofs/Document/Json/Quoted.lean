/-
# Strings of JSON

What stands between the quotes of a string is a sequence of symbols: characters, as they are or
escaped, and code units of UTF-16 in hexadecimal.  Two units that are a surrogate pair are one
character; a surrogate without its partner makes the string unreadable.

Main definitions:

* `Json.Symbol`, `Json.Symbol.Writes` : a symbol, and how it is written;
* `Json.Quotes` : what stands between quotes;
* `Json.characters?` : the characters that symbols are.

Main results:

* `string?_of_quotes` : a string is read as the characters of its symbols;
* `quotes_escape`, `characters?_map_symbolOf` : what is printed between quotes.
-/
import Reachability.Document.Json.Printer
import Reachability.Document.Json.Reader

namespace Reachability.Json

/-! ## Symbols -/

/-- A character, or a code unit of UTF-16. -/
inductive Symbol
  | char (c : Char)
  | unit (n : Nat)

/-- The ways in which a symbol is written. -/
inductive Symbol.Writes : List Char → Symbol → Prop
  | plain {c : Char} (noQuote : c ≠ '"') (noBackslash : c ≠ '\\') (high : 0x20 ≤ c.toNat) :
      Writes [c] (.char c)
  | short {e c : Char} (stands : escaped? e = some c) : Writes ['\\', e] (.char c)
  | unit {digits : List Char} {n : Nat} (hex : fourHex? digits = some (n, [])) :
      Writes ('\\' :: 'u' :: digits) (.unit n)

/-- What stands between quotes. -/
inductive Quotes : List Char → List Symbol → Prop
  | nil : Quotes [] []
  | cons {text body : List Char} {s : Symbol} {symbols : List Symbol} (first : s.Writes text)
      (more : Quotes body symbols) : Quotes (text ++ body) (s :: symbols)

/-- The character of a surrogate pair. -/
def joined (high low : Nat) : Char :=
  Char.ofNat (0x10000 + (high - 0xd800) * 0x400 + (low - 0xdc00))

/-- The characters that symbols are, unless a surrogate has no partner. -/
def characters? : List Symbol → Option (List Char)
  | [] => some []
  | .char c :: more => (characters? more).map (c :: ·)
  | .unit n :: more =>
      if isHighSurrogate n then
        match more with
        | .unit m :: more =>
            if isLowSurrogate m then (characters? more).map (joined n m :: ·) else none
        | _ => none
      else if isLowSurrogate n then none
      else (characters? more).map (Char.ofNat n :: ·)

theorem characters?_pair {n m : Nat} (high : isHighSurrogate n = true) (more : List Symbol) :
    characters? (.unit n :: .unit m :: more) =
      if isLowSurrogate m then (characters? more).map (joined n m :: ·) else none := by
  rw [characters?, if_pos high]

theorem characters?_lone {n : Nat} {more : List Symbol} (high : isHighSurrogate n = true)
    (lone : ∀ m symbols, more ≠ .unit m :: symbols) : characters? (.unit n :: more) = none := by
  rw [characters?, if_pos high]
  exact lone

theorem characters?_unit {n : Nat} (noHigh : ¬isHighSurrogate n = true) (more : List Symbol) :
    characters? (.unit n :: more) =
      if isLowSurrogate n then none else (characters? more).map (Char.ofNat n :: ·) := by
  rw [characters?.eq_def]
  exact if_neg noHigh

/-! ## Reading -/

variable {text body rest : List Char} {s : Symbol} {symbols : List Symbol}

theorem Symbol.Writes.length_pos (written : s.Writes text) : 0 < text.length := by
  cases written <;> exact Nat.succ_pos _

theorem fourHex?_append {digits : List Char} {n : Nat} (hex : fourHex? digits = some (n, []))
    (rest : List Char) : fourHex? (digits ++ rest) = some (n, rest) := by
  match digits, hex with
  | a :: b :: c :: d :: more, hex =>
    simp only [fourHex?, Option.bind_eq_bind, Option.bind_eq_some_iff, Option.some.injEq,
      Prod.mk.injEq] at hex
    obtain ⟨w, ha, x, hb, y, hc, z, hd, value, rfl⟩ := hex
    simp [fourHex?, ha, hb, hc, hd, value]

/-- A character is taken, unless half of a pair waits for its partner. -/
theorem stringRest?_char {c : Char} (written : (Symbol.char c).Writes text) (fuel : Nat)
    (pending : Option Nat) (acc : Scanned) (rest : List Char) :
    stringRest? (fuel + 1) pending acc (text ++ rest) =
      stringRest? fuel none ((if pending.isSome then none else acc).map (c :: ·)) rest := by
  cases written with
  | plain noQuote noBackslash high =>
    simp [stringRest?, noQuote, noBackslash, Nat.not_lt.2 high]
  | @short e _ stands =>
    have noUnit : e ≠ 'u' := by
      rintro rfl
      cases stands
    simp [stringRest?, stands]

/-- A code unit is a character, or it opens a pair, or it spoils the string. -/
theorem stringRest?_unit {n : Nat} (written : (Symbol.unit n).Writes text) (fuel : Nat)
    (acc : Scanned) (rest : List Char) : stringRest? (fuel + 1) none acc (text ++ rest) =
      if isHighSurrogate n then stringRest? fuel (some n) acc rest
      else if isLowSurrogate n then stringRest? fuel none none rest
      else stringRest? fuel none (acc.map (Char.ofNat n :: ·)) rest := by
  obtain - | - | hex := written
  rw [List.cons_append, List.cons_append, stringRest?, if_neg (by decide), if_pos rfl]
  simp only [fourHex?_append hex, Option.bind_eq_bind, Option.bind_some]

/-- A code unit behind half of a pair completes the pair, or it spoils the string. -/
theorem stringRest?_partner {n : Nat} (written : (Symbol.unit n).Writes text) (fuel high : Nat)
    (acc : Scanned) (rest : List Char) : stringRest? (fuel + 1) (some high) acc (text ++ rest) =
      if isLowSurrogate n then stringRest? fuel none (acc.map (joined high n :: ·)) rest
      else stringRest? fuel none none rest := by
  obtain - | - | hex := written
  rw [List.cons_append, List.cons_append, stringRest?, if_neg (by decide), if_pos rfl]
  simp only [fourHex?_append hex, Option.bind_eq_bind, Option.bind_some]
  rfl

/-- A string that is spoilt remains so. -/
theorem stringRest?_spoilt (quoted : Quotes body symbols) {fuel : Nat}
    (enough : body.length < fuel) (pending : Option Nat) (rest : List Char) :
    stringRest? fuel pending none (body ++ '"' :: rest) = some (none, rest) := by
  induction quoted generalizing fuel pending with
  | nil =>
    obtain ⟨fuel, rfl⟩ := Nat.exists_eq_succ_of_ne_zero (Nat.ne_zero_of_lt enough)
    simp [stringRest?]
  | @cons text body s symbols first more ih =>
    obtain ⟨fuel, rfl⟩ := Nat.exists_eq_succ_of_ne_zero (Nat.ne_zero_of_lt enough)
    have consumed := first.length_pos
    rw [List.length_append] at enough
    have later := @ih fuel (by omega)
    rw [List.append_assoc]
    cases s with
    | char c =>
      rw [stringRest?_char first]
      simpa using later none
    | unit n =>
      cases pending with
      | none =>
        rw [stringRest?_unit first]
        split
        · exact later (some n)
        · split <;> exact later none
      | some high =>
        rw [stringRest?_partner first]
        split <;> exact later none

/-- A character in front of the others. -/
theorem map_reverse_append (c : Char) (taken : List Char) (found : Option (List Char)) :
    (found.map (c :: ·)).map (fun cs => cs.reverse ++ taken) =
      found.map fun cs => cs.reverse ++ (c :: taken) := by
  cases found <;> simp

/-- Half of a pair that no code unit follows spoils the string. -/
theorem stringRest?_lone (quoted : Quotes body symbols) (lone : ∀ m more, symbols ≠ .unit m :: more)
    {fuel : Nat} (enough : body.length < fuel) (high : Nat) (acc : Scanned) (rest : List Char) :
    stringRest? fuel (some high) acc (body ++ '"' :: rest) = some (none, rest) := by
  obtain ⟨fuel, rfl⟩ := Nat.exists_eq_succ_of_ne_zero (Nat.ne_zero_of_lt enough)
  cases quoted with
  | nil => rfl
  | @cons text body s symbols first more =>
    have consumed := first.length_pos
    rw [List.length_append] at enough
    cases s with
    -- a character spoils the string when it is taken, and what stands behind it cannot mend it
    | char c =>
      rw [List.append_assoc, stringRest?_char first]
      exact stringRest?_spoilt more (by omega) none rest
    | unit m => exact absurd rfl (lone m symbols)

/-- The characters of a string are taken up to the closing quote. -/
theorem stringRest?_of_quotes (quoted : Quotes body symbols) {fuel : Nat}
    (enough : body.length < fuel) (taken rest : List Char) :
    stringRest? fuel none (some taken) (body ++ '"' :: rest) =
      some ((characters? symbols).map fun cs => cs.reverse ++ taken, rest) := by
  -- both halves of a pair are one case of the induction
  induction symbols using characters?.induct generalizing body fuel taken
  all_goals obtain ⟨fuel, rfl⟩ := Nat.exists_eq_succ_of_ne_zero (Nat.ne_zero_of_lt enough)
  case case1 =>
    cases quoted
    rfl
  all_goals
    obtain - | @⟨text, body, _, _, first, more⟩ := quoted
    have consumed := first.length_pos
    rw [List.length_append] at enough
    rw [List.append_assoc]
  case case2 c symbols ih =>
    rw [stringRest?_char first, characters?, map_reverse_append]
    exact ih more (by omega) (c :: taken)
  case case3 n high m symbols low ih =>
    obtain - | @⟨_, body, _, _, second, more⟩ := more
    have consumed' := second.length_pos
    rw [List.length_append] at enough
    obtain ⟨fuel, rfl⟩ := Nat.exists_eq_succ_of_ne_zero (n := fuel) (by omega)
    rw [stringRest?_unit first, if_pos high, List.append_assoc, stringRest?_partner second,
      if_pos low, characters?_pair high, if_pos low, map_reverse_append]
    exact ih more (by omega) (joined n m :: taken)
  case case4 n high m symbols noLow =>
    obtain - | @⟨_, body, _, _, second, more⟩ := more
    have consumed' := second.length_pos
    rw [List.length_append] at enough
    obtain ⟨fuel, rfl⟩ := Nat.exists_eq_succ_of_ne_zero (n := fuel) (by omega)
    rw [stringRest?_unit first, if_pos high, List.append_assoc, stringRest?_partner second,
      if_neg noLow, characters?_pair high, if_neg noLow]
    exact stringRest?_spoilt more (by omega) none rest
  case case5 n symbols high lone =>
    rw [stringRest?_unit first, if_pos high, characters?_lone high lone]
    exact stringRest?_lone more lone (by omega) n _ rest
  case case6 n symbols noHigh low =>
    rw [stringRest?_unit first, if_neg noHigh, if_pos low, characters?_unit noHigh, if_pos low]
    exact stringRest?_spoilt more (by omega) none rest
  case case7 n symbols noHigh noLow ih =>
    rw [stringRest?_unit first, if_neg noHigh, if_neg noLow, characters?_unit noHigh,
      if_neg noLow, map_reverse_append]
    exact ih more (by omega) (Char.ofNat n :: taken)

/-- **Strings are read.**  What stands up to the closing quote is read as the characters of its
symbols, or as unreadable if they are none. -/
theorem string?_of_quotes (quoted : Quotes body symbols) (rest : List Char) :
    string? (body ++ '"' :: rest) = some ((characters? symbols).map String.ofList, rest) := by
  rw [string?, stringRest?_of_quotes quoted (by rw [List.length_append]; omega)]
  cases characters? symbols <;> simp

/-! ## Printed strings -/

theorem hexValue?_hexDigit {n : Nat} (h : n < 16) : Percent.hexValue? (hexDigit n) = some n := by
  have all : ∀ n < 16, Percent.hexValue? (hexDigit n) = some n := by decide
  exact all n h

/-- The hexadecimal digits of a control character. -/
theorem fourHex?_of_lt {n : Nat} (h : n < 0x20) :
    fourHex? ['0', '0', hexDigit (n / 16), hexDigit (n % 16)] = some (n, []) := by
  have zero : Percent.hexValue? '0' = some 0 := by decide
  simp only [fourHex?, zero, hexValue?_hexDigit (show n / 16 < 16 by omega),
    hexValue?_hexDigit (show n % 16 < 16 by omega), Option.bind_eq_bind, Option.bind_some,
    Option.some.injEq, Prod.mk.injEq, and_true]
  omega

/-- The symbol that a character is printed as. -/
def symbolOf (c : Char) : Symbol :=
  if c.toNat < 0x20 ∧ c ∉ ['\x08', '\x0c', '\n', '\r', '\t'] then .unit c.toNat else .char c

theorem writes_escape (c : Char) : (symbolOf c).Writes (escape c) := by
  by_cases named : c ∈ ['"', '\\', '\x08', '\x0c', '\n', '\r', '\t']
  · simp only [List.mem_cons, List.not_mem_nil, or_false] at named
    rcases named with rfl | rfl | rfl | rfl | rfl | rfl | rfl
    all_goals exact .short rfl
  · simp only [List.mem_cons, List.not_mem_nil, or_false, not_or] at named
    obtain ⟨quote, backslash, h1, h2, h3, h4, h5⟩ := named
    rw [escape, if_neg quote, if_neg backslash, if_neg h1, if_neg h2, if_neg h3, if_neg h4,
      if_neg h5, symbolOf]
    by_cases low : c.toNat < 0x20
    · rw [if_pos low, if_pos ⟨low, by simp [h1, h2, h3, h4, h5]⟩]
      exact .unit (fourHex?_of_lt low)
    · rw [if_neg low, if_neg (not_and_of_not_left _ low)]
      exact .plain quote backslash (Nat.not_lt.1 low)

/-- What is printed between quotes. -/
theorem quotes_escape (cs : List Char) : Quotes (cs.flatMap escape) (cs.map symbolOf) := by
  induction cs with
  | nil => exact .nil
  | cons c cs ih => exact .cons (writes_escape c) ih

/-- What is printed between quotes are the characters themselves. -/
theorem characters?_map_symbolOf (cs : List Char) :
    characters? (cs.map symbolOf) = some cs := by
  induction cs with
  | nil => rfl
  | cons c cs ih =>
    rw [List.map_cons, symbolOf]
    split
    case isTrue control =>
      have noHigh : ¬isHighSurrogate c.toNat = true := by
        simp only [isHighSurrogate, Bool.and_eq_true, decide_eq_true_eq]
        omega
      have noLow : ¬isLowSurrogate c.toNat = true := by
        simp only [isLowSurrogate, Bool.and_eq_true, decide_eq_true_eq]
        omega
      rw [characters?_unit noHigh, if_neg noLow, ih, Char.ofNat_toNat]
      rfl
    case isFalse => rw [characters?, ih]; rfl

end Reachability.Json
