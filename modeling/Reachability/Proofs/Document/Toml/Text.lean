/-
# Strings of TOML

A text reads back in whichever form it is written: between plain quotes, between single quotes,
between three of either kind, or with escapes.

Main definitions:

* `Toml.IsEscape` : a text that is the escape of a character;
* `Toml.BlockText` : what stands for a text between three quotes, no three of them in a row.

Main results:

* `lineString_escapedText`, `lineString_append` : strings on one line;
* `blockText_escapedText`, `blockText_self`, `blockString_append` : strings of several lines;
* `string_escaped`, `string_singleQuoted`, `string_escapedLines`, `string_singleQuotedLines` : the
  four forms of a string;
* `string_quoted` : a string is read as the text that was written.
-/
import Mathlib.Data.List.TakeWhile
import Reachability.Document.Toml.Printer

namespace Reachability.Toml

/-! ## Escapes -/

/-- A text is the escape of a character, and no line end that is to be swallowed. -/
def IsEscape (c : Char) (text : List Char) : Prop :=
  ∃ tail, text = '\\' :: tail ∧
    ∀ rest, escape? (tail ++ rest) = some (c, rest) ∧ swallow? (tail ++ rest) = none

/-- A letter or a sign behind the backslash begins an escape, and ends no line. -/
theorem isEscape_cons {c e : Char} {more : List Char}
    (stands : ∀ rest, escape? (e :: (more ++ rest)) = some (c, rest))
    (visible : isBlank e = false) (noEnd : e ≠ '\n' ∧ e ≠ '\r') :
    IsEscape c ('\\' :: e :: more) := by
  refine ⟨e :: more, rfl, fun rest => ⟨stands rest, ?_⟩⟩
  have skipped : skipBlanks (e :: (more ++ rest)) = e :: (more ++ rest) :=
    List.dropWhile_cons_of_neg (by simp [visible])
  have noLine : lineEnd? (e :: (more ++ rest)) = none := by
    rw [lineEnd?]
    · simp [noEnd.1]
    · simp [noEnd.2]
  rw [List.cons_append, swallow?, skipped, noLine]

/-- Four digits name the character that they were made from. -/
theorem hexEscape?_fourHex {n : Nat} (low : n < 0x80) (rest : List Char) :
    hexEscape? 4 (fourHex n ++ rest) = some (Char.ofNat n, rest) := by
  have valued : ∀ n < 0x80, ((fourHex n).mapM Percent.hexValue?).map
      (fun ds => ds.foldl (fun v d => v * 16 + d) 0) = some n := by decide
  obtain ⟨ds, digits, value⟩ := Option.map_eq_some_iff.1 (valued n low)
  have valid : n.isValidChar := .inl (by omega)
  have taken : (fourHex n ++ rest).take 4 = fourHex n := List.take_left' rfl
  have left : (fourHex n ++ rest).drop 4 = rest := List.drop_left' rfl
  have enough : ¬(fourHex n).length < 4 := Nat.lt_irrefl 4
  have named : Char.ofNat n = Char.ofNatAux n valid := dif_pos valid
  rw [hexEscape?, taken, if_neg enough, digits, Option.bind_eq_bind, Option.bind_some]
  dsimp only
  rw [value, left, dif_pos valid, named]

/-- A character is written as its escape or stands for itself; a line end stands for itself only
in a string of several lines. -/
theorem escaped_cases (severalLines : Bool) (c : Char) :
    IsEscape c (escaped severalLines c) ∨
      escaped severalLines c = [c] ∧ c ≠ '\\' ∧
        (isPrintable c = true ∨ severalLines = true ∧ c = '\n') := by
  by_cases named : c ∈ ['\x08', '\t', '\x0c', '\r', '\\']
  · left
    simp only [List.mem_cons, List.not_mem_nil, or_false] at named
    rcases named with rfl | rfl | rfl | rfl | rfl
    all_goals exact isEscape_cons (fun _ => rfl) rfl (by decide)
  · simp only [List.mem_cons, List.not_mem_nil, or_false, not_or] at named
    obtain ⟨h1, h2, h3, h4, backslash⟩ := named
    by_cases newline : c = '\n'
    · subst newline
      cases severalLines with
      | false => exact .inl (isEscape_cons (fun _ => rfl) rfl (by decide))
      | true => exact .inr ⟨rfl, by decide, .inr ⟨rfl, rfl⟩⟩
    · rw [escaped, if_neg h1, if_neg h2, if_neg newline, if_neg h3, if_neg h4, if_neg backslash]
      by_cases control : (c.toNat < 0x20 || c.toNat = 0x7f) = true
      · rw [if_pos control]
        have low : c.toNat < 0x80 := by
          simp only [Bool.or_eq_true, decide_eq_true_eq] at control
          omega
        refine .inl (isEscape_cons (fun rest => ?_) rfl (by decide))
        exact (hexEscape?_fourHex low rest).trans (by rw [Char.ofNat_toNat])
      · rw [if_neg control]
        simp only [Bool.or_eq_true, decide_eq_true_eq, not_or, Nat.not_lt] at control
        exact .inr ⟨rfl, backslash, .inl (by simp [isPrintable, control])⟩

/-! ## Strings on one line -/

section Line

variable {acc rest : List Char} {fuel : Nat}

/-- Quotes are escaped, so the string ends at the closing one. -/
theorem lineString_escapedText {cs : List Char} (enough : cs.length < fuel) (run : Nat) :
    lineString '"' true fuel acc (escapedText false 0 run cs ++ '"' :: rest) =
      .ok (String.ofList (acc.reverse ++ cs), rest) := by
  induction cs generalizing fuel acc run with
  | nil =>
    obtain ⟨fuel, rfl⟩ := Nat.exists_eq_succ_of_ne_zero (Nat.ne_zero_of_lt enough)
    simp [escapedText, lineString]
  | cons c cs ih =>
    obtain ⟨fuel, rfl⟩ := Nat.exists_eq_succ_of_ne_zero (Nat.ne_zero_of_lt enough)
    have later (run : Nat) := @ih (c :: acc) fuel (Nat.lt_of_succ_lt_succ enough) run
    rw [List.reverse_cons, List.append_assoc, List.singleton_append] at later
    rw [escapedText]
    by_cases quote : c = '"'
    · -- no quote is allowed to stand for itself on one line, so each is escaped
      subst quote
      rw [if_pos rfl, if_pos (Nat.succ_pos run)]
      exact later 0
    · rw [if_neg quote, List.append_assoc]
      obtain ⟨tail, written, read⟩ | ⟨written, backslash, printable⟩ := escaped_cases false c
      · rw [written, List.cons_append, lineString, if_neg (by decide), if_pos (by decide),
          (read _).1]
        exact later 0
      · have printable : isPrintable c = true := by simpa using printable
        rw [written, List.singleton_append, lineString, if_neg quote, if_neg (by simp [backslash]),
          if_pos printable]
        exact later 0

/-- Without escapes all characters stand for themselves. -/
theorem lineString_append {cs : List Char} (enough : cs.length < fuel) {quote : Char}
    (printable : ∀ c ∈ cs, isPrintable c = true) (noQuote : quote ∉ cs) :
    lineString quote false fuel acc (cs ++ quote :: rest) =
      .ok (String.ofList (acc.reverse ++ cs), rest) := by
  induction cs generalizing fuel acc with
  | nil =>
    obtain ⟨fuel, rfl⟩ := Nat.exists_eq_succ_of_ne_zero (Nat.ne_zero_of_lt enough)
    simp [lineString]
  | cons c cs ih =>
    obtain ⟨fuel, rfl⟩ := Nat.exists_eq_succ_of_ne_zero (Nat.ne_zero_of_lt enough)
    rw [List.mem_cons, not_or] at noQuote
    rw [List.forall_mem_cons] at printable
    have later := @ih (c :: acc) fuel (Nat.lt_of_succ_lt_succ enough) printable.2 noQuote.2
    rw [List.cons_append, lineString, if_neg (Ne.symm noQuote.1), if_neg (by simp),
      if_pos printable.1, later]
    simp

end Line

/-! ## Strings of several lines -/

/-- What stands for a text between three quotes, with so many quotes right before it: nowhere
are there three in a row. -/
inductive BlockText (quote : Char) (escapes : Bool) : Nat → List Char → List Char → Prop
  | nil {run : Nat} (few : run ≤ 2) : BlockText quote escapes run [] []
  | quote {run : Nat} {text cs : List Char} (more : BlockText quote escapes (run + 1) text cs) :
      BlockText quote escapes run (quote :: text) (quote :: cs)
  | escape {run : Nat} {c : Char} {piece text cs : List Char} (few : run ≤ 2)
      (allowed : escapes = true) (written : IsEscape c piece)
      (more : BlockText quote escapes 0 text cs) :
      BlockText quote escapes run (piece ++ text) (c :: cs)
  | plain {run : Nat} {c : Char} {text cs : List Char} (few : run ≤ 2) (noQuote : c ≠ quote)
      (noEscape : (escapes && c == '\\') = false) (legible : isPrintable c = true ∨ c = '\n')
      (more : BlockText quote escapes 0 text cs) :
      BlockText quote escapes run (c :: text) (c :: cs)

section Block

variable {quote : Char} {escapes : Bool} {run : Nat} {text cs : List Char}

/-- Quotes at the start are the whole text, or something else stands behind them. -/
theorem BlockText.quotes (block : BlockText quote escapes run text cs) (noEscape : quote ≠ '\\') :
    ∃ k, run + k ≤ 2 ∧ (text = List.replicate k quote ∧ cs = List.replicate k quote ∨
      ∃ c more, text = List.replicate k quote ++ c :: more ∧ c ≠ quote) := by
  induction block with
  | nil few => exact ⟨0, few, .inl ⟨rfl, rfl⟩⟩
  | @quote run text cs more ih =>
    obtain ⟨k, few, ⟨rfl, rfl⟩ | ⟨c, tail, rfl, other⟩⟩ := ih
    · exact ⟨k + 1, by omega, .inl ⟨rfl, rfl⟩⟩
    · exact ⟨k + 1, by omega, .inr ⟨c, tail, rfl, other⟩⟩
  | escape few allowed written more ih =>
    obtain ⟨tail, rfl, -⟩ := written
    exact ⟨0, few, .inr ⟨_, _, rfl, noEscape.symm⟩⟩
  | plain few noQuote noEscape legible more ih =>
    exact ⟨0, few, .inr ⟨_, _, rfl, noQuote⟩⟩

/-- How many quotes stand at the start of a text. -/
theorem length_takeWhile_quotes {k : Nat} {rest : List Char} (other : rest.head? ≠ some quote) :
    ((List.replicate k quote ++ rest).takeWhile (· == quote)).length = k := by
  have none : rest.takeWhile (· == quote) = [] := by
    cases rest with
    | nil => rfl
    | cons c cs =>
      refine List.takeWhile_cons_of_neg ?_
      simpa using other
  rw [List.takeWhile_append_of_pos (by simp), none, List.append_nil, List.length_replicate]

/-- The closing quotes, with up to two right before them that belong to the text. -/
theorem blockString_closing {k : Nat} (few : k ≤ 2) {rest : List Char}
    (behind : rest.head? ≠ some quote) (fuel : Nat) (acc : List Char) :
    blockString quote escapes (fuel + 1) acc
        (List.replicate k quote ++ quote :: quote :: quote :: rest) =
      .ok (String.ofList (acc.reverse ++ List.replicate k quote), rest) := by
  have joined : List.replicate k quote ++ quote :: quote :: quote :: rest =
      quote :: (List.replicate (k + 2) quote ++ rest) := by
    rw [← List.cons_append, ← List.replicate_succ, ← List.replicate_append_replicate (m := 3),
      List.append_assoc]
    rfl
  have counted : ((quote :: (List.replicate (k + 2) quote ++ rest)).takeWhile
      (· == quote)).length = k + 3 := by
    rw [← List.cons_append, ← List.replicate_succ]
    exact length_takeWhile_quotes behind
  have left : (quote :: (List.replicate (k + 2) quote ++ rest)).drop (k + 3) = rest := by
    rw [← List.cons_append, ← List.replicate_succ]
    exact List.drop_left' List.length_replicate
  rw [joined, blockString, if_pos rfl]
  simp only [counted]
  rw [if_pos (by omega), Nat.add_sub_cancel, Nat.min_eq_left few, left, List.reverse_append,
    List.reverse_replicate]

/-- A quote that does not begin the closing ones. -/
theorem blockString_quote {k : Nat} (few : k + 1 ≤ 2) {c : Char} (other : c ≠ quote)
    (fuel : Nat) (acc more : List Char) :
    blockString quote escapes (fuel + 1) acc (quote :: (List.replicate k quote ++ c :: more)) =
      blockString quote escapes fuel (quote :: acc) (List.replicate k quote ++ c :: more) := by
  have counted : ((quote :: (List.replicate k quote ++ c :: more)).takeWhile
      (· == quote)).length = k + 1 := by
    rw [← List.cons_append, ← List.replicate_succ]
    exact length_takeWhile_quotes (by simpa using other)
  rw [blockString, if_pos rfl]
  simp only [counted]
  rw [if_neg (by omega)]

/-- A text between three quotes is read up to the closing ones. -/
theorem blockString_append {rest : List Char} (block : BlockText quote escapes run text cs)
    (noEscape : quote ≠ '\\') (behind : rest.head? ≠ some quote) {fuel : Nat}
    (enough : text.length < fuel) (acc : List Char) :
    blockString quote escapes fuel acc (text ++ quote :: quote :: quote :: rest) =
      .ok (String.ofList (acc.reverse ++ cs), rest) := by
  induction block generalizing fuel acc with
  | nil few =>
    obtain ⟨fuel, rfl⟩ := Nat.exists_eq_succ_of_ne_zero (Nat.ne_zero_of_lt enough)
    exact blockString_closing (Nat.zero_le 2) behind fuel acc
  | @quote run text cs more ih =>
    obtain ⟨fuel, rfl⟩ := Nat.exists_eq_succ_of_ne_zero (Nat.ne_zero_of_lt enough)
    -- quotes at the end of the text run into the closing ones; all others are followed by a
    -- character that is none, and then there are too few of them to close the string
    obtain ⟨k, few, ⟨rfl, rfl⟩ | ⟨c, tail, parts, other⟩⟩ := more.quotes noEscape
    · exact blockString_closing (k := k + 1) (by omega) behind fuel acc
    · have later := ih (Nat.lt_of_succ_lt_succ enough) (quote :: acc)
      rw [parts, List.append_assoc, List.cons_append] at later
      rw [parts, List.cons_append, List.append_assoc, List.cons_append,
        blockString_quote (by omega) other, later]
      simp
  | @escape run c piece text cs few allowed written more ih =>
    obtain ⟨fuel, rfl⟩ := Nat.exists_eq_succ_of_ne_zero (Nat.ne_zero_of_lt enough)
    obtain ⟨tail, rfl, read⟩ := written
    simp only [List.length_append, List.length_cons] at enough
    have later := @ih fuel (by omega) (c :: acc)
    rw [List.append_assoc, List.cons_append, blockString, if_neg (Ne.symm noEscape),
      if_pos (by simp [allowed]), (read _).2]
    simp only [(read _).1, later]
    simp
  | @plain run c text cs few noQuote noEscape' legible more ih =>
    obtain ⟨fuel, rfl⟩ := Nat.exists_eq_succ_of_ne_zero (Nat.ne_zero_of_lt enough)
    have later := ih (Nat.lt_of_succ_lt_succ enough) (c :: acc)
    rw [List.cons_append, blockString, if_neg noQuote, if_neg (by simp [noEscape'])]
    by_cases newline : c = '\n'
    · subst newline
      simp only [lineEnd?, later]
      simp
    · have printable := legible.resolve_right newline
      have noReturn : c ≠ '\r' := by
        rintro rfl
        cases printable
      have noLine : lineEnd? (c :: (text ++ quote :: quote :: quote :: rest)) = none := by
        rw [lineEnd?]
        · simp [newline]
        · simp [noReturn]
      simp only [noLine, if_pos printable, later]
      simp

end Block

/-- Escaped text has no three quotes in a row. -/
theorem blockText_escapedText {run : Nat} (few : run ≤ 2) (cs : List Char) :
    BlockText '"' true run (escapedText true 2 run cs) cs := by
  induction cs generalizing run with
  | nil => exact .nil few
  | cons c cs ih =>
    rw [escapedText]
    by_cases quote : c = '"'
    · subst quote
      rw [if_pos rfl]
      split
      case isTrue many =>
        have written : IsEscape '"' ['\\', '"'] := isEscape_cons (fun _ => rfl) rfl (by decide)
        exact .escape few rfl written (ih (Nat.zero_le 2))
      case isFalse room => exact .quote (ih (by omega))
    · rw [if_neg quote]
      obtain escape | ⟨written, backslash, legible⟩ := escaped_cases true c
      · exact .escape few rfl escape (ih (Nat.zero_le 2))
      · rw [written, List.singleton_append]
        exact .plain few quote (by simpa using backslash) (by simpa using legible)
          (ih (Nat.zero_le 2))

/-- A character that needs no escape is printable or ends a line. -/
theorem legible_of_needsEscape {c : Char} (h : needsEscape c = false) :
    isPrintable c = true ∨ c = '\n' := by
  by_cases tab : c = '\t'
  · exact .inl (by simp [isPrintable, tab])
  · by_cases newline : c = '\n'
    · exact .inr newline
    · left
      simpa [needsEscape, isPrintable, tab, newline] using h

/-- The longest run so far and the current one, a character further. -/
def runStep (c : Char) (runs : Nat × Nat) (d : Char) : Nat × Nat :=
  let run := if d = c then runs.2 + 1 else 0
  (max runs.1 run, run)

theorem longestRun_eq (c : Char) (cs : List Char) :
    longestRun c cs = (cs.foldl (runStep c) (0, 0)).1 := rfl

/-- A run that was seen stays the longest one or a longer one is found. -/
theorem le_foldl_runStep (c : Char) (cs : List Char) (runs : Nat × Nat) :
    runs.1 ≤ (cs.foldl (runStep c) runs).1 := by
  induction cs generalizing runs with
  | nil => exact Nat.le_refl _
  | cons d cs ih => exact Nat.le_trans (Nat.le_max_left _ _) (ih (runStep c runs d))

/-- Text without escapes whose runs of quotes are short stands for itself. -/
theorem blockText_self {quote : Char} {cs : List Char} (legible : ∀ c ∈ cs, needsEscape c = false)
    (runs : Nat × Nat) (seen : runs.2 ≤ runs.1) (short : (cs.foldl (runStep quote) runs).1 ≤ 2) :
    BlockText quote false runs.2 cs cs := by
  -- the longest run bounds the current one at every place
  have few : runs.2 ≤ 2 := by
    have := le_foldl_runStep quote cs runs
    omega
  induction cs generalizing runs with
  | nil => exact .nil few
  | cons c cs ih =>
    rw [List.forall_mem_cons] at legible
    have seen' : (runStep quote runs c).2 ≤ (runStep quote runs c).1 := Nat.le_max_right _ _
    have few' : (runStep quote runs c).2 ≤ 2 := by
      have := le_foldl_runStep quote cs (runStep quote runs c)
      rw [List.foldl_cons] at short
      omega
    have later := ih legible.2 _ seen' short few'
    by_cases same : c = quote
    · subst same
      rw [runStep, if_pos rfl] at later
      exact .quote later
    · rw [runStep, if_neg same] at later
      exact .plain few same rfl (legible_of_needsEscape legible.1) later

/-! ## Strings in any form -/

/-- A text goes on with no quote of either kind. -/
def EndsString (rest : List Char) : Prop := rest.head? ≠ some '"' ∧ rest.head? ≠ some '\''

/-- The two kinds of quotes. -/
def IsQuote (c : Char) : Prop := c = '"' ∨ c = '\''

theorem EndsString.head?_ne {rest : List Char} (ends : EndsString rest) {quote : Char}
    (kind : IsQuote quote) : rest.head? ≠ some quote := by
  rcases kind with rfl | rfl
  · exact ends.1
  · exact ends.2

/-- A quote begins a string on one line unless there are three of them. -/
theorem string_line {quote : Char} (kind : IsQuote quote) {content rest : List Char}
    (begins : content.head? ≠ some quote) (ends : EndsString rest) :
    ∃ fuel, content.length < fuel ∧ string (quote :: (content ++ quote :: rest)) =
      lineString quote (quote == '"') fuel [] (content ++ quote :: rest) := by
  have notThree (more : List Char) : content ++ quote :: rest ≠ quote :: quote :: more := by
    intro three
    cases content with
    | nil =>
      refine ends.head?_ne kind ?_
      rw [(List.cons.inj three).2, List.head?_cons]
    | cons c cs => exact begins (congrArg some (List.cons.inj three).1)
  refine ⟨(quote :: (content ++ quote :: rest)).length + 1, ?_, ?_⟩
  · simp only [List.length_cons, List.length_append]
    omega
  · generalize content ++ quote :: rest = cs at notThree
    rcases kind with rfl | rfl
    · rw [string]
      · rfl
      · exact notThree
    · rw [string]
      · rfl
      · exact notThree

/-- A text that does not begin with a line end loses nothing behind the opening quotes. -/
theorem openBlock_append {quote : Char} (kind : IsQuote quote) {escapes : Bool} {run : Nat}
    {text cs : List Char} (block : BlockText quote escapes run text cs) (noLine : '\n' ∉ cs)
    (rest : List Char) : openBlock (text ++ quote :: rest) = text ++ quote :: rest := by
  have visible {c : Char} (newline : c ≠ '\n') (noReturn : c ≠ '\r') (more : List Char) :
      lineEnd? (c :: more) = none := by
    rw [lineEnd?]
    · simp [newline]
    · simp [noReturn]
  have ends : lineEnd? (text ++ quote :: rest) = none := by
    cases block with
    | nil few => rcases kind with rfl | rfl <;> rfl
    | quote more => rcases kind with rfl | rfl <;> rfl
    | escape few allowed written more =>
      obtain ⟨tail, rfl, -⟩ := written
      rfl
    | @plain _ c text cs few noQuote noEscape legible more =>
      have newline : c ≠ '\n' := fun same => noLine (same ▸ List.mem_cons_self)
      refine visible newline ?_ _
      rintro rfl
      exact absurd (legible.resolve_right newline) (by decide)
  rw [openBlock, ends]
  rfl

/-- A text between three quotes, with a line end behind the opening ones if it has any. -/
theorem string_block {quote : Char} (kind : IsQuote quote) {text cs rest : List Char}
    (block : BlockText quote (quote == '"') 0 text cs) (ends : EndsString rest) :
    string (quote :: quote :: quote :: ((if cs.contains '\n' then ['\n'] else []) ++
      (text ++ quote :: quote :: quote :: rest))) = .ok (String.ofList cs, rest) := by
  have noEscape : quote ≠ '\\' := by rcases kind with rfl | rfl <;> decide
  have opened : openBlock ((if cs.contains '\n' then ['\n'] else []) ++
      (text ++ quote :: quote :: quote :: rest)) = text ++ quote :: quote :: quote :: rest := by
    split
    case isTrue newline => rfl
    case isFalse noLine => exact openBlock_append kind block (by simpa using noLine) _
  have read (fuel : Nat) (enough : text.length < fuel) :=
    blockString_append block noEscape (ends.head?_ne kind) enough []
  generalize (if cs.contains '\n' then ['\n'] else []) = start at opened
  have fits : text.length < (quote :: quote :: quote :: (start ++
      (text ++ quote :: quote :: quote :: rest))).length + 1 := by
    simp only [List.length_cons, List.length_append]
    omega
  rw [← opened] at read
  rcases kind with rfl | rfl
  · exact read _ fits
  · exact read _ fits

/-- Escaped text on one line begins with no quote. -/
theorem head?_escapedText (run : Nat) (cs : List Char) :
    (escapedText false 0 run cs).head? ≠ some '"' := by
  cases cs with
  | nil => rintro ⟨⟩
  | cons c cs =>
    rw [escapedText]
    by_cases quote : c = '"'
    · rw [if_pos quote, if_pos (Nat.succ_pos run)]
      simp
    · rw [if_neg quote]
      obtain ⟨tail, written, -⟩ | ⟨written, -⟩ := escaped_cases false c
      · simp [written]
      · simpa [written] using quote

theorem length_le_length_escapedText (run : Nat) (cs : List Char) :
    cs.length ≤ (escapedText false 0 run cs).length := by
  induction cs generalizing run with
  | nil => exact Nat.le_refl 0
  | cons c cs ih =>
    have rest := ih 0
    rw [escapedText]
    by_cases quote : c = '"'
    · rw [if_pos quote, if_pos (Nat.succ_pos run)]
      simp only [List.length_cons]
      omega
    · rw [if_neg quote, List.length_append, List.length_cons]
      obtain ⟨tail, written, -⟩ | ⟨written, -⟩ := escaped_cases false c
      · rw [written, List.length_cons]
        omega
      · rw [written, List.length_singleton]
        omega

/-- One form of a string: escapes between plain quotes. -/
theorem string_escaped (s : String) {rest : List Char} (ends : EndsString rest) :
    string ('"' :: (escapedText false 0 0 s.toList ++ '"' :: rest)) = .ok (s, rest) := by
  obtain ⟨fuel, enough, read⟩ := string_line (.inl rfl) (head?_escapedText 0 s.toList) ends
  have more := length_le_length_escapedText 0 s.toList
  rw [read, beq_self_eq_true, lineString_escapedText (by omega), List.reverse_nil,
    List.nil_append, String.ofList_toList]

/-- Another form: the text itself between single quotes. -/
theorem string_singleQuoted {s : String} (legible : ∀ c ∈ s.toList, needsEscape c = false)
    (noQuote : '\'' ∉ s.toList) (noLine : '\n' ∉ s.toList) {rest : List Char}
    (ends : EndsString rest) : string ('\'' :: (s.toList ++ '\'' :: rest)) = .ok (s, rest) := by
  have printable : ∀ c ∈ s.toList, isPrintable c = true := fun c there =>
    (legible_of_needsEscape (legible c there)).resolve_right
      fun newline => noLine (newline ▸ there)
  have begins : s.toList.head? ≠ some '\'' := fun first => noQuote (List.mem_of_head? first)
  obtain ⟨fuel, enough, read⟩ := string_line (.inr rfl) begins ends
  rw [read]
  exact (lineString_append enough printable noQuote).trans (by simp)

/-- Another form: escapes between three plain quotes. -/
theorem string_escapedLines (s : String) {rest : List Char} (ends : EndsString rest) :
    string ('"' :: '"' :: '"' :: ((if s.toList.contains '\n' then ['\n'] else []) ++
      (escapedText true 2 0 s.toList ++ '"' :: '"' :: '"' :: rest))) = .ok (s, rest) := by
  rw [string_block (.inl rfl) (blockText_escapedText (Nat.zero_le 2) s.toList) ends,
    String.ofList_toList]

/-- The last form: the text itself between three single quotes. -/
theorem string_singleQuotedLines {s : String} (legible : ∀ c ∈ s.toList, needsEscape c = false)
    (short : longestRun '\'' s.toList ≤ 2) {rest : List Char} (ends : EndsString rest) :
    string ('\'' :: '\'' :: '\'' :: ((if s.toList.contains '\n' then ['\n'] else []) ++
      (s.toList ++ '\'' :: '\'' :: '\'' :: rest))) = .ok (s, rest) := by
  rw [longestRun_eq] at short
  have block : BlockText '\'' false 0 s.toList s.toList :=
    blockText_self legible (0, 0) (Nat.le_refl 0) short
  exact (string_block (.inr rfl) block ends).trans (by rw [String.ofList_toList])

/-- **Strings read back.**  Whichever form a text is written in, it is read as that text. -/
theorem string_quoted (s : String) {rest : List Char} (ends : EndsString rest) :
    string ((quoted s).toList ++ rest) = .ok (s, rest) := by
  have literals : "\"".toList = ['"'] ∧ "'".toList = ['\''] ∧
      "\"\"\"".toList = ['"', '"', '"'] ∧ "'''".toList = ['\'', '\'', '\''] :=
    ⟨rfl, rfl, rfl, rfl⟩
  have legible (plain : s.toList.any needsEscape = false) :
      ∀ c ∈ s.toList, needsEscape c = false := by simpa using plain
  rw [quoted]
  simp only [apply_ite String.toList, String.toList_append, String.toList_ofList, literals,
    apply_ite (· ++ rest), List.append_assoc, List.cons_append, List.nil_append]
  split
  case isTrue => exact string_escaped s ends
  split
  case isTrue plain =>
    simp only [Bool.and_eq_true, Bool.not_eq_true', List.contains_eq_mem,
      decide_eq_false_iff_not] at plain
    obtain ⟨⟨noControl, noQuote⟩, noLine⟩ := plain
    exact string_singleQuoted (legible noControl) noQuote noLine ends
  split
  case isTrue => exact string_escapedLines s ends
  split
  case isTrue plain =>
    simp only [Bool.and_eq_true, Bool.not_eq_true', decide_eq_true_eq] at plain
    exact string_singleQuotedLines (legible plain.1) plain.2 ends
  split
  case isTrue newline =>
    have read := string_escapedLines s ends
    rw [if_pos newline] at read
    exact read
  case isFalse => exact string_escaped s ends

end Reachability.Toml
