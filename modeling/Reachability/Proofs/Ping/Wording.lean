/-
# Reading lines of words

A line of ping output is read word by word.  Here the readers meet lines that are given as their
words, with a single blank between each two: what they find on such a line, and when they find
nothing.

Main definitions:

* `IsWord`, `spaced` : words, and the line that they make.

Main results:

* `firstAtToken?_spaced`, `firstAtToken?_eq_none` : a line is tried from each of its words on;
* `leading?_spaced`, `labelled?_spaced`, `at?_spaced` : what the readers find;
* `Reply.find?_eq_none`, `Summary.find?_eq_none` : lines whose words rule a match out;
* `firstTime?_word`, `firstTime?_timeWord` : the words without a time, and the one that has it.
-/
import Mathlib.Data.List.TakeWhile
import Reachability.Ping.Reply
import Reachability.Proofs.Text.Utf8

namespace Reachability.Ping

/-! ## Words -/

/-- At least one character, and no blank. -/
structure IsWord (w : List Char) : Prop where
  ne_nil : w ≠ []
  solid : ∀ c ∈ w, Text.isBlank c = false

theorem isWord_iff {w : List Char} :
    (!w.isEmpty && w.all fun c => !Text.isBlank c) = true ↔ IsWord w := by
  rw [Bool.and_eq_true, Bool.not_eq_true', List.isEmpty_eq_false_iff, List.all_eq_true]
  simp only [Bool.not_eq_true']
  exact ⟨fun h => ⟨h.1, h.2⟩, fun h => ⟨h.ne_nil, h.solid⟩⟩

instance (w : List Char) : Decidable (IsWord w) := decidable_of_iff _ isWord_iff

/-- Words with a blank in front of each. -/
def behindBlanks (ws : List (List Char)) : List Char := ws.flatMap fun w => ' ' :: w

/-- The line that the words make, with a blank between each two. -/
def spaced : List (List Char) → List Char
  | [] => []
  | w :: ws => w ++ behindBlanks ws

theorem behindBlanks_cons (w : List Char) (ws : List (List Char)) :
    behindBlanks (w :: ws) = ' ' :: (w ++ behindBlanks ws) := rfl

theorem behindBlanks_cons_eq (w : List Char) (ws : List (List Char)) :
    behindBlanks (w :: ws) = ' ' :: spaced (w :: ws) := rfl

/-- Behind a word the line ends, or a blank follows. -/
theorem eq_of_head?_behindBlanks {ws : List (List Char)} {c : Char}
    (h : (behindBlanks ws).head? = some c) : c = ' ' := by
  cases ws with
  | nil => cases h
  | cons w ws => exact (Option.some.inj h).symm

theorem IsWord.append {v w : List Char} (hv : IsWord v) (hw : IsWord w) : IsWord (v ++ w) where
  ne_nil h := hv.ne_nil (List.append_eq_nil_iff.1 h).1
  solid c hc := (List.mem_append.1 hc).elim (hv.solid c) (hw.solid c)

/-- A word starts with a character that is no blank. -/
theorem IsWord.exists_cons {w : List Char} (h : IsWord w) :
    ∃ c cs, w = c :: cs ∧ Text.isBlank c = false := by
  obtain ⟨c, cs, rfl⟩ := List.exists_cons_of_ne_nil h.ne_nil
  exact ⟨c, cs, rfl, h.solid c List.mem_cons_self⟩

/-- What stands in front of a blank, or at the end, is cut off as it is. -/
theorem token?_append {w rest : List Char} (h : IsWord w)
    (behind : ∀ c, rest.head? = some c → Text.isBlank c = true) :
    token? (w ++ rest) = some (w, rest) := by
  have inside : ∀ c ∈ w, (!Text.isBlank c) = true := fun c hc => by rw [h.solid c hc]; rfl
  have stops : rest.takeWhile (fun c => !Text.isBlank c) = [] ∧
      rest.dropWhile (fun c => !Text.isBlank c) = rest := by
    cases rest with
    | nil => exact ⟨rfl, rfl⟩
    | cons c rest => simp [behind c rfl]
  rw [token?, List.takeWhile_append_of_pos inside, List.dropWhile_append_of_pos inside, stops.1,
    stops.2, List.append_nil, if_neg (by simpa using h.ne_nil)]

theorem token?_behindBlanks {w : List Char} (h : IsWord w) (ws : List (List Char)) :
    token? (w ++ behindBlanks ws) = some (w, behindBlanks ws) :=
  token?_append h fun c hc => by rw [eq_of_head?_behindBlanks hc]; decide

theorem skipBlanks_word {w : List Char} (h : IsWord w) (rest : List Char) :
    skipBlanks (w ++ rest) = w ++ rest := by
  obtain ⟨c, cs, rfl, solid⟩ := h.exists_cons
  rw [skipBlanks, List.cons_append, List.dropWhile_cons_of_neg (by rw [solid]; decide)]

theorem afterBlanks?_behindBlanks {w : List Char} (h : IsWord w) (ws : List (List Char)) :
    afterBlanks? (behindBlanks (w :: ws)) = some (w ++ behindBlanks ws) := by
  rw [behindBlanks_cons, afterBlanks?, if_pos (by decide)]
  exact congrArg some (skipBlanks_word h _)

/-- A character stays as it is, or it is a capital and turns into its small letter. -/
theorem toLower_cases (c : Char) :
    c.toLower = c ∨ 65 ≤ c.toNat ∧ c.toNat ≤ 90 ∧ c.toLower.toNat = c.toNat + 32 := by
  by_cases capital : c.val ≥ 'A'.val ∧ c.val ≤ 'Z'.val
  · have low : 65 ≤ c.toNat := UInt32.le_iff_toNat_le.1 capital.1
    have high : c.toNat ≤ 90 := UInt32.le_iff_toNat_le.1 capital.2
    have small : c.toLower.val = c.val + ('a'.val - 'A'.val) := congrArg Char.val (dif_pos capital)
    have sum : c.toLower.toNat = (c.toNat + 32) % 4294967296 := congrArg UInt32.toNat small
    exact Or.inr ⟨low, high, by omega⟩
  · exact Or.inl (dif_neg capital)

/-- Other characters than capitals, the long s and the Kelvin sign stand for themselves. -/
theorem foldCase_eq_self {c : Char} (long : c ≠ '\u017F') (kelvin : c ≠ '\u212A')
    (noCapital : ¬(65 ≤ c.toNat ∧ c.toNat ≤ 90)) : foldCase c = c := by
  rw [foldCase, if_neg long, if_neg kelvin]
  rcases toLower_cases c with same | ⟨low, high, -⟩
  · exact same
  · exact absurd ⟨low, high⟩ noCapital

/-- Signs lie below the letters, and have no letter case. -/
theorem foldCase_eq_iff {c s : Char} (sign : s.toNat < 65) : foldCase c = s ↔ c = s := by
  constructor
  · intro h
    by_cases long : c = '\u017F'
    · rw [← h, long] at sign
      exact absurd sign (by decide)
    by_cases kelvin : c = '\u212A'
    · rw [← h, kelvin] at sign
      exact absurd sign (by decide)
    rw [foldCase, if_neg long, if_neg kelvin] at h
    rcases toLower_cases c with same | ⟨low, -, small⟩
    · exact same.symm.trans h
    · rw [h] at small
      omega
  · rintro rfl
    refine foldCase_eq_self ?_ ?_ (by omega)
    · rintro rfl
      exact absurd sign (by decide)
    · rintro rfl
      exact absurd sign (by decide)

/-- And only there. -/
theorem eq_append_of_afterWord? {word cs rest : List Char} (h : afterWord? word cs = some rest) :
    ∃ w, w.map foldCase = word ∧ cs = w ++ rest := by
  induction word generalizing cs with
  | nil => exact ⟨[], rfl, Option.some.inj h⟩
  | cons c word ih =>
    cases cs with
    | nil => cases h
    | cons d cs =>
      rw [afterWord?] at h
      split at h
      · next same =>
        obtain ⟨w, rfl, rfl⟩ := ih h
        exact ⟨d :: w, by rw [List.map_cons, same], rfl⟩
      · cases h

/-- A fixed word lies within one word of the line. -/
theorem split_of_afterWord? {word w rest : List Char} {ws : List (List Char)} (fixed : IsWord word)
    (h : afterWord? word (w ++ behindBlanks ws) = some rest) :
    ∃ front back, w = front ++ back ∧ front.map foldCase = word ∧
      rest = back ++ behindBlanks ws := by
  obtain ⟨front, folded, parts⟩ := eq_append_of_afterWord? h
  rcases List.append_eq_append_iff.1 parts with ⟨back, rfl, rest_eq⟩ | ⟨back, rfl, rfl⟩
  · -- the fixed word would go beyond `w`, and so across a blank
    cases back with
    | nil => exact ⟨w, [], by simp, by simpa using folded, by simpa using rest_eq.symm⟩
    | cons c back =>
      have blank : c = ' ' := eq_of_head?_behindBlanks (by rw [rest_eq]; rfl)
      have inside : foldCase c ∈ word := by
        rw [← folded]
        exact List.mem_map_of_mem (by simp)
      rw [blank] at inside
      exact absurd (fixed.solid _ inside) (by decide)
  · exact ⟨front, back, rfl, folded, rfl⟩

/-- A fixed word that a blank follows is a whole word of the line. -/
theorem whole_of_afterWord? {word w rest rest' : List Char} {ws : List (List Char)}
    (fixed : IsWord word) (hw : IsWord w)
    (h : afterWord? word (w ++ behindBlanks ws) = some rest)
    (blanks : afterBlanks? rest = some rest') : w.map foldCase = word := by
  obtain ⟨front, back, rfl, folded, rfl⟩ := split_of_afterWord? fixed h
  cases back with
  | nil => rw [List.append_nil, folded]
  | cons c back =>
    have inside := hw.solid c (by simp)
    rw [List.cons_append, afterBlanks?, inside] at blanks
    cases blanks

/-! ## Trying a line from its words on -/

section FirstAtToken

variable {α : Type} {f : List Char → Option α}

/-- Within a word no reading starts. -/
theorem firstAtToken?.go_append {w : List Char} (solid : ∀ c ∈ w, Text.isBlank c = false)
    (rest : List Char) : firstAtToken?.go f (w ++ rest) = firstAtToken?.go f rest := by
  induction w with
  | nil => rfl
  | cons c w ih =>
    rw [List.forall_mem_cons] at solid
    rw [List.cons_append, firstAtToken?.go, solid.1, ih solid.2]
    rfl

/-- A line is tried at its first word, and then from the next word on. -/
theorem firstAtToken?_spaced {w v : List Char} (hw : IsWord w) (ws : List (List Char)) :
    firstAtToken? f (spaced (w :: v :: ws)) =
      (f (spaced (w :: v :: ws))).or (firstAtToken? f (spaced (v :: ws))) := by
  have tail : firstAtToken?.go f (spaced (w :: v :: ws)) = firstAtToken? f (spaced (v :: ws)) := by
    rw [spaced, firstAtToken?.go_append hw.solid, behindBlanks_cons_eq, firstAtToken?.go]
    rfl
  rw [firstAtToken?, tail]

/-- Nothing is found on a line if nothing is found at any of its words. -/
theorem firstAtToken?_eq_none {ws : List (List Char)} (words : ∀ w ∈ ws, IsWord w)
    (nowhere : ∀ vs, vs <:+ ws → f (spaced vs) = none) : firstAtToken? f (spaced ws) = none := by
  induction ws with
  | nil => rw [firstAtToken?, nowhere [] List.suffix_rfl]; rfl
  | cons w ws ih =>
    rw [List.forall_mem_cons] at words
    cases ws with
    | nil =>
      have behind := firstAtToken?.go_append (f := f) words.1.solid []
      rw [firstAtToken?, nowhere [w] List.suffix_rfl, spaced, behindBlanks, List.flatMap_nil,
        behind]
      rfl
    | cons v ws =>
      rw [firstAtToken?_spaced words.1, nowhere _ List.suffix_rfl, Option.none_or]
      exact ih words.2 fun vs hvs => nowhere vs (hvs.trans (List.suffix_cons w _))

end FirstAtToken

/-- Where a reader looks for a word, blanks, a fixed word and blanks again, the fixed word is the
second word of the line. -/
theorem second_word {ws : List (List Char)} {word token rest rest₁ rest₂ rest₃ : List Char}
    (words : ∀ w ∈ ws, IsWord w) (fixed : IsWord word)
    (first : token? (spaced ws) = some (token, rest)) (blanks : afterBlanks? rest = some rest₁)
    (found : afterWord? word rest₁ = some rest₂) (more : afterBlanks? rest₂ = some rest₃) :
    ∃ v w vs, ws = v :: w :: vs ∧ w.map foldCase = word := by
  match ws with
  | [] => cases first
  | [v] =>
    rw [spaced, token?_behindBlanks (words v (by simp))] at first
    obtain ⟨-, rfl⟩ := by simpa using first
    cases blanks
  | v :: w :: vs =>
    have hw := words w (by simp)
    rw [spaced, token?_behindBlanks (words v (by simp))] at first
    obtain ⟨-, rfl⟩ := by simpa using first
    rw [afterBlanks?_behindBlanks hw] at blanks
    obtain rfl := Option.some.inj blanks
    exact ⟨v, w, vs, rfl, whole_of_afterWord? fixed hw found more⟩

namespace Reply

/-! ## Times -/

/-- The sign in front of an exact time, or of an upper bound. -/
def sign (exact : Bool) : Char := if exact then '=' else '<'

/-- The word that gives a time. -/
def timeWord (exact : Bool) (time : List Char) : List Char := "time".toList ++ sign exact :: time

theorem isBlank_sign (exact : Bool) : Text.isBlank (sign exact) = false := by
  cases exact <;> decide

/-- Where no time starts, the text is passed over. -/
theorem firstTime?_cons_of_none {before c : Char} {cs : List Char} (h : time? (c :: cs) = none) :
    firstTime? before (c :: cs) = firstTime? c cs := by
  rw [firstTime?, h]
  cases Text.isWordBoundary (some before) (some c) <;> rfl

/-- No time starts with another letter than a `t`. -/
theorem firstTime?_cons_of_ne {before c : Char} (h : foldCase c ≠ 't') (cs : List Char) :
    firstTime? before (c :: cs) = firstTime? c cs := by
  refine firstTime?_cons_of_none ?_
  have t : "time".toList = 't' :: "ime".toList := rfl
  rw [time?, t, afterWord?, if_neg h]
  rfl

/-- No letter of the text is a `t`. -/
def LacksT (w : List Char) : Prop := 't' ∉ w.map foldCase

instance (w : List Char) : Decidable (LacksT w) := inferInstanceAs (Decidable (_ ∉ _))

theorem LacksT.append {v w : List Char} (hv : LacksT v) (hw : LacksT w) : LacksT (v ++ w) := by
  rw [LacksT, List.map_append, List.mem_append, not_or]
  exact ⟨hv, hw⟩

/-- Neither a blank nor a sign. -/
def IsPlain (c : Char) : Prop := Text.isBlank c = false ∧ c ≠ '=' ∧ c ≠ '<'

instance (c : Char) : Decidable (IsPlain c) := inferInstanceAs (Decidable (_ ∧ _))

/-- The first wording has `bytes` as its second word. -/
theorem second_of_leading? {ws : List (List Char)} {r : Reply} (words : ∀ w ∈ ws, IsWord w)
    (h : leading? (spaced ws) = some r) :
    ∃ v w vs, ws = v :: w :: vs ∧ w.map foldCase = "bytes".toList := by
  simp only [leading?, Option.bind_eq_bind, Option.bind_eq_some_iff] at h
  obtain ⟨⟨token, rest⟩, first, rest₁, blanks, rest₂, fixed, rest₃, more, -⟩ := h
  exact second_word words (by decide) first blanks fixed more

/-- The second wording has an equals sign in its first word. -/
theorem mem_of_labelled? {ws : List (List Char)} {r : Reply}
    (h : labelled? (spaced ws) = some r) : ∃ w vs, ws = w :: vs ∧ '=' ∈ w := by
  simp only [labelled?, Option.bind_eq_bind, Option.bind_eq_some_iff] at h
  obtain ⟨rest, fixed, -⟩ := h
  match ws with
  | [] => cases fixed
  | w :: vs =>
    obtain ⟨front, back, rfl, folded, -⟩ := split_of_afterWord? (by decide) fixed
    have signed : '=' ∈ front.map foldCase := by
      rw [folded]
      decide
    obtain ⟨c, hc, same⟩ := List.mem_map.1 signed
    rw [(foldCase_eq_iff (by decide)).1 same] at hc
    exact ⟨_, vs, rfl, List.mem_append_left back hc⟩

/-- A line is no reply if none of its words is `bytes` or has an equals sign. -/
theorem find?_eq_none {ws : List (List Char)} (words : ∀ w ∈ ws, IsWord w)
    (other : ∀ w ∈ ws, w.map foldCase ≠ "bytes".toList)
    (unsigned : ∀ w ∈ ws, '=' ∉ w) : find? (spaced ws) = none := by
  refine firstAtToken?_eq_none words fun vs hvs => ?_
  rw [Option.or_eq_none_iff, Option.eq_none_iff_forall_ne_some, Option.eq_none_iff_forall_ne_some]
  refine ⟨fun r found => ?_, fun r found => ?_⟩
  · obtain ⟨v, w, vs', rfl, same⟩ := second_of_leading? (fun w hw => words w (hvs.subset hw)) found
    exact other w (hvs.subset (by simp)) same
  · obtain ⟨w, vs', rfl, signed⟩ := mem_of_labelled? found
    exact unsigned w (hvs.subset (by simp)) signed

/-- A line whose second word is not `bytes` does not have the first wording. -/
theorem leading?_eq_none {w v : List Char} {ws : List (List Char)}
    (words : ∀ u ∈ w :: v :: ws, IsWord u) (other : v.map foldCase ≠ "bytes".toList) :
    leading? (spaced (w :: v :: ws)) = none := by
  rw [Option.eq_none_iff_forall_ne_some]
  intro r found
  obtain ⟨_, _, _, same, folded⟩ := second_of_leading? words found
  obtain ⟨-, rfl, -⟩ := by simpa using same
  exact other folded

/-- The first word is passed over if it has no equals sign and the second is not `bytes`. -/
theorem find?_cons {w v : List Char} {ws : List (List Char)} (words : ∀ u ∈ w :: v :: ws, IsWord u)
    (unsigned : '=' ∉ w) (other : v.map foldCase ≠ "bytes".toList) :
    find? (spaced (w :: v :: ws)) = find? (spaced (v :: ws)) := by
  have unlabelled : labelled? (spaced (w :: v :: ws)) = none := by
    rw [Option.eq_none_iff_forall_ne_some]
    intro r found
    obtain ⟨_, _, same, signed⟩ := mem_of_labelled? found
    obtain ⟨rfl, -⟩ := List.cons.inj same
    exact unsigned signed
  rw [find?, firstAtToken?_spaced (words w List.mem_cons_self), leading?_eq_none words other,
    unlabelled]
  rfl

end Reply

namespace Summary

/-! ## Summary lines -/

/-- A summary has `packets` as its second word. -/
theorem second_of_at? {ws : List (List Char)} {s : Summary} (words : ∀ w ∈ ws, IsWord w)
    (h : at? (spaced ws) = some s) :
    ∃ v w vs, ws = v :: w :: vs ∧ w.map foldCase = "packets".toList := by
  simp only [at?, Option.bind_eq_bind, Option.bind_eq_some_iff] at h
  obtain ⟨⟨token, rest⟩, first, rest₁, blanks, rest₂, fixed, rest₃, more, -⟩ := h
  exact second_word words (by decide) first blanks fixed more

/-- A line is no summary if none of its words is `packets`. -/
theorem find?_eq_none {ws : List (List Char)} (words : ∀ w ∈ ws, IsWord w)
    (other : ∀ w ∈ ws, w.map foldCase ≠ "packets".toList) : find? (spaced ws) = none := by
  refine firstAtToken?_eq_none words fun vs hvs => ?_
  rw [Option.eq_none_iff_forall_ne_some]
  intro s found
  obtain ⟨v, w, vs', rfl, same⟩ := second_of_at? (fun w hw => words w (hvs.subset hw)) found
  exact other w (hvs.subset (by simp)) same

/-- Without a remark the loss is read at once. -/
theorem lossAfterRemarks?_of_none {cs : List Char} (h : afterRemark? cs = none) (fuel : Nat) :
    lossAfterRemarks? fuel cs = loss? cs := by
  cases fuel with
  | zero => rfl
  | succ fuel => rw [lossAfterRemarks?, h]; rfl

theorem afterRemark?_of_ne {c : Char} (h : c ≠ '+') (cs : List Char) :
    afterRemark? (c :: cs) = none := by
  rw [afterRemark?]
  intro rest same
  exact h (List.cons.inj same).1

end Summary
end Reachability.Ping
