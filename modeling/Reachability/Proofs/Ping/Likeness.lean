/-
# Lines that read alike

What is read on a line depends on few things: which of its characters are blank, which belong to
words, and what they are without regard to letter case.  Blanks at the end of the line do not matter
at all.  So a relation of characters that respects these things carries over to lines, and from
lines to the replies and summaries that are found on them.

Main definitions:

* `IsLikeness` : the relations of characters that no reader tells apart;
* `Alike` : lines related character by character, up to blanks at the end;
* `Reply.Alike`, `Summary.Alike` : replies and summaries whose texts are related so.

Main results:

* `Reply.find?_alike`, `Summary.find?_alike` : alike lines have alike replies and summaries;
* `Reply.find?_append_blanks`, `Summary.find?_append_blanks` : blanks at the end do not matter;
* `Reply.find?_blanks_append`, `Summary.find?_blanks_append` : nor do they at the start.
-/
import Mathlib.Data.List.Forall2
import Reachability.Proofs.Ping.Wording

namespace Reachability.Ping

/-! ## Blanks -/

/-- White space lies between the ranges of word characters. -/
theorem isWordCharacter_of_isBlank {c : Char} (blank : Text.isBlank c = true) :
    Text.isWordCharacter c = false := by
  have apart : ∀ range ∈ Text.wordRanges.toList,
      0x85 < range.1 ∧ (range.2 < 0xa0 ∨ 0xa0 < range.1) ∧ (range.2 < 0x1680 ∨ 0x1680 < range.1) ∧
        (range.2 < 0x2000 ∨ 0x200a < range.1) ∧ (range.2 < 0x2028 ∨ 0x2029 < range.1) ∧
        (range.2 < 0x202f ∨ 0x202f < range.1) ∧ (range.2 < 0x205f ∨ 0x205f < range.1) ∧
        (range.2 < 0x3000 ∨ 0x3000 < range.1) := by
    decide +kernel
  by_cases low : c.toNat < 0x80
  · exact forall_of_toNat_lt
      (p := fun c => Text.isBlank c = true → Text.isWordCharacter c = false)
      (by decide +kernel) low blank
  · simp only [Text.isBlank, Bool.or_eq_true, Bool.and_eq_true, decide_eq_true_eq,
      beq_iff_eq] at blank
    rw [Text.isWordCharacter, if_neg low, ← Array.any_toList, List.any_eq_false]
    intro range mem
    have outside := apart range mem
    simp only [Bool.and_eq_true, decide_eq_true_eq, not_and]
    omega

/-- White space has no letter case. -/
theorem foldCase_of_isBlank {c : Char} (blank : Text.isBlank c = true) : foldCase c = c := by
  refine foldCase_eq_self ?_ ?_ fun capital => ?_
  · rintro rfl
    exact absurd blank (by decide)
  · rintro rfl
    exact absurd blank (by decide)
  · simp only [Text.isBlank, Bool.or_eq_true, Bool.and_eq_true, decide_eq_true_eq,
      beq_iff_eq] at blank
    omega

/-- Nothing but blanks. -/
def IsBlankLine (cs : List Char) : Prop := ∀ c ∈ cs, Text.isBlank c = true

theorem isBlankLine_nil : IsBlankLine [] := by simp [IsBlankLine]

theorem IsBlankLine.tail {c : Char} {cs : List Char} (h : IsBlankLine (c :: cs)) : IsBlankLine cs :=
  (List.forall_mem_cons.1 h).2

/-- The text ends at once, or a blank comes first. -/
def StartsBlank (cs : List Char) : Prop := ∀ c, cs.head? = some c → Text.isBlank c = true

theorem IsBlankLine.startsBlank {cs : List Char} (h : IsBlankLine cs) : StartsBlank cs :=
  fun c hc => h c (List.mem_of_head? hc)

theorem startsBlank_cons {c : Char} (blank : Text.isBlank c = true) (cs : List Char) :
    StartsBlank (c :: cs) := fun d hd => by rwa [← Option.some.inj hd]

/-- In front of a blank there is no token. -/
theorem token?_of_startsBlank {cs : List Char} (h : StartsBlank cs) : token? cs = none := by
  cases cs with
  | nil => rfl
  | cons c cs => rw [token?, List.takeWhile_cons_of_neg (by simp [h c rfl])]; rfl

/-- Nor a fixed word. -/
theorem afterWord?_of_startsBlank {w : Char} {word cs : List Char}
    (solid : Text.isBlank w = false) (h : StartsBlank cs) : afterWord? (w :: word) cs = none := by
  cases cs with
  | nil => rfl
  | cons c cs =>
    have blank := h c rfl
    have different : foldCase c ≠ w := by
      rintro rfl
      rw [foldCase_of_isBlank blank, blank] at solid
      cases solid
    rw [afterWord?, if_neg different]

/-- A sign is a fixed word of one character. -/
theorem afterWord?_sign {s : Char} (sign : s.toNat < 65) (c : Char) (rest : List Char) :
    afterWord? [s] (c :: rest) = if c = s then some rest else none := by
  simp only [afterWord?, foldCase_eq_iff sign]

theorem skipBlanks_of_isBlankLine {cs : List Char} (h : IsBlankLine cs) : skipBlanks cs = [] :=
  List.dropWhile_eq_nil_iff.2 h

/-- Behind blanks alone there is nothing. -/
theorem afterBlanks?_of_isBlankLine {α : Type} {f : List Char → Option α} {cs : List Char}
    (h : IsBlankLine cs) (nothing : f [] = none) : (afterBlanks? cs).bind f = none := by
  cases cs with
  | nil => rfl
  | cons c cs =>
    have rest : cs.dropWhile Text.isBlank = [] := skipBlanks_of_isBlankLine h.tail
    rw [afterBlanks?, if_pos (h c List.mem_cons_self), Option.bind_some, rest, nothing]

/-! ## Characters that no reader tells apart -/

/-- The related characters agree in all that the readers look at. -/
structure IsLikeness (R : Char → Char → Prop) : Prop where
  blank : ∀ {c d}, R c d → Text.isBlank c = Text.isBlank d
  word : ∀ {c d}, R c d → Text.isWordCharacter c = Text.isWordCharacter d
  fold : ∀ {c d}, R c d → foldCase c = foldCase d

theorem isLikeness_eq : IsLikeness Eq where
  blank := congrArg _
  word := congrArg _
  fold := congrArg _

/-- A sign is like no other character. -/
theorem IsLikeness.sign_iff {R : Char → Char → Prop} (hR : IsLikeness R) {c d s : Char}
    (h : R c d) (sign : s.toNat < 65) : c = s ↔ d = s := by
  rw [← foldCase_eq_iff sign, hR.fold h, foldCase_eq_iff sign]

/-- Lines that are related character by character, up to blanks at the end. -/
inductive Alike (R : Char → Char → Prop) : List Char → List Char → Prop
  | blanks {cs ds : List Char} : IsBlankLine cs → IsBlankLine ds → Alike R cs ds
  | cons {c d : Char} {cs ds : List Char} : R c d → Alike R cs ds → Alike R (c :: cs) (d :: ds)

/-- Tokens that are related, with alike texts behind them. -/
def CutAlike (R : Char → Char → Prop) (x y : List Char × List Char) : Prop :=
  List.Forall₂ R x.1 y.1 ∧ Alike R x.2 y.2

/-- Times that are related. -/
def TimeAlike (R : Char → Char → Prop) (x y : Bool × List Char) : Prop :=
  x.1 = y.1 ∧ List.Forall₂ R x.2 y.2

structure Reply.Alike (R : Char → Char → Prop) (r s : Reply) : Prop where
  bytes : List.Forall₂ R r.bytes s.bytes
  exact : r.exact = s.exact
  time : List.Forall₂ R r.time s.time

structure Summary.Alike (R : Char → Char → Prop) (s t : Summary) : Prop where
  transmitted : List.Forall₂ R s.transmitted t.transmitted
  received : List.Forall₂ R s.received t.received
  loss : List.Forall₂ R s.loss t.loss

section Related

variable {α β γ δ : Type} {r : α → β → Prop} {s : γ → δ → Prop}

theorem rel_bind {a : Option α} {b : Option β} {f : α → Option γ} {g : β → Option δ}
    (h : Option.Rel r a b) (hfg : ∀ x y, r x y → Option.Rel s (f x) (g y)) :
    Option.Rel s (a.bind f) (b.bind g) := by
  cases h with
  | none => exact .none
  | some hxy => exact hfg _ _ hxy

theorem rel_or {a a' : Option α} {b b' : Option β} (h : Option.Rel r a b)
    (h' : Option.Rel r a' b') : Option.Rel r (a.or a') (b.or b') := by
  cases h with
  | none => exact h'
  | some hxy => exact .some hxy

theorem rel_map {a : Option α} {b : Option β} {f : α → γ} {g : β → δ} (h : Option.Rel r a b)
    (hfg : ∀ x y, r x y → s (f x) (g y)) : Option.Rel s (a.map f) (b.map g) := by
  cases h with
  | none => exact .none
  | some hxy => exact .some (hfg _ _ hxy)

end Related

section Pieces

variable {R : Char → Char → Prop} {cs ds : List Char}

/-- Where blanks end a run of characters, alike lines have related runs, and what follows them is
alike. -/
theorem Alike.span {p : Char → Bool} (respects : ∀ {c d}, R c d → p c = p d)
    (stops : ∀ {c}, Text.isBlank c = true → p c = false) (h : Alike R cs ds) :
    List.Forall₂ R (cs.takeWhile p) (ds.takeWhile p) ∧
      Alike R (cs.dropWhile p) (ds.dropWhile p) := by
  -- blanks at the end belong to no run, so no run is longer for them
  have nothing {xs : List Char} (hx : IsBlankLine xs) :
      xs.takeWhile p = [] ∧ xs.dropWhile p = xs := by
    cases xs with
    | nil => exact ⟨rfl, rfl⟩
    | cons x xs =>
      have outside : ¬p x = true := by simp [stops (hx x List.mem_cons_self)]
      exact ⟨List.takeWhile_cons_of_neg outside, List.dropWhile_cons_of_neg outside⟩
  induction h with
  | blanks hc hd =>
    rw [(nothing hc).1, (nothing hc).2, (nothing hd).1, (nothing hd).2]
    exact ⟨.nil, .blanks hc hd⟩
  | @cons c d cs ds like rest ih =>
    cases inside : p d with
    | true =>
      rw [List.takeWhile_cons_of_pos (by rw [respects like, inside]),
        List.takeWhile_cons_of_pos inside,
        List.dropWhile_cons_of_pos (by rw [respects like, inside]),
        List.dropWhile_cons_of_pos inside]
      exact ⟨.cons like ih.1, ih.2⟩
    | false =>
      have outside : ¬p d = true := by simp [inside]
      rw [List.takeWhile_cons_of_neg (by rwa [respects like]),
        List.takeWhile_cons_of_neg outside,
        List.dropWhile_cons_of_neg (by rwa [respects like]),
        List.dropWhile_cons_of_neg outside]
      exact ⟨.nil, .cons like rest⟩

variable (hR : IsLikeness R)

include hR

theorem token?_alike (h : Alike R cs ds) : Option.Rel (CutAlike R) (token? cs) (token? ds) := by
  obtain ⟨run, rest⟩ := h.span (p := fun c => !Text.isBlank c)
    (fun like => by rw [hR.blank like]) (fun blank => by rw [blank]; rfl)
  rw [token?, token?]
  generalize hc : cs.takeWhile (fun c => !Text.isBlank c) = token at run
  generalize hd : ds.takeWhile (fun c => !Text.isBlank c) = token' at run
  cases run with
  | nil => exact .none
  | cons like run => exact .some ⟨.cons like run, rest⟩

theorem skipBlanks_alike (h : Alike R cs ds) : Alike R (skipBlanks cs) (skipBlanks ds) := by
  induction h with
  | blanks hc hd =>
    rw [skipBlanks_of_isBlankLine hc, skipBlanks_of_isBlankLine hd]
    exact .blanks isBlankLine_nil isBlankLine_nil
  | @cons c d cs ds like rest ih =>
    rw [skipBlanks, skipBlanks, List.dropWhile_cons, List.dropWhile_cons, hR.blank like]
    cases Text.isBlank d with
    | true => exact ih
    | false => exact .cons like rest

/-- What follows some blanks; with nothing there but blanks, a reader that goes on fails. -/
theorem afterBlanks?_alike {α β : Type} {r : α → β → Prop} {f : List Char → Option α}
    {g : List Char → Option β} (h : Alike R cs ds) (hf : f [] = none) (hg : g [] = none)
    (hfg : ∀ xs ys, Alike R xs ys → Option.Rel r (f xs) (g ys)) :
    Option.Rel r ((afterBlanks? cs).bind f) ((afterBlanks? ds).bind g) := by
  cases h with
  | blanks hc hd =>
    rw [afterBlanks?_of_isBlankLine hc hf, afterBlanks?_of_isBlankLine hd hg]
    exact .none
  | @cons c d cs ds like rest =>
    rw [afterBlanks?, afterBlanks?, hR.blank like]
    cases Text.isBlank d with
    | true => exact hfg _ _ (skipBlanks_alike hR rest)
    | false => exact .none

theorem afterWord?_alike {word : List Char} (fixed : IsWord word) (h : Alike R cs ds) :
    Option.Rel (Alike R) (afterWord? word cs) (afterWord? word ds) := by
  have solid := fixed.solid
  clear fixed
  induction word generalizing cs ds with
  | nil => exact .some h
  | cons w word ih =>
    rw [List.forall_mem_cons] at solid
    cases h with
    | blanks hc hd =>
      rw [afterWord?_of_startsBlank solid.1 hc.startsBlank,
        afterWord?_of_startsBlank solid.1 hd.startsBlank]
      exact .none
    | @cons c d cs ds like rest =>
      rw [afterWord?, afterWord?, hR.fold like]
      by_cases same : foldCase d = w
      · rw [if_pos same, if_pos same]
        exact ih rest solid.2
      · rw [if_neg same, if_neg same]
        exact .none

/-- Behind alike lines the same words start. -/
theorem isWordBoundary_head? (before : Option Char) (h : Alike R cs ds) :
    Text.isWordBoundary before cs.head? = Text.isWordBoundary before ds.head? := by
  have noWord {xs : List Char} (hx : IsBlankLine xs) :
      xs.head?.any Text.isWordCharacter = false := by
    cases xs with
    | nil => rfl
    | cons x xs => exact isWordCharacter_of_isBlank (hx x List.mem_cons_self)
  have same : cs.head?.any Text.isWordCharacter = ds.head?.any Text.isWordCharacter := by
    cases h with
    | blanks hc hd => rw [noWord hc, noWord hd]
    | cons like _ => exact hR.word like
  rw [Text.isWordBoundary, Text.isWordBoundary, same]

end Pieces

/-! ## Trying a line from its tokens on -/

section FirstAtToken

variable {α β : Type} {f : List Char → Option α} {g : List Char → Option β}

/-- Blanks in front of a line do not matter to a reader that needs a token. -/
theorem firstAtToken?_blanks_append (needsToken : ∀ cs, StartsBlank cs → f cs = none)
    {bs : List Char} (hb : IsBlankLine bs) (cs : List Char) :
    firstAtToken? f (bs ++ cs) = firstAtToken? f cs := by
  induction bs with
  | nil => rfl
  | cons b bs ih =>
    have blank := hb b List.mem_cons_self
    rw [List.cons_append, firstAtToken?, needsToken _ (startsBlank_cons blank _), Option.none_or,
      firstAtToken?.go, if_pos blank]
    exact ih hb.tail

theorem firstAtToken?.go_of_isBlankLine (needsToken : ∀ cs, StartsBlank cs → f cs = none)
    {bs : List Char} (hb : IsBlankLine bs) : firstAtToken?.go f bs = none := by
  induction bs with
  | nil => rfl
  | cons b bs ih =>
    rw [firstAtToken?.go, if_pos (hb b List.mem_cons_self), needsToken _ hb.tail.startsBlank,
      ih hb.tail]
    rfl

/-- Readers that find alike things on alike texts do so on alike lines. -/
theorem firstAtToken?_alike {R : Char → Char → Prop} {r : α → β → Prop} {cs ds : List Char}
    (hR : IsLikeness R) (hf : ∀ cs, StartsBlank cs → f cs = none)
    (hg : ∀ cs, StartsBlank cs → g cs = none)
    (hfg : ∀ xs ys, Alike R xs ys → Option.Rel r (f xs) (g ys)) (h : Alike R cs ds) :
    Option.Rel r (firstAtToken? f cs) (firstAtToken? g ds) := by
  refine rel_or (hfg cs ds h) ?_
  induction h with
  | blanks hc hd =>
    rw [firstAtToken?.go_of_isBlankLine hf hc, firstAtToken?.go_of_isBlankLine hg hd]
    exact .none
  | @cons c d cs ds like rest ih =>
    rw [firstAtToken?.go, firstAtToken?.go, hR.blank like]
    cases Text.isBlank d with
    | true => exact rel_or (hfg cs ds rest) ih
    | false => exact ih

end FirstAtToken

namespace Reply

/-! ## Reply lines -/

theorem leading?_of_startsBlank {cs : List Char} (h : StartsBlank cs) : leading? cs = none := by
  rw [leading?, token?_of_startsBlank h]
  rfl

theorem labelled?_of_startsBlank {cs : List Char} (h : StartsBlank cs) : labelled? cs = none := by
  have label : afterWord? "bytes=".toList cs = none :=
    afterWord?_of_startsBlank (w := 'b') (by decide) h
  rw [labelled?, label]
  rfl

theorem leading?_or_labelled?_of_startsBlank (cs : List Char) (h : StartsBlank cs) :
    (leading? cs).or (labelled? cs) = none := by
  rw [leading?_of_startsBlank h, labelled?_of_startsBlank h]
  rfl

/-- The number behind the sign of a time. -/
def numberBehind? (exact : Bool) (cs : List Char) : Option (Bool × List Char) :=
  (afterWord? [sign exact] cs).bind fun rest =>
    (token? (skipBlanks rest)).map fun (time, _) => (exact, time)

theorem time?_eq (cs : List Char) : time? cs = (afterWord? "time".toList cs).bind fun rest =>
    (numberBehind? true (skipBlanks rest)).or (numberBehind? false (skipBlanks rest)) := by
  refine congrArg _ (funext fun rest => ?_)
  rw [numberBehind?, numberBehind?, sign, sign, if_pos rfl, if_neg (by decide)]
  split
  · next rest behind =>
    rw [behind, afterWord?_sign (by decide), if_pos rfl, afterWord?_sign (by decide),
      if_neg (by decide), Option.bind_some, Option.bind_none, Option.or_none]
  · next rest behind =>
    rw [behind, afterWord?_sign (by decide), if_neg (by decide), afterWord?_sign (by decide),
      if_pos rfl, Option.bind_some, Option.bind_none, Option.none_or]
  · next noEquals noLess =>
    cases behind : skipBlanks rest with
    | nil => rfl
    | cons c cs =>
      have equals : c ≠ '=' := fun h => noEquals cs (by rw [behind, h])
      have less : c ≠ '<' := fun h => noLess cs (by rw [behind, h])
      rw [afterWord?_sign (by decide), if_neg equals, afterWord?_sign (by decide), if_neg less]
      rfl

variable {R : Char → Char → Prop} {cs ds : List Char} (hR : IsLikeness R)

include hR

theorem numberBehind?_alike (exact : Bool) (h : Ping.Alike R cs ds) :
    Option.Rel (TimeAlike R) (numberBehind? exact cs) (numberBehind? exact ds) := by
  have fixed : IsWord [sign exact] :=
    ⟨List.cons_ne_nil _ _, List.forall_mem_singleton.2 (isBlank_sign exact)⟩
  refine rel_bind (afterWord?_alike hR fixed h) fun xs ys rest => ?_
  exact rel_map (token?_alike hR (skipBlanks_alike hR rest)) fun _ _ cut => ⟨rfl, cut.1⟩

theorem time?_alike (h : Ping.Alike R cs ds) :
    Option.Rel (TimeAlike R) (time? cs) (time? ds) := by
  rw [time?_eq, time?_eq]
  refine rel_bind (afterWord?_alike hR (by decide) h) fun xs ys rest => ?_
  have behind := skipBlanks_alike hR rest
  exact rel_or (numberBehind?_alike hR true behind) (numberBehind?_alike hR false behind)

omit hR in
/-- There is no time among blanks. -/
theorem firstTime?_of_isBlankLine {bs : List Char} (hb : IsBlankLine bs) (before : Char) :
    firstTime? before bs = none := by
  induction bs generalizing before with
  | nil => rfl
  | cons b bs ih =>
    have blank := hb b List.mem_cons_self
    have different : foldCase b ≠ 't' := by
      rw [foldCase_of_isBlank blank]
      rintro rfl
      exact absurd blank (by decide)
    rw [firstTime?_cons_of_ne different, ih hb.tail]

theorem firstTime?_alike {before before' : Char}
    (same : Text.isWordCharacter before = Text.isWordCharacter before') (h : Ping.Alike R cs ds) :
    Option.Rel (TimeAlike R) (firstTime? before cs) (firstTime? before' ds) := by
  induction h generalizing before before' with
  | blanks hc hd =>
    rw [firstTime?_of_isBlankLine hc, firstTime?_of_isBlankLine hd]
    exact .none
  | @cons c d cs ds like rest ih =>
    have boundary : Text.isWordBoundary (some before) (some c) =
        Text.isWordBoundary (some before') (some d) := by
      rw [Text.isWordBoundary, Text.isWordBoundary, Option.any_some, Option.any_some,
        Option.any_some, Option.any_some, same, hR.word like]
    rw [firstTime?, firstTime?, boundary]
    refine rel_or ?_ (ih (hR.word like))
    cases Text.isWordBoundary (some before') (some d) with
    | true => exact time?_alike hR (.cons like rest)
    | false => exact .none

theorem leading?_alike (h : Ping.Alike R cs ds) :
    Option.Rel (Alike R) (leading? cs) (leading? ds) := by
  refine rel_bind (token?_alike hR h) fun ⟨bytes, xs⟩ ⟨bytes', ys⟩ ⟨run, rest⟩ => ?_
  refine afterBlanks?_alike hR rest rfl rfl fun xs ys rest => ?_
  refine rel_bind (afterWord?_alike hR (by decide) rest) fun xs ys rest => ?_
  refine afterBlanks?_alike hR rest rfl rfl fun xs ys rest => ?_
  refine rel_bind (afterWord?_alike hR (by decide) rest) fun xs ys rest => ?_
  rw [isWordBoundary_head? hR (some 'm') rest]
  cases Text.isWordBoundary (some 'm') ys.head? with
  | true =>
    refine rel_bind (firstTime?_alike hR rfl rest) ?_
    rintro ⟨exact, time⟩ ⟨exact', time'⟩ ⟨same, times⟩
    exact .some ⟨run, same, times⟩
  | false => exact .none

theorem longestBefore?_alike {taken taken' : List Char} (run : List.Forall₂ R taken taken')
    (h : Ping.Alike R cs ds) :
    Option.Rel (Alike R) (longestBefore? taken cs) (longestBefore? taken' ds) := by
  induction run generalizing cs ds with
  | nil => exact .none
  | @cons c d taken taken' like run ih =>
    -- a character that is given back stands in front of the rest, and keeps both texts alike
    have time := firstTime?_alike hR (hR.word like) h
    rw [longestBefore?, longestBefore?]
    generalize firstTime? c cs = found at time
    generalize firstTime? d ds = found' at time
    cases time with
    | none => exact ih (.cons like h)
    | some times => exact .some ⟨List.forall₂_reverse_iff.2 (.cons like run), times.1, times.2⟩

theorem labelled?_alike (h : Ping.Alike R cs ds) :
    Option.Rel (Alike R) (labelled? cs) (labelled? ds) := by
  refine rel_bind (afterWord?_alike hR (by decide) h) fun xs ys rest => ?_
  refine rel_bind (token?_alike hR rest) fun ⟨bytes, xs⟩ ⟨bytes', ys⟩ ⟨run, rest⟩ => ?_
  exact longestBefore?_alike hR (List.forall₂_reverse_iff.2 run) rest

/-- Alike lines report alike replies. -/
theorem find?_alike (h : Ping.Alike R cs ds) : Option.Rel (Alike R) (find? cs) (find? ds) :=
  firstAtToken?_alike hR leading?_or_labelled?_of_startsBlank
    leading?_or_labelled?_of_startsBlank
    (fun _ _ rest => rel_or (leading?_alike hR rest) (labelled?_alike hR rest)) h

end Reply

namespace Summary

/-! ## Summary lines -/

theorem at?_of_startsBlank (cs : List Char) (h : StartsBlank cs) : at? cs = none := by
  rw [at?, token?_of_startsBlank h]
  rfl

theorem loss?_of_startsBlank {cs : List Char} (h : StartsBlank cs) : loss? cs = none := by
  rw [loss?, token?_of_startsBlank h]
  rfl

theorem afterRemark?_of_startsBlank {cs : List Char} (h : StartsBlank cs) :
    afterRemark? cs = none := by
  cases cs with
  | nil => rfl
  | cons c cs =>
    refine afterRemark?_of_ne ?_ cs
    rintro rfl
    exact absurd (h '+' rfl) (by decide)

/-- In front of a blank there is no loss, whatever remarks are allowed for. -/
theorem lossAfterRemarks?_of_startsBlank {cs : List Char} (h : StartsBlank cs) (fuel : Nat) :
    lossAfterRemarks? fuel cs = none := by
  rw [lossAfterRemarks?_of_none (afterRemark?_of_startsBlank h), loss?_of_startsBlank h]

/-- A remark is a sign, a token, blanks and a word with a comma. -/
theorem afterRemark?_eq (cs : List Char) : afterRemark? cs = (afterWord? ['+'] cs).bind fun rest =>
    (token? rest).bind fun (_, rest) => (afterBlanks? rest).bind fun rest =>
      if (rest.takeWhile Text.isWordCharacter).isEmpty then none
      else (afterWord? [','] (rest.dropWhile Text.isWordCharacter)).map skipBlanks := by
  cases cs with
  | nil => rfl
  | cons c cs =>
    rw [afterWord?_sign (by decide)]
    by_cases plus : c = '+'
    · subst plus
      rw [if_pos rfl, Option.bind_some]
      refine congrArg ((token? cs).bind ·) (funext fun (_, behind) =>
        congrArg ((afterBlanks? behind).bind ·) (funext fun rest => ?_))
      dsimp only
      cases (rest.takeWhile Text.isWordCharacter).isEmpty with
      | true => rfl
      | false =>
        rw [if_neg Bool.false_ne_true, if_neg Bool.false_ne_true]
        cases rest.dropWhile Text.isWordCharacter with
        | nil => rfl
        | cons d ds =>
          rw [afterWord?_sign (by decide)]
          by_cases comma : d = ','
          · subst comma
            rfl
          · rw [if_neg comma]
            split
            · next first => exact absurd (List.cons.inj first).1 comma
            · rfl
    · rw [if_neg plus, afterRemark?_of_ne plus]
      rfl

theorem length_le_of_token? {cs token rest : List Char} (h : token? cs = some (token, rest)) :
    rest.length ≤ cs.length := by
  rw [token?] at h
  split at h
  · cases h
  · obtain ⟨-, rfl⟩ := Prod.mk.inj (Option.some.inj h)
    exact (List.dropWhile_sublist _).length_le

theorem length_le_of_afterBlanks? {cs rest : List Char} (h : afterBlanks? cs = some rest) :
    rest.length ≤ cs.length := by
  cases cs with
  | nil => cases h
  | cons c cs =>
    rw [afterBlanks?] at h
    split at h
    · obtain rfl := Option.some.inj h
      exact (List.dropWhile_sublist _).length_le.trans (Nat.le_succ _)
    · cases h

/-- A remark takes up some of the text. -/
theorem length_lt_of_afterRemark? {cs rest : List Char} (h : afterRemark? cs = some rest) :
    rest.length < cs.length := by
  rw [afterRemark?_eq] at h
  simp only [Option.bind_eq_some_iff] at h
  obtain ⟨rest₁, plus, ⟨token, rest₂⟩, first, rest₃, blanks, h⟩ := h
  obtain ⟨w, folded, rfl⟩ := eq_append_of_afterWord? plus
  have short := (length_le_of_afterBlanks? blanks).trans (length_le_of_token? first)
  split at h
  · cases h
  obtain ⟨rest₄, comma, rfl⟩ := Option.map_eq_some_iff.1 h
  obtain ⟨w', -, word⟩ := eq_append_of_afterWord? comma
  have behind : (w' ++ rest₄).length ≤ rest₃.length := by
    rw [← word]
    exact (List.dropWhile_sublist _).length_le
  have skipped : (skipBlanks rest₄).length ≤ rest₄.length := (List.dropWhile_sublist _).length_le
  have one : w.length = 1 := by rw [← List.length_map (f := foldCase), folded]; rfl
  rw [List.length_append] at behind ⊢
  omega

variable {R : Char → Char → Prop} {cs ds : List Char} (hR : IsLikeness R)

include hR

theorem loss?_alike (h : Ping.Alike R cs ds) :
    Option.Rel (List.Forall₂ R) (loss? cs) (loss? ds) := by
  refine rel_bind (token?_alike hR h) fun ⟨token, xs⟩ ⟨token', ys⟩ ⟨run, rest⟩ => ?_
  -- the percent sign is the last character of the token
  have reversed := List.forall₂_reverse_iff.2 run
  dsimp only at reversed ⊢
  generalize token.reverse = last at reversed ⊢
  generalize token'.reverse = last' at reversed ⊢
  cases reversed with
  | nil => exact .none
  | @cons c d digits digits' like run =>
    have percent := hR.sign_iff like (s := '%') (by decide)
    by_cases same : d = '%'
    · obtain rfl := percent.2 same
      subst same
      cases run with
      | nil => exact .none
      | cons like run =>
        refine afterBlanks?_alike hR rest rfl rfl fun xs ys rest => ?_
        refine rel_bind (afterWord?_alike hR (by decide) rest) fun xs ys rest => ?_
        refine afterBlanks?_alike hR rest rfl rfl fun xs ys rest => ?_
        refine rel_bind (afterWord?_alike hR (by decide) rest) fun xs ys rest => ?_
        exact .some (List.forall₂_reverse_iff.2 (.cons like run))
    · split
      · next h => exact absurd (percent.1 (List.cons.inj h).1) same
      · split
        · next h => exact absurd (List.cons.inj h).1 same
        · exact .none

theorem afterRemark?_alike (h : Ping.Alike R cs ds) :
    Option.Rel (Ping.Alike R) (afterRemark? cs) (afterRemark? ds) := by
  rw [afterRemark?_eq, afterRemark?_eq]
  refine rel_bind (afterWord?_alike hR (by decide) h) fun xs ys rest => ?_
  refine rel_bind (token?_alike hR rest) fun ⟨_, xs⟩ ⟨_, ys⟩ ⟨_, rest⟩ => ?_
  refine afterBlanks?_alike hR rest rfl rfl fun xs ys rest => ?_
  obtain ⟨word, behind⟩ := rest.span (p := Text.isWordCharacter) (fun like => hR.word like)
    isWordCharacter_of_isBlank
  have fixed : IsWord [','] := by decide
  have comma := rel_map (afterWord?_alike hR fixed behind) fun _ _ rest => skipBlanks_alike hR rest
  generalize xs.takeWhile Text.isWordCharacter = token at word ⊢
  generalize ys.takeWhile Text.isWordCharacter = token' at word ⊢
  cases word with
  | nil => exact .none
  | cons => exact comma

/-- The loss is read alike, whatever numbers of remarks are allowed for, if they are enough. -/
theorem lossAfterRemarks?_alike {fuel fuel' : Nat} (enough : cs.length ≤ fuel)
    (enough' : ds.length ≤ fuel') (h : Ping.Alike R cs ds) :
    Option.Rel (List.Forall₂ R) (lossAfterRemarks? fuel cs) (lossAfterRemarks? fuel' ds) := by
  -- alike lines may differ in length, and so in the number of remarks that are allowed for
  induction fuel generalizing fuel' cs ds with
  | zero =>
    obtain rfl := List.length_eq_zero_iff.1 (Nat.le_zero.1 enough)
    have blank : IsBlankLine ds := by
      cases h with
      | blanks _ hd => exact hd
    rw [lossAfterRemarks?_of_startsBlank blank.startsBlank]
    exact .none
  | succ fuel ih =>
    cases fuel' with
    | zero =>
      obtain rfl := List.length_eq_zero_iff.1 (Nat.le_zero.1 enough')
      have blank : IsBlankLine cs := by
        cases h with
        | blanks hc _ => exact hc
      rw [lossAfterRemarks?_of_startsBlank blank.startsBlank]
      exact .none
    | succ fuel' =>
      rw [lossAfterRemarks?, lossAfterRemarks?]
      refine rel_or ?_ (loss?_alike hR h)
      have remark := afterRemark?_alike hR h
      cases hc : afterRemark? cs with
      | none =>
        rw [hc] at remark
        generalize afterRemark? ds = behind' at remark ⊢
        cases remark
        exact .none
      | some behind =>
        cases hd : afterRemark? ds with
        | none =>
          rw [hc, hd] at remark
          cases remark
        | some behind' =>
          rw [hc, hd] at remark
          have short := length_lt_of_afterRemark? hc
          have short' := length_lt_of_afterRemark? hd
          exact ih (by omega) (by omega) (Option.rel_some_some.1 remark)

/-- The number received, and what follows it. -/
theorem received?_alike (h : Ping.Alike R cs ds) :
    Option.Rel (CutAlike R) (received? cs) (received? ds) := by
  refine rel_bind (token?_alike hR h) fun ⟨received, xs⟩ ⟨received', ys⟩ ⟨run, rest⟩ => ?_
  refine afterBlanks?_alike hR rest rfl rfl fun xs ys rest => ?_
  have fixed : IsWord "received,".toList := by decide
  have last {xs ys : List Char} (rest : Ping.Alike R xs ys) := afterWord?_alike hR fixed rest
  refine rel_bind (rel_or ?_ (last rest)) fun xs ys rest => .some ⟨run, rest⟩
  refine rel_bind (afterWord?_alike hR (by decide) rest) fun xs ys rest => ?_
  exact afterBlanks?_alike hR rest rfl rfl fun xs ys rest => last rest

theorem at?_alike (h : Ping.Alike R cs ds) : Option.Rel (Alike R) (at? cs) (at? ds) := by
  refine rel_bind (token?_alike hR h) fun ⟨transmitted, xs⟩ ⟨transmitted', ys⟩ ⟨first, rest⟩ => ?_
  refine afterBlanks?_alike hR rest rfl rfl fun xs ys rest => ?_
  refine rel_bind (afterWord?_alike hR (by decide) rest) fun xs ys rest => ?_
  refine afterBlanks?_alike hR rest rfl rfl fun xs ys rest => ?_
  refine rel_bind (afterWord?_alike hR (by decide) rest) fun xs ys rest => ?_
  refine rel_bind (received?_alike hR (skipBlanks_alike hR rest)) ?_
  rintro ⟨received, xs⟩ ⟨received', ys⟩ ⟨second, rest⟩
  refine rel_bind (lossAfterRemarks?_alike hR le_rfl le_rfl (skipBlanks_alike hR rest)) ?_
  exact fun loss loss' third => .some ⟨first, second, third⟩

/-- Alike lines give alike summaries. -/
theorem find?_alike (h : Ping.Alike R cs ds) : Option.Rel (Alike R) (find? cs) (find? ds) :=
  firstAtToken?_alike hR at?_of_startsBlank at?_of_startsBlank (fun _ _ => at?_alike hR) h

end Summary

/-! ## Blanks at the ends of lines -/

theorem alike_append_blanks {bs : List Char} (hb : IsBlankLine bs) (cs : List Char) :
    Alike Eq (cs ++ bs) cs := by
  induction cs with
  | nil => exact .blanks hb isBlankLine_nil
  | cons c cs ih => exact .cons rfl ih

theorem Reply.Alike.eq {r s : Reply} (h : Reply.Alike Eq r s) : r = s := by
  obtain ⟨bytes, exact, time⟩ := h
  rw [List.forall₂_eq_eq_eq] at bytes time
  cases r
  cases s
  simp_all

theorem Summary.Alike.eq {s t : Summary} (h : Summary.Alike Eq s t) : s = t := by
  obtain ⟨transmitted, received, loss⟩ := h
  rw [List.forall₂_eq_eq_eq] at transmitted received loss
  cases s
  cases t
  simp_all

/-- Results that are related by a relation that implies equality are equal. -/
theorem eq_of_rel {α : Type} {r : α → α → Prop} {a b : Option α} (h : Option.Rel r a b)
    (hr : ∀ x y, r x y → x = y) : a = b := by
  cases h with
  | none => rfl
  | some hxy => rw [hr _ _ hxy]

/-- Blanks at the end of a line do not matter. -/
theorem Reply.find?_append_blanks {bs : List Char} (hb : IsBlankLine bs) (line : List Char) :
    Reply.find? (line ++ bs) = Reply.find? line :=
  eq_of_rel (Reply.find?_alike isLikeness_eq (alike_append_blanks hb line))
    fun _ _ => Reply.Alike.eq

theorem Summary.find?_append_blanks {bs : List Char} (hb : IsBlankLine bs) (line : List Char) :
    Summary.find? (line ++ bs) = Summary.find? line :=
  eq_of_rel (Summary.find?_alike isLikeness_eq (alike_append_blanks hb line))
    fun _ _ => Summary.Alike.eq

/-- Nor do blanks at its start. -/
theorem Reply.find?_blanks_append {bs : List Char} (hb : IsBlankLine bs) (line : List Char) :
    Reply.find? (bs ++ line) = Reply.find? line :=
  firstAtToken?_blanks_append Reply.leading?_or_labelled?_of_startsBlank hb line

theorem Summary.find?_blanks_append {bs : List Char} (hb : IsBlankLine bs) (line : List Char) :
    Summary.find? (bs ++ line) = Summary.find? line :=
  firstAtToken?_blanks_append Summary.at?_of_startsBlank hb line

end Reachability.Ping
