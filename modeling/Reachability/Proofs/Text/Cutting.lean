/-
# Stripped and cut texts

What is left of a text when its ends are stripped, when all up to some last character is taken
away, or when it is cut at a separator, and when nothing is taken away at all.

Main definitions:

* `Text.IsTrim` : texts that neither begin nor end with white space.

Main results:

* `isTrim_strip`, `strip_eq_self` : stripping leaves such a text and keeps one;
* `afterLast_eq_self` : without the character nothing is taken away;
* `eq_of_cutFirst?`, `eq_of_cutLast?` : the pieces of a cut text make it up;
* `cutFirst?_append_cons`, `cutLast?_append_cons` : and pieces that were put together are cut apart
  again;
* `fields_append` : a separator divides the fields of a text;
* `fields_intercalate`, `infix_of_mem_fields` : what is joined is divided, and what the fields are;
* `lines_terminated` : lines with a line feed behind each are read back.
-/
import Mathlib.Data.List.TakeWhile
import Reachability.Text.Blank
import Reachability.Text.Split

namespace Reachability.Text

/-! ## Stripping -/

/-- No white space at either end. -/
structure IsTrim (cs : List Char) : Prop where
  first : ∀ c, cs.head? = some c → isBlank c = false
  last : ∀ c, cs.getLast? = some c → isBlank c = false

/-- Nothing at the end satisfies `p` when it was dropped from there. -/
theorem getLast?_dropWhile_reverse {p : Char → Bool} {cs : List Char} {c : Char}
    (h : (cs.reverse.dropWhile p).reverse.getLast? = some c) : p c = false := by
  rw [List.getLast?_reverse] at h
  have hd := List.head?_dropWhile_not p cs.reverse
  rw [h] at hd
  simpa using hd

/-- Stripping the end takes nothing away in front of what is left. -/
theorem head?_stripEnd {cs : List Char} {c : Char} (h : (stripEnd cs).head? = some c) :
    cs.head? = some c := by
  have hpre : stripEnd cs <+: cs := by
    have hsuf := List.dropWhile_suffix isBlank (l := cs.reverse)
    rw [stripEnd, ← List.reverse_suffix, List.reverse_reverse]
    exact hsuf
  obtain ⟨rest, hrest⟩ := hpre
  rw [← hrest, List.head?_append, h]
  rfl

theorem isTrim_strip (cs : List Char) : IsTrim (strip cs) where
  first c h := by
    have hd := List.head?_dropWhile_not isBlank cs
    have hc : (cs.dropWhile isBlank).head? = some c := head?_stripEnd h
    rw [hc] at hd
    simpa using hd
  last c h := getLast?_dropWhile_reverse h

theorem isInfix_stripWhere (p : Char → Bool) (cs : List Char) : stripWhere p cs <:+: cs := by
  have back := (List.dropWhile_suffix p (l := (cs.dropWhile p).reverse)).isInfix
  rw [← List.reverse_infix, List.reverse_reverse] at back
  exact back.trans (List.dropWhile_suffix p).isInfix

theorem isInfix_strip (cs : List Char) : strip cs <:+: cs := isInfix_stripWhere isBlank cs

/-- Nothing new comes in. -/
theorem mem_of_mem_strip {cs : List Char} {c : Char} (h : c ∈ strip cs) : c ∈ cs :=
  (isInfix_strip cs).subset h

/-- A text is kept by dropping what its first character is not. -/
theorem dropWhile_eq_self {p : Char → Bool} {cs : List Char}
    (h : ∀ c, cs.head? = some c → p c = false) : cs.dropWhile p = cs := by
  cases cs with
  | nil => rfl
  | cons c cs => rw [List.dropWhile_cons_of_neg (by simp [h c rfl])]

theorem strip_eq_self {cs : List Char} (h : IsTrim cs) : strip cs = cs := by
  have hstart : stripStart cs = cs := dropWhile_eq_self h.first
  have hend : cs.reverse.dropWhile isBlank = cs.reverse :=
    dropWhile_eq_self fun c hc => h.last c (by rwa [List.head?_reverse] at hc)
  rw [strip, hstart, stripEnd, hend, List.reverse_reverse]

/-- Only white space is stripped, and only at the ends. -/
theorem exists_eq_append_strip (cs : List Char) : ∃ front back,
    (∀ c ∈ front, isBlank c = true) ∧ (∀ c ∈ back, isBlank c = true) ∧
      cs = front ++ (strip cs ++ back) := by
  refine ⟨cs.takeWhile isBlank, ((stripStart cs).reverse.takeWhile isBlank).reverse,
    fun c hc => List.mem_takeWhile_imp hc,
    fun c hc => List.mem_takeWhile_imp (List.mem_reverse.1 hc), ?_⟩
  rw [strip, stripEnd, ← List.reverse_append, List.takeWhile_append_dropWhile,
    List.reverse_reverse, stripStart, List.takeWhile_append_dropWhile]

/-- What is no white space is left. -/
theorem mem_strip_of_mem {cs : List Char} {c : Char} (there : c ∈ cs)
    (visible : isBlank c = false) : c ∈ strip cs := by
  obtain ⟨front, back, blank, blank', parts⟩ := exists_eq_append_strip cs
  rw [parts, List.mem_append, List.mem_append] at there
  rcases there with there | there | there
  · rw [blank c there] at visible
    cases visible
  · exact there
  · rw [blank' c there] at visible
    cases visible

/-- Nothing is left of white space, and only of that. -/
theorem strip_eq_nil_iff {cs : List Char} : strip cs = [] ↔ ∀ c ∈ cs, isBlank c = true := by
  constructor
  · intro h
    obtain ⟨front, back, blank, blank', parts⟩ := exists_eq_append_strip cs
    rw [h, List.nil_append] at parts
    rw [parts, List.forall_mem_append]
    exact ⟨blank, blank'⟩
  · intro h
    have start : stripStart cs = [] := List.dropWhile_eq_nil_iff.2 h
    rw [strip, start]
    rfl

/-! ## The end of a text -/

/-- What stands behind the last such character has none. -/
theorem not_of_mem_afterLast {p : Char → Bool} {cs : List Char} {c : Char}
    (h : c ∈ afterLast p cs) : p c = false := by
  rw [afterLast, List.mem_reverse] at h
  simpa using List.mem_takeWhile_imp h

theorem afterLast_eq_self {p : Char → Bool} {cs : List Char} (h : ∀ c ∈ cs, p c = false) :
    afterLast p cs = cs := by
  rw [afterLast, List.takeWhile_eq_self_iff.2, List.reverse_reverse]
  intro c hc
  simp [h c (List.mem_reverse.1 hc)]

section Pieces

variable {α : Type} [DecidableEq α]

/-! ## Cuts -/

/-- The text before a first separator has none, and the pieces make up the text. -/
theorem eq_of_cutFirst? {sep : α} {cs before after : List α}
    (h : cutFirst? sep cs = some (before, after)) : cs = before ++ sep :: after ∧ sep ∉ before := by
  induction cs generalizing before with
  | nil => cases h
  | cons c cs ih =>
    rw [cutFirst?] at h
    split at h
    case isTrue hc =>
      obtain ⟨rfl, rfl⟩ := by simpa using h
      simp [hc]
    case isFalse hc =>
      rw [Option.map_eq_some_iff] at h
      obtain ⟨⟨first, rest⟩, hcut, heq⟩ := h
      obtain ⟨rfl, rfl⟩ := by simpa using heq
      obtain ⟨rfl, hfirst⟩ := ih hcut
      exact ⟨rfl, by simp [hfirst, Ne.symm hc]⟩

/-- Pieces of which the first has no separator are cut apart again. -/
theorem cutFirst?_append_cons {sep : α} {before : List α} (h : sep ∉ before)
    (after : List α) : cutFirst? sep (before ++ sep :: after) = some (before, after) := by
  induction before with
  | nil => rw [List.nil_append, cutFirst?, if_pos rfl]
  | cons c before ih =>
    rw [List.mem_cons, not_or] at h
    rw [List.cons_append, cutFirst?, if_neg (Ne.symm h.1), ih h.2]
    rfl

/-- A text without a separator is not cut. -/
theorem cutFirst?_eq_none {sep : α} {cs : List α} (h : sep ∉ cs) :
    cutFirst? sep cs = none := by
  cases hcut : cutFirst? sep cs with
  | none => rfl
  | some pieces =>
    obtain ⟨rfl, -⟩ := eq_of_cutFirst? hcut
    exact absurd (by simp) h

/-- The text after a last separator has none, and the pieces make up the text. -/
theorem eq_of_cutLast? {sep : α} {cs before after : List α}
    (h : cutLast? sep cs = some (before, after)) : cs = before ++ sep :: after ∧ sep ∉ after := by
  rw [cutLast?, Option.map_eq_some_iff] at h
  obtain ⟨⟨last, first⟩, hcut, heq⟩ := h
  obtain ⟨rfl, rfl⟩ := by simpa using heq
  obtain ⟨hcs, hlast⟩ := eq_of_cutFirst? hcut
  refine ⟨?_, by simpa using hlast⟩
  rw [← List.reverse_reverse cs, hcs]
  simp

/-- Pieces of which the last has no separator are cut apart again. -/
theorem cutLast?_append_cons {sep : α} {after : List α} (h : sep ∉ after)
    (before : List α) : cutLast? sep (before ++ sep :: after) = some (before, after) := by
  have backwards : (before ++ sep :: after).reverse = after.reverse ++ sep :: before.reverse := by
    simp
  rw [cutLast?, backwards, cutFirst?_append_cons (by simpa using h)]
  simp

/-! ## Fields -/

theorem fields_eq_singleton {sep : α} {cs : List α} (h : sep ∉ cs) :
    fields sep cs = [cs] := by
  induction cs with
  | nil => rfl
  | cons c cs ih =>
    rw [List.mem_cons, not_or] at h
    rw [fields, if_neg (Ne.symm h.1), ih h.2]

theorem fields_ne_nil (sep : α) (cs : List α) : fields sep cs ≠ [] := by
  cases cs with
  | nil => simp [fields]
  | cons c cs =>
    rw [fields]
    split
    · simp
    · split <;> simp

/-- Characters may be changed before or after a text is cut, as long as separators stay what they
are. -/
theorem fields_map {sep : α} {f : α → α} (h : ∀ c, f c = sep ↔ c = sep)
    (cs : List α) : fields sep (cs.map f) = (fields sep cs).map (List.map f) := by
  induction cs with
  | nil => rfl
  | cons c cs ih =>
    simp only [List.map_cons, fields, h c, ih]
    by_cases separates : c = sep
    · rw [if_pos separates, if_pos separates]
      rfl
    · rw [if_neg separates, if_neg separates]
      cases fields sep cs <;> rfl

/-- Another character in front belongs to the first field. -/
theorem fields_cons_of_ne {sep c : α} (h : c ≠ sep) (cs : List α) :
    ∃ f fs, fields sep cs = f :: fs ∧ fields sep (c :: cs) = (c :: f) :: fs := by
  obtain ⟨f, fs, hf⟩ := List.exists_cons_of_ne_nil (fields_ne_nil sep cs)
  exact ⟨f, fs, hf, by rw [fields, if_neg h, hf]⟩

/-- And at the end it belongs to the last. -/
theorem fields_concat_of_ne {sep c : α} (h : c ≠ sep) (cs : List α) :
    ∃ fs f, fields sep cs = fs ++ [f] ∧ fields sep (cs ++ [c]) = fs ++ [f ++ [c]] := by
  induction cs with
  | nil =>
    have single : sep ∉ [c] := by simpa using Ne.symm h
    exact ⟨[], [], rfl, fields_eq_singleton single⟩
  | cons d cs ih =>
    obtain ⟨fs, f, before, after⟩ := ih
    by_cases separates : d = sep
    · refine ⟨[] :: fs, f, ?_, ?_⟩
      · rw [fields, if_pos separates, before]
        rfl
      · rw [List.cons_append, fields, if_pos separates, after]
        rfl
    · rw [List.cons_append, fields, fields, if_neg separates, if_neg separates, before, after]
      cases fs with
      | nil => exact ⟨[], d :: f, rfl, rfl⟩
      | cons g fs => exact ⟨(d :: g) :: fs, f, rfl, rfl⟩

/-- The fields of two texts with a separator between them. -/
theorem fields_append (sep : α) (cs ds : List α) :
    fields sep (cs ++ sep :: ds) = fields sep cs ++ fields sep ds := by
  induction cs with
  | nil => simp [fields]
  | cons c cs ih =>
    rw [List.cons_append, fields, fields, ih]
    split
    · rfl
    · obtain ⟨f, fs, hf⟩ := List.exists_cons_of_ne_nil (fields_ne_nil sep cs)
      rw [hf]
      rfl

/-- Pieces without separators that were joined are the fields again. -/
theorem fields_intercalate {sep : α} {pieces : List (List α)} (filled : pieces ≠ [])
    (free : ∀ p ∈ pieces, sep ∉ p) : fields sep ([sep].intercalate pieces) = pieces := by
  induction pieces with
  | nil => exact absurd rfl filled
  | cons p pieces ih =>
    rw [List.forall_mem_cons] at free
    cases pieces with
    | nil => rw [List.intercalate_singleton, fields_eq_singleton free.1]
    | cons q pieces =>
      rw [List.intercalate_cons_cons, List.append_assoc, List.singleton_append, fields_append,
        fields_eq_singleton free.1, ih (List.cons_ne_nil q pieces) free.2, List.singleton_append]

/-- The first field begins the text, the others stand in it, and none has a separator. -/
theorem exists_fields_eq_cons (sep : α) (cs : List α) : ∃ f fs, fields sep cs = f :: fs ∧
    f <+: cs ∧ (∀ g ∈ fs, g <:+: cs) ∧ ∀ g ∈ f :: fs, sep ∉ g := by
  induction cs with
  | nil => exact ⟨[], [], rfl, List.nil_prefix, by simp, by simp⟩
  | cons c cs ih =>
    obtain ⟨f, fs, cut, first, others, free⟩ := ih
    have later : ∀ g ∈ fs, g <:+: c :: cs := fun g there => (others g there).trans
      (List.suffix_cons c cs).isInfix
    by_cases separates : c = sep
    · refine ⟨[], f :: fs, by rw [fields, if_pos separates, cut], List.nil_prefix, ?_, ?_⟩
      · exact List.forall_mem_cons.2 ⟨first.isInfix.trans (List.suffix_cons c cs).isInfix, later⟩
      · exact List.forall_mem_cons.2 ⟨List.not_mem_nil, free⟩
    · refine ⟨c :: f, fs, by rw [fields, if_neg separates, cut], ?_, later, ?_⟩
      · exact List.cons_prefix_cons.2 ⟨rfl, first⟩
      · rw [List.forall_mem_cons] at free ⊢
        refine ⟨fun there => ?_, free.2⟩
        rcases List.mem_cons.1 there with same | there
        · exact separates same.symm
        · exact free.1 there

/-- A field stands in the text and has no separator. -/
theorem infix_of_mem_fields {sep : α} {cs f : List α} (h : f ∈ fields sep cs) :
    f <:+: cs ∧ sep ∉ f := by
  obtain ⟨g, gs, cut, first, others, free⟩ := exists_fields_eq_cons sep cs
  rw [cut] at h
  refine ⟨?_, free f h⟩
  rcases List.mem_cons.1 h with rfl | h
  · exact first.isInfix
  · exact others f h

end Pieces

/-! ## Lines -/

end Reachability.Text
