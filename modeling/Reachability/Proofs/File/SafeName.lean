/-
# Safe names

A name that comes from outside becomes the name of a file.  Whatever a header or a URL holds,
the name that is chosen is one part of a path: it leads to a place directly in the directory,
and to no other.

Main definitions:

* `File.IsSafe` : names that are one part of a path, on every usual system;
* `File.Splits` : a name before its extension, and the extension.

Main results:

* `isSafe_of_sanitize`, `sanitize_eq_self` : what is left of a text is safe, and safe names are
  left as they are;
* `exists_splits` : numbers are put in before the extension;
* `isSafe_candidate`, `isSafe_numbered` : the names that are tried are safe;
* `isSafe_of_freeName?` : so are the names that are chosen;
* `way_pathOf` : a safe name is the last part of its path.
-/
import Reachability.File.Directory
import Reachability.Proofs.File.Path

namespace Reachability.File

/-! ## Safe names -/

/-- Names that are one part of a path, and look like it. -/
structure IsSafe (name : String) : Prop where
  nonempty : name ≠ ""
  separators : '/' ∉ name.toList ∧ '\\' ∉ name.toList
  controls : ∀ c ∈ name.toList, Text.isControl c = false
  reserved : ∀ c ∈ name.toList, c ∉ [':', '*', '?', '"', '<', '>', '|']
  trim : Text.IsTrim name.toList
  dots : name ≠ "." ∧ name ≠ ".."

/-- A character that may stand anywhere in a safe name. -/
def IsPlain (c : Char) : Prop := c ≠ '/' ∧ c ≠ '\\' ∧ isReserved c = false

instance (c : Char) : Decidable (IsPlain c) := inferInstanceAs (Decidable (_ ∧ _ ∧ _))

theorem isReserved_eq_false_iff {c : Char} :
    isReserved c = false ↔
      c ∉ [':', '*', '?', '"', '<', '>', '|'] ∧ Text.isControl c = false := by
  have hlist : ":*?\"<>|".toList = [':', '*', '?', '"', '<', '>', '|'] := by decide
  rw [isReserved, hlist, Bool.or_eq_false_iff, List.contains_eq_mem, decide_eq_false_iff_not]

/-- Safe names are told by their characters. -/
theorem isSafe_iff {name : String} :
    IsSafe name ↔ (∀ c ∈ name.toList, IsPlain c) ∧ Text.IsTrim name.toList ∧
      name.toList ≠ [] ∧ name.toList ≠ ['.'] ∧ name.toList ≠ ['.', '.'] := by
  have hne (text : String) : name ≠ text ↔ name.toList ≠ text.toList := by
    rw [ne_eq, ne_eq, String.toList_inj]
  constructor
  · intro h
    refine ⟨fun c hc => ⟨?_, ?_, ?_⟩, h.trim, (hne "").1 h.nonempty, (hne ".").1 h.dots.1,
      (hne "..").1 h.dots.2⟩
    · exact fun hslash => h.separators.1 (hslash ▸ hc)
    · exact fun hslash => h.separators.2 (hslash ▸ hc)
    · exact isReserved_eq_false_iff.2 ⟨h.reserved c hc, h.controls c hc⟩
  · rintro ⟨plain, trim, nonempty, dot, dots⟩
    exact {
      nonempty := (hne "").2 nonempty
      separators := ⟨fun h => (plain _ h).1 rfl, fun h => (plain _ h).2.1 rfl⟩
      controls := fun c hc => (isReserved_eq_false_iff.1 (plain c hc).2.2).2
      reserved := fun c hc => (isReserved_eq_false_iff.1 (plain c hc).2.2).1
      trim
      dots := ⟨(hne ".").2 dot, (hne "..").2 dots⟩ }

/-! ## Cleaned names -/

/-- A reserved character becomes an underscore, which is not. -/
theorem isReserved_safeChar (c : Char) : isReserved (safeChar c) = false := by
  unfold safeChar
  split
  · decide
  · next h => simpa using h

/-- Slashes do not come in by cleaning. -/
theorem isPlain_safeChar {c : Char} (h : (c == '/' || c == '\\') = false) :
    IsPlain (safeChar c) := by
  refine ⟨?_, ?_, isReserved_safeChar c⟩ <;>
  · unfold safeChar
    split
    · decide
    · simp_all

/-- The name that cleaning leaves, if it is none of those that are no names. -/
theorem sanitize_eq_some_iff {text name : String} :
    sanitize text = some name ↔
      name.toList = Text.strip
          ((Text.afterLast (fun c => c == '/' || c == '\\') text.toList).map safeChar) ∧
        name.toList ≠ [] ∧ name.toList ≠ ['.'] ∧ name.toList ≠ ['.', '.'] := by
  unfold sanitize
  dsimp only
  generalize Text.strip _ = cs
  constructor
  · intro h
    split at h
    case isTrue => cases h
    case isFalse hcs =>
      obtain rfl := Option.some.inj h
      simpa [String.toList_ofList, not_or, and_assoc] using hcs
  · rintro ⟨rfl, nonempty, dot, dots⟩
    rw [if_neg (by simp [nonempty, dot, dots]), String.ofList_toList]

theorem isSafe_of_sanitize {text name : String} (h : sanitize text = some name) : IsSafe name := by
  obtain ⟨hname, nonempty⟩ := sanitize_eq_some_iff.1 h
  refine isSafe_iff.2 ⟨fun c hc => ?_, ?_, nonempty⟩
  · rw [hname] at hc
    obtain ⟨a, ha, rfl⟩ := List.mem_map.1 (Text.mem_of_mem_strip hc)
    exact isPlain_safeChar (Text.not_of_mem_afterLast ha)
  · rw [hname]
    exact Text.isTrim_strip _

/-- Cleaning leaves a safe name as it is. -/
theorem sanitize_eq_self {name : String} (h : IsSafe name) : sanitize name = some name := by
  obtain ⟨plain, trim, nonempty⟩ := isSafe_iff.1 h
  refine sanitize_eq_some_iff.2 ⟨?_, nonempty⟩
  have hbase : Text.afterLast (fun c => c == '/' || c == '\\') name.toList = name.toList := by
    refine Text.afterLast_eq_self fun c hc => ?_
    simp [(plain c hc).1, (plain c hc).2.1]
  have hmap : name.toList.map safeChar = name.toList := by
    calc
      name.toList.map safeChar = name.toList.map id :=
        List.map_congr_left fun c hc => by simp [safeChar, (plain c hc).2.2]
      _ = name.toList := List.map_id _
  rw [hbase, hmap, Text.strip_eq_self trim]

/-! ## Longer names -/

/-- Characters of words may be put in behind the start of a safe name.  The last character of
the new name may be one of them. -/
theorem isSafe_insert {front inner back : List Char} (h : IsSafe (String.ofList (front ++ back)))
    (hfront : front ≠ []) (hinner : ∀ c ∈ inner, IsPlain c ∧ Text.isBlank c = false)
    (nodot : ∃ c ∈ inner, c ≠ '.') : IsSafe (String.ofList (front ++ inner ++ back)) := by
  simp only [isSafe_iff, String.toList_ofList] at h ⊢
  obtain ⟨plain, trim, -⟩ := h
  refine ⟨fun c hc => ?_, ⟨fun c hc => ?_, fun c hc => ?_⟩, ?_⟩
  · rw [List.append_assoc, List.mem_append, List.mem_append] at hc
    rcases hc with hc | hc | hc
    · exact plain c (List.mem_append_left _ hc)
    · exact (hinner c hc).1
    · exact plain c (List.mem_append_right _ hc)
  · obtain ⟨first, rest, rfl⟩ := List.exists_cons_of_ne_nil hfront
    exact trim.first c hc
  · rw [List.getLast?_append] at hc
    by_cases hback : back = []
    · -- the inner characters are the last ones
      obtain ⟨d, hd, -⟩ := nodot
      rw [hback, List.getLast?_nil, Option.none_or, List.getLast?_append,
        List.getLast?_eq_some_getLast (List.ne_nil_of_mem hd), Option.some_or] at hc
      obtain rfl := Option.some.inj hc
      exact (hinner _ (List.getLast_mem _)).2
    · refine trim.last c ?_
      rw [List.getLast?_append]
      rw [List.getLast?_eq_some_getLast hback] at hc ⊢
      exact hc
  · -- no name of dots alone has such a character
    obtain ⟨d, hd, hne⟩ := nodot
    have hmem : d ∈ front ++ inner ++ back := by simp [hd]
    refine ⟨List.ne_nil_of_mem hmem, fun heq => ?_, fun heq => ?_⟩ <;>
    · rw [heq] at hmem
      simp [hne] at hmem

/-! ## General names -/

/-- A character that is none of some characters of another class. -/
theorem ne_of_class {p : Char → Bool} {c d : Char} (hc : p c = true) (hd : p d = false) :
    c ≠ d := by
  rintro rfl
  rw [hc] at hd
  cases hd

/-- Letters, digits and hyphens stand between the hyphen and the small z. -/
theorem toNat_of_isExtensionCharacter {c : Char}
    (h : MediaType.isExtensionCharacter c = true) : 0x2d ≤ c.toNat ∧ c.toNat ≤ 0x7a := by
  change (((decide (c.val ≥ 'A'.val ∧ c.val ≤ 'Z'.val) ||
    (decide (c.val ≥ 'a'.val) && decide (c.val ≤ 'z'.val))) ||
    (decide (c.val ≥ '0'.val) && decide (c.val ≤ '9'.val))) || c == '-') = true at h
  simp only [Bool.or_eq_true, Bool.and_eq_true, decide_eq_true_eq, beq_iff_eq, ge_iff_le,
    UInt32.le_iff_toNat_le] at h
  rcases h with ((h | h) | h) | rfl
  · exact ⟨le_trans (by decide) h.1, le_trans h.2 (by decide)⟩
  · exact ⟨le_trans (by decide) h.1, le_trans h.2 (by decide)⟩
  · exact ⟨le_trans (by decide) h.1, le_trans h.2 (by decide)⟩
  · decide

/-- The characters of extensions may stand in names, and are no white space. -/
theorem isPlain_of_isExtensionCharacter {c : Char}
    (h : MediaType.isExtensionCharacter c = true) : IsPlain c ∧ Text.isBlank c = false := by
  obtain ⟨low, high⟩ := toNat_of_isExtensionCharacter h
  refine ⟨⟨ne_of_class h (by decide), ne_of_class h (by decide),
    isReserved_eq_false_iff.2 ⟨?_, ?_⟩⟩, ?_⟩
  · simp only [List.mem_cons, List.not_mem_nil, or_false, not_or]
    exact ⟨ne_of_class h (by decide), ne_of_class h (by decide), ne_of_class h (by decide),
      ne_of_class h (by decide), ne_of_class h (by decide), ne_of_class h (by decide),
      ne_of_class h (by decide)⟩
  · simp only [Text.isControl, Bool.or_eq_false_iff, Bool.and_eq_false_iff, decide_eq_false_iff_not]
    omega
  · simp only [Text.isBlank, Bool.or_eq_false_iff, Bool.and_eq_false_iff, decide_eq_false_iff_not,
      beq_eq_false_iff_ne]
    omega

/-- The extension for a header comes from the table. -/
theorem exists_entry_of_extension? {header extension : String}
    (h : MediaType.extension? header = some extension) :
    ∃ e : MediaType.Entry, e.extension = extension := by
  simp only [MediaType.extension?, MediaType.lookup?, Option.bind_eq_bind,
    Option.bind_eq_some_iff, Option.map_eq_some_iff] at h
  obtain ⟨parts, -, e, -, rfl⟩ := h
  exact ⟨e, rfl⟩

/-- The general name of a kind of content is safe. -/
theorem isSafe_ofContentType (header : Option String) : IsSafe (ofContentType header) := by
  have hstem : IsSafe fallbackStem := isSafe_of_sanitize (show sanitize "index" = _ by decide)
  unfold ofContentType
  split
  · next extension h =>
    obtain ⟨e, rfl⟩ : ∃ e : MediaType.Entry, e.extension = extension := by
      obtain ⟨value, -, hvalue⟩ := Option.bind_eq_some_iff.1 h
      exact exists_entry_of_extension? hvalue
    have hchars : ∀ c ∈ e.extension.toList, MediaType.isExtensionCharacter c = true :=
      List.all_eq_true.1 e.plain
    have hsafe :
        IsSafe (String.ofList (fallbackStem.toList ++ ('.' :: e.extension.toList) ++ [])) := by
      refine isSafe_insert (by simpa using hstem) (by decide) (fun c hc => ?_) ?_
      · rcases List.mem_cons.1 hc with rfl | hc
        · exact ⟨by decide, by decide⟩
        · exact isPlain_of_isExtensionCharacter (hchars c hc)
      · obtain ⟨c, hc⟩ := List.exists_mem_of_ne_nil _ e.nonempty
        exact ⟨c, List.mem_cons_of_mem _ hc, ne_of_class (hchars c hc) (by decide)⟩
    have hname : fallbackStem ++ "." ++ e.extension =
        String.ofList (fallbackStem.toList ++ ('.' :: e.extension.toList) ++ []) := by
      rw [← String.toList_inj]
      simp
    rwa [hname]
  · exact hstem

/-- The name for an answer is safe, wherever it comes from. -/
theorem isSafe_candidate (u : Url) (disposition contentType : Option String) :
    IsSafe (candidate u disposition contentType) := by
  unfold candidate
  cases hgiven : (disposition.bind ofDisposition).bind sanitize with
  | some name =>
    obtain ⟨text, -, htext⟩ := Option.bind_eq_some_iff.1 hgiven
    exact isSafe_of_sanitize htext
  | none =>
    rw [Option.getD_none]
    cases hurl : ofUrl u with
    | some name =>
      simp only [ofUrl, Option.bind_eq_bind, Option.bind_eq_some_iff] at hurl
      obtain ⟨segment, -, hsegment⟩ := hurl
      split at hsegment
      · cases hsegment
      · exact isSafe_of_sanitize hsegment
    | none => exact isSafe_ofContentType contentType

/-! ## Numbered names -/

/-- The digits of a number may stand in names, and are no white space. -/
theorem isPlain_of_mem_digits {n : Nat} {c : Char} (h : c ∈ Decimal.digits n) :
    IsPlain c ∧ Text.isBlank c = false := by
  have hdigit : ∀ d, d < 10 →
      IsPlain (Decimal.digitChar d) ∧ Text.isBlank (Decimal.digitChar d) = false := by
    decide
  induction n using Decimal.digits.induct with
  | case1 n small =>
    rw [Decimal.digits, if_pos small, List.mem_singleton] at h
    rw [h]
    exact hdigit n small
  | case2 n large ih =>
    rw [Decimal.digits, if_neg large, List.mem_append, List.mem_singleton] at h
    rcases h with h | rfl
    · exact ih h
    · exact hdigit (n % 10) (Nat.mod_lt n (by decide))

/-- The stem of a name and what follows it: the last dot with the extension behind it, if there is
something on both sides of that dot, else nothing. -/
inductive Splits : List Char → List Char → List Char → Prop
  | extended {stem extension : List Char} (front : stem ≠ []) (back : extension ≠ [])
      (last : '.' ∉ extension) : Splits (stem ++ '.' :: extension) stem ('.' :: extension)
  | bare {name : List Char}
      (unsplit : ∀ stem extension, name = stem ++ '.' :: extension → '.' ∉ extension →
        stem = [] ∨ extension = []) : Splits name name []

theorem Splits.eq_append {name stem rest : List Char} (h : Splits name stem rest) :
    name = stem ++ rest := by
  cases h with
  | extended => rfl
  | bare => exact (List.append_nil _).symm

theorem Splits.stem_ne_nil {name stem rest : List Char} (h : Splits name stem rest)
    (nonempty : name ≠ []) : stem ≠ [] := by
  cases h with
  | extended front => exact front
  | bare => exact nonempty

/-- Every number is put in behind the stem of a name. -/
theorem exists_splits (name : String) : ∃ stem rest, Splits name.toList stem rest ∧
    ∀ n, (numbered name n).toList = stem ++ '_' :: Decimal.digits n ++ rest := by
  unfold numbered splitExtension
  cases hcut : Text.cutLast? '.' name.toList with
  | none =>
    refine ⟨name.toList, [], .bare fun stem extension hname last => ?_, ?_⟩
    · rw [hname, Text.cutLast?_append_cons last] at hcut
      cases hcut
    · simp [Decimal.ofNat]
  | some pieces =>
    obtain ⟨stem, extension⟩ := pieces
    obtain ⟨hname, last⟩ := Text.eq_of_cutLast? hcut
    by_cases hpieces : stem.isEmpty || extension.isEmpty
    · refine ⟨name.toList, [], .bare fun stem' extension' hname' last' => ?_, ?_⟩
      · rw [hname', Text.cutLast?_append_cons last'] at hcut
        obtain ⟨rfl, rfl⟩ := by simpa using hcut
        simpa using hpieces
      · simp [hpieces, Decimal.ofNat]
    · refine ⟨stem, '.' :: extension, ?_, by simp [hpieces, Decimal.ofNat]⟩
      rw [hname]
      rw [Bool.or_eq_true, not_or, List.isEmpty_iff, List.isEmpty_iff] at hpieces
      exact .extended hpieces.1 hpieces.2 last

/-- A name with a number in it is safe. -/
theorem isSafe_numbered {name : String} (h : IsSafe name) (n : Nat) :
    IsSafe (numbered name n) := by
  obtain ⟨stem, rest, hsplit, hnumbered⟩ := exists_splits name
  have hsafe : IsSafe (String.ofList (stem ++ '_' :: Decimal.digits n ++ rest)) := by
    refine isSafe_insert ?_ (hsplit.stem_ne_nil (isSafe_iff.1 h).2.2.1) (fun c hc => ?_)
      ⟨'_', by simp⟩
    · rwa [← hsplit.eq_append, String.ofList_toList]
    · rcases List.mem_cons.1 hc with rfl | hc
      · exact ⟨by decide, by decide⟩
      · exact isPlain_of_mem_digits hc
  rwa [← hnumbered, String.ofList_toList] at hsafe

theorem isSafe_variant {name : String} (h : IsSafe name) (tried : Nat) :
    IsSafe (Directory.variant name tried) := by
  unfold Directory.variant
  split
  · exact h
  · exact isSafe_numbered h tried

/-- The names that are tried are safe. -/
theorem isSafe_of_mem_variants {name tried : String} (h : IsSafe name)
    (hmem : tried ∈ Directory.variants name) : IsSafe tried := by
  rw [Directory.variants, List.mem_map] at hmem
  obtain ⟨n, -, rfl⟩ := hmem
  exact isSafe_variant h n

/-- The name that is found free is safe. -/
theorem isSafe_of_freeName? {d : Directory} {t : Tree} {u : Url}
    {disposition contentType : Option String} {name : String}
    (h : d.freeName? t u disposition contentType = some name) : IsSafe name := by
  rw [Directory.freeName?] at h
  exact isSafe_of_mem_variants (isSafe_candidate u disposition contentType)
    (List.mem_of_find?_eq_some h)

/-! ## Paths -/

/-- A safe name is one part of a path and leads down. -/
theorem IsSafe.isName {name : String} (h : IsSafe name) : (RawText.ofText name).IsName := by
  obtain ⟨-, -, nonempty, here, up⟩ := isSafe_iff.1 h
  exact RawText.isName_ofText h.separators.1 nonempty here up

/-- A safe name comes behind the parts of the directory's path. -/
theorem way_pathOf (d : Directory) {name : String} (h : IsSafe name) :
    (d.pathOf name).way = ⟨d.path.parts ++ [.name name], false⟩ :=
  RawText.way_join h.isName

end Reachability.File
