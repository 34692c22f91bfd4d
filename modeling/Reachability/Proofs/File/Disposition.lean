/-
# Names in headers

A `Content-Disposition` header is cut at its semicolons, and each parameter at its first equals
sign, before quotes are looked at.  The extended form of a name stands nothing of this in the way:
all but a few characters are written with percent signs.  The plain form does not protect its
semicolons: a quoted name that has one is cut there.

Main definitions:

* `keyOf?` : the key of a parameter, in small letters;
* `Extended` : the parameters that give a name in the extended form;
* `isQuotable` : the characters that stand for themselves between quotes.

Main results:

* `ofDisposition_extended` : **the extended form is read back**, and comes first;
* `ofDisposition_quoted_iff` : a quoted name is read back exactly if it has no semicolon;
* `ofDisposition_cuts_quoted` : a name that is not.
-/
import Reachability.File.Name
import Reachability.Proofs.Text.Cutting
import Reachability.Proofs.Text.Percent

namespace Reachability.File

open Text (fields cutFirst? strip isBlank)

/-! ## Parameters -/

/-- The key of a parameter, in small letters. -/
def keyOf? (parameter : List Char) : Option (List Char) :=
  (cutFirst? '=' parameter).map fun pieces => (strip pieces.1).map Char.toLower

namespace Given

variable {g : Given} {p key value : List Char}

/-- What a parameter of the extended form gives takes the place of what was given before. -/
theorem read_of_extended (cut : cutFirst? '=' p = some (key, value))
    (isKey : (strip key).map Char.toLower = "filename*".toList) :
    g.read p = { g with
      extended := Percent.decodeText? (unquoted (behindLanguage (strip value))) } := by
  rw [read, cut]
  exact if_pos isKey

theorem read_of_plain (cut : cutFirst? '=' p = some (key, value))
    (isKey : (strip key).map Char.toLower = "filename".toList) :
    g.read p = { g with plain := some (unquoted (strip value)) } := by
  have other : (strip key).map Char.toLower ≠ "filename*".toList := by
    rw [isKey]
    decide
  rw [read, cut]
  exact (if_neg other).trans (if_pos isKey)

/-- Other parameters give nothing. -/
theorem read_of_other (noName : keyOf? p ≠ some "filename".toList)
    (noExtended : keyOf? p ≠ some "filename*".toList) : g.read p = g := by
  rw [read]
  cases cut : cutFirst? '=' p with
  | none => rfl
  | some pieces =>
    rw [keyOf?, cut] at noName noExtended
    exact (if_neg fun same => noExtended (congrArg some same)).trans
      (if_neg fun same => noName (congrArg some same))

/-- A parameter with a key is cut there. -/
theorem exists_cut_of_keyOf? {name : List Char} (h : keyOf? p = some name) :
    ∃ key value, cutFirst? '=' p = some (key, value) ∧ (strip key).map Char.toLower = name := by
  obtain ⟨⟨key, value⟩, cut, isKey⟩ := Option.map_eq_some_iff.1 h
  exact ⟨key, value, cut, isKey⟩

/-- Only parameters of the extended form change what is given in it. -/
theorem extended_read (noExtended : keyOf? p ≠ some "filename*".toList) :
    (g.read p).extended = g.extended := by
  by_cases name : keyOf? p = some "filename".toList
  · obtain ⟨key, value, cut, isKey⟩ := exists_cut_of_keyOf? name
    rw [read_of_plain cut isKey]
  · rw [read_of_other name noExtended]

theorem extended_foldl {ps : List (List Char)}
    (noExtended : ∀ p ∈ ps, keyOf? p ≠ some "filename*".toList) :
    (ps.foldl read g).extended = g.extended := by
  induction ps generalizing g with
  | nil => rfl
  | cons p ps ih =>
    rw [List.forall_mem_cons] at noExtended
    rw [List.foldl_cons, ih noExtended.2, extended_read noExtended.1]

end Given

/-- What a header gives in its two forms. -/
def given (header : String) : Given := (fields ';' header.toList).foldl Given.read {}

/-- The extended form comes first, and a blank name is none. -/
theorem ofDisposition_eq_some_iff {header name : String} : ofDisposition header = some name ↔
    (given header).extended.or (given header).plain = some name.toList ∧
      Text.isBlankText name = false := by
  rw [ofDisposition, ← given, Option.map_eq_some_iff]
  simp only [Option.filter_eq_some_iff, Bool.not_eq_true', Text.isBlankText]
  constructor
  · rintro ⟨cs, ⟨chosen, visible⟩, rfl⟩
    rw [String.toList_ofList]
    exact ⟨chosen, visible⟩
  · rintro ⟨chosen, visible⟩
    exact ⟨name.toList, ⟨chosen, visible⟩, String.ofList_toList⟩

/-! ## Quotes -/

/-- Where nothing inside is to be stripped, what stands around it is. -/
theorem stripWhere_append {p : Char → Bool} {front cs back : List Char}
    (before : ∀ c ∈ front, p c = true) (inside : ∀ c ∈ cs, p c = false)
    (behind : ∀ c ∈ back, p c = true) : Text.stripWhere p (front ++ (cs ++ back)) = cs := by
  rw [Text.stripWhere, List.dropWhile_append_of_pos before]
  cases cs with
  | nil =>
    rw [List.nil_append, List.dropWhile_eq_nil_iff.2 behind]
    rfl
  | cons c cs =>
    have start : (c :: cs ++ back).dropWhile p = c :: cs ++ back :=
      List.dropWhile_cons_of_neg (by simp [inside c List.mem_cons_self])
    have ends : (c :: cs).reverse.dropWhile p = (c :: cs).reverse := by
      refine Text.dropWhile_eq_self fun d last => ?_
      rw [List.head?_reverse] at last
      exact inside d (List.mem_of_getLast? last)
    rw [start, List.reverse_append, List.dropWhile_append_of_pos (by simpa using behind), ends,
      List.reverse_reverse]

theorem not_isQuote {cs : List Char} (h : '"' ∉ cs) : ∀ c ∈ cs, (c == '"') = false :=
  fun _ there => beq_eq_false_iff_ne.2 fun same => h (same ▸ there)

theorem unquoted_eq_self {cs : List Char} (h : '"' ∉ cs) : unquoted cs = cs := by
  have none : ∀ c ∈ ([] : List Char), (c == '"') = true := by simp
  have kept := stripWhere_append none (not_isQuote h) none
  rwa [List.nil_append, List.append_nil] at kept

theorem unquoted_quoted {cs : List Char} (h : '"' ∉ cs) : unquoted ('"' :: (cs ++ ['"'])) = cs := by
  have quote : ∀ c ∈ ['"'], (c == '"') = true := List.forall_mem_singleton.2 rfl
  exact stripWhere_append quote (not_isQuote h) quote

/-! ## The extended form -/

/-- A parameter that gives a name in the extended form: the name in UTF-8, of any language, with
percent signs.  Blanks may stand around the key, whose letters may be of either case, and around the
value. -/
structure Extended (name : List Char) where
  key : List Char
  value : List Char
  language : List Char
  encoded : List Char
  isKey : (strip key).map Char.toLower = "filename*".toList
  isValue : strip value = "UTF-8'".toList ++ (language ++ '\'' :: encoded)
  free : '\'' ∉ language ∧ ';' ∉ language
  writes : Percent.Writes encoded (Utf8.encode name)

namespace Extended

variable {name : List Char} (e : Extended name)

/-- The parameter. -/
def text : List Char := e.key ++ '=' :: e.value

/-- The encoded name has none of the characters that a header is cut at. -/
theorem not_mem_encoded {c : Char} (reserved : Percent.isUnreserved c = false) (noSign : c ≠ '%') :
    c ∉ e.encoded := by
  intro there
  rcases e.writes.mem there with unreserved | sign
  · rw [reserved] at unreserved
    cases unreserved
  · exact noSign sign

/-- A key stays what it is when its letters are made small. -/
theorem not_mem_key {c : Char} (visible : isBlank c = false)
    (absent : c.toLower ∉ "filename*".toList) : c ∉ e.key := by
  intro there
  have inside := Text.mem_strip_of_mem there visible
  have := List.mem_map_of_mem (f := Char.toLower) inside
  rw [e.isKey] at this
  exact absent this

theorem semicolon_not_mem_text : ';' ∉ e.text := by
  have key : ';' ∉ e.key := e.not_mem_key (by decide) (by decide)
  have encoded : ';' ∉ e.encoded := e.not_mem_encoded (by decide) (by decide)
  have value : ';' ∉ e.value := by
    intro there
    have inside := Text.mem_strip_of_mem there (by decide)
    rw [e.isValue] at inside
    simp only [List.mem_append, List.mem_cons] at inside
    rcases inside with charset | language | quote | there
    · exact absurd charset (by decide)
    · exact e.free.2 language
    · exact absurd quote (by decide)
    · exact encoded there
  simp [text, key, value]

/-- The parameter gives the name. -/
theorem extended_read (g : Given) : (g.read e.text).extended = some name := by
  have equals : '=' ∉ e.key := e.not_mem_key (by decide) (by decide)
  have charset : '\'' ∉ "UTF-8".toList := by decide
  have behind : behindLanguage (strip e.value) = e.encoded := by
    have first := Text.cutFirst?_append_cons charset (e.language ++ '\'' :: e.encoded)
    have second := Text.cutFirst?_append_cons e.free.1 e.encoded
    rw [behindLanguage, e.isValue]
    -- the charset holds no quote, so the first one found ends it, and the second the language
    change ((cutFirst? '\'' ("UTF-8".toList ++ '\'' :: (e.language ++ '\'' :: e.encoded))).bind
      fun pieces => cutFirst? '\'' pieces.2).elim _ Prod.snd = _
    rw [first, Option.bind_some, second]
    rfl
  have quote : '"' ∉ e.encoded := e.not_mem_encoded (by decide) (by decide)
  rw [text, Given.read_of_extended (Text.cutFirst?_append_cons equals e.value) e.isKey, behind,
    unquoted_eq_self quote]
  exact Percent.decodeText?_of_writes e.writes

end Extended

/-- **The extended form is read back.**  A name that is given in the extended form is the name that
the header gives, whatever other parameters stand before and behind it. -/
theorem ofDisposition_extended {name : String} (visible : Text.isBlankText name = false)
    (e : Extended name.toList) {before after : List (List Char)}
    (others : ∀ p ∈ before ++ after, ';' ∉ p ∧ keyOf? p ≠ some "filename*".toList) :
    ofDisposition (String.ofList ([';'].intercalate (before ++ e.text :: after))) = some name := by
  rw [List.forall_mem_append] at others
  have cut : fields ';' ([';'].intercalate (before ++ e.text :: after)) =
      before ++ e.text :: after := by
    refine Text.fields_intercalate (by simp) ?_
    rw [List.forall_mem_append, List.forall_mem_cons]
    exact ⟨fun p there => (others.1 p there).1, e.semicolon_not_mem_text,
      fun p there => (others.2 p there).1⟩
  refine ofDisposition_eq_some_iff.2 ⟨?_, visible⟩
  rw [given, String.toList_ofList, cut, List.foldl_append, List.foldl_cons,
    Given.extended_foldl fun p there => (others.2 p there).2, e.extended_read, Option.some_or]

/-- The name with a letter beyond ASCII and a blank, between a plain name and another parameter. -/
theorem ofDisposition_extended_amid_others :
    Text.isBlankText "naïve file.txt" = false ∧
    (∀ p ∈ ["attachment".toList, " filename=plain.txt".toList, " size=3".toList],
      ';' ∉ p ∧ keyOf? p ≠ some "filename*".toList) ∧
    ofDisposition
        "attachment; filename=plain.txt; FileName*=UTF-8'en'na%C3%AFve%20file.txt; size=3" =
      some "naïve file.txt" := by
  have visible : Text.isBlankText "naïve file.txt" = false := by decide
  have others : ∀ p ∈ ["attachment".toList, " filename=plain.txt".toList, " size=3".toList],
      ';' ∉ p ∧ keyOf? p ≠ some "filename*".toList := by decide
  let e : Extended "naïve file.txt".toList :=
    { key := " FileName*".toList
      value := "UTF-8'en'na%C3%AFve%20file.txt".toList
      language := "en".toList
      encoded := "na%C3%AFve%20file.txt".toList
      isKey := by decide
      isValue := by decide
      free := by decide
      writes := Percent.writes_encodeWhere "naïve file.txt".toList }
  exact ⟨visible, others, @ofDisposition_extended _ visible e
    ["attachment".toList, " filename=plain.txt".toList] [" size=3".toList] others⟩

/-! ## The plain form -/

/-- The characters that stand for themselves between quotes: the printable ones of ASCII, without
the quote and the backslash. -/
def isQuotable (c : Char) : Bool :=
  0x20 ≤ c.toNat && c.toNat < 0x7f && c != '"' && c != '\\'

theorem isInfix_behindLanguage (cs : List Char) : behindLanguage cs <:+: cs := by
  rw [behindLanguage]
  cases cut : (cutFirst? '\'' cs).bind (cutFirst? '\'' ·.2) with
  | none => exact List.infix_refl cs
  | some pieces =>
    obtain ⟨⟨charset, rest⟩, first, second⟩ := Option.bind_eq_some_iff.1 cut
    have tail : rest = pieces.1 ++ '\'' :: pieces.2 := (Text.eq_of_cutFirst? second).1
    rw [(Text.eq_of_cutFirst? first).1, tail]
    exact ⟨charset ++ '\'' :: (pieces.1 ++ ['\'']), [], by simp⟩

/-- What parameters of a certain length may give: a plain name without semicolons, an extended one
that is shorter. -/
structure Given.IsWithin (g : Given) (bound : Nat) : Prop where
  plain : ∀ text, g.plain = some text → ';' ∉ text
  extended : ∀ text, g.extended = some text → text.length < bound

/-- The key of the extended form and the equals sign take ten characters. -/
theorem Given.IsWithin.read {g : Given} {bound : Nat} (h : g.IsWithin bound) {p : List Char}
    (ascii : ∀ c ∈ p, c.toNat < 0x80) (free : ';' ∉ p)
    (short : keyOf? p = some "filename*".toList → p.length < bound + 10) :
    (g.read p).IsWithin bound := by
  by_cases extended : keyOf? p = some "filename*".toList
  · obtain ⟨key, value, cut, isKey⟩ := exists_cut_of_keyOf? extended
    obtain ⟨parts, -⟩ := Text.eq_of_cutFirst? cut
    rw [read_of_extended cut isKey]
    refine ⟨h.plain, fun text given => ?_⟩
    have inside : unquoted (behindLanguage (strip value)) <:+: value :=
      (Text.isInfix_stripWhere _ _).trans
        ((isInfix_behindLanguage _).trans (Text.isInfix_strip value))
    have ofValue : value ⊆ p := fun c there => by simp [parts, there]
    have decoded := Percent.length_le_of_decodeText?
      (fun c there => ascii c (ofValue (inside.subset there))) given
    -- what the key and the equals sign take is missing from the value
    have nine : (strip key).length = 9 := by
      have stripped := congrArg List.length isKey
      rwa [List.length_map] at stripped
    have all := congrArg List.length parts
    rw [List.length_append, List.length_cons] at all
    have := (Text.isInfix_strip key).length_le
    have := inside.length_le
    have := short extended
    omega
  · by_cases name : keyOf? p = some "filename".toList
    · obtain ⟨key, value, cut, isKey⟩ := exists_cut_of_keyOf? name
      obtain ⟨parts, -⟩ := Text.eq_of_cutFirst? cut
      rw [read_of_plain cut isKey]
      refine ⟨fun text given there => free ?_, h.extended⟩
      have inside : unquoted (strip value) <:+: value :=
        (Text.isInfix_stripWhere _ _).trans (Text.isInfix_strip value)
      obtain rfl := Option.some.inj given
      simp [parts, inside.subset there]
    · rw [read_of_other name extended]
      exact h

theorem Given.IsWithin.foldl {g : Given} {bound : Nat} (h : g.IsWithin bound)
    {ps : List (List Char)} (fit : ∀ p ∈ ps, (∀ c ∈ p, c.toNat < 0x80) ∧ ';' ∉ p ∧
      (keyOf? p = some "filename*".toList → p.length < bound + 10)) :
    (ps.foldl Given.read g).IsWithin bound := by
  induction ps generalizing g with
  | nil => exact h
  | cons p ps ih =>
    rw [List.forall_mem_cons] at fit
    obtain ⟨⟨ascii, free, short⟩, later⟩ := fit
    exact ih (h.read ascii free short) later

/-- The parameter that a quoted name begins with. -/
theorem cutFirst?_quoted (text : List Char) :
    cutFirst? '=' (" filename=\"".toList ++ text) = some (" filename".toList, '"' :: text) := by
  have equals : '=' ∉ " filename".toList := by decide
  exact Text.cutFirst?_append_cons equals ('"' :: text)

/-- A quoted name without semicolons is read back. -/
theorem read_quoted {g : Given} {text : List Char} (noQuote : '"' ∉ text) :
    g.read (" filename=\"".toList ++ (text ++ ['"'])) = { g with plain := some text } := by
  have trim : Text.IsTrim ('"' :: (text ++ ['"'])) := by
    constructor
    · rintro c ⟨⟩
      decide
    · intro c last
      rw [← List.cons_append, List.getLast?_append_cons] at last
      obtain rfl := Option.some.inj last
      decide
  rw [Given.read_of_plain (cutFirst?_quoted _) (by decide), Text.strip_eq_self trim,
    unquoted_quoted noQuote]

/-- Behind the kind of the disposition, which is no parameter, the quoted name is read. -/
theorem given_quoted (name : String) :
    given ("attachment; filename=\"" ++ name ++ "\"") =
      (fields ';' (" filename=\"".toList ++ (name.toList ++ ['"']))).foldl Given.read {} := by
  have header : ("attachment; filename=\"" ++ name ++ "\"").toList =
      "attachment".toList ++ ';' :: (" filename=\"".toList ++ (name.toList ++ ['"'])) := by
    simp [String.toList_append]
  have first : Given.read {} "attachment".toList = {} := rfl
  rw [given, header, Text.fields_append, Text.fields_eq_singleton (by decide),
    List.singleton_append, List.foldl_cons, first]

/-- A name with a semicolon is cut there: what stands in front of it is no name of the extended
form, and what stands behind it is too short for one of the same length. -/
theorem isWithin_given_quoted {name : String} (ascii : ∀ c ∈ name.toList, c.toNat < 0x80)
    (there : ';' ∈ name.toList) :
    (given ("attachment; filename=\"" ++ name ++ "\"")).IsWithin name.toList.length := by
  obtain ⟨front, rest, parts, free⟩ := List.eq_append_cons_of_mem there
  have single : ';' ∉ " filename=\"".toList ++ front := by
    rw [List.mem_append, not_or]
    exact ⟨by decide, free⟩
  have cut : fields ';' (" filename=\"".toList ++ (name.toList ++ ['"'])) =
      (" filename=\"".toList ++ front) :: fields ';' (rest ++ ['"']) := by
    rw [parts, List.append_assoc, ← List.append_assoc, List.cons_append, Text.fields_append,
      Text.fields_eq_singleton single, List.singleton_append]
  have start : Given.IsWithin {} name.toList.length :=
    ⟨fun _ nothing => (by cases nothing), fun _ nothing => (by cases nothing)⟩
  rw [given_quoted, cut]
  rw [parts, List.forall_mem_append, List.forall_mem_cons] at ascii
  -- the first field has the plain key; the others are parts of what stands behind the semicolon
  refine start.foldl (List.forall_mem_cons.2 ⟨⟨?_, single, fun extended => ?_⟩, fun p field => ?_⟩)
  · rw [List.forall_mem_append]
    have low : " filename=\"".toList.all (·.toNat < 0x80) = true := by decide
    exact ⟨fun c there => of_decide_eq_true (List.all_eq_true.1 low c there), ascii.1⟩
  · rw [keyOf?, cutFirst?_quoted] at extended
    have other : (strip " filename".toList).map Char.toLower ≠ "filename*".toList := by decide
    exact absurd (Option.some.inj extended) other
  · obtain ⟨inside, noSemicolon⟩ := Text.infix_of_mem_fields field
    refine ⟨fun c mem => ?_, noSemicolon, fun _ => ?_⟩
    · rcases List.mem_append.1 (inside.subset mem) with mem | mem
      · exact ascii.2.2 c mem
      · rw [List.mem_singleton.1 mem]
        decide
    · have short := inside.length_le
      rw [parts]
      simp only [List.length_append, List.length_cons, List.length_nil] at short ⊢
      omega

/-- **Quoted names are cut at their semicolons.**  A name of printable ASCII, without quotes and
backslashes, that is given between quotes is the name that the header gives exactly if it has no
semicolon. -/
theorem ofDisposition_quoted_iff {name : String}
    (printable : ∀ c ∈ name.toList, isQuotable c = true) (visible : Text.isBlankText name = false) :
    ofDisposition ("attachment; filename=\"" ++ name ++ "\"") = some name ↔
      ';' ∉ name.toList := by
  have range : ∀ c ∈ name.toList, c.toNat < 0x80 ∧ c ≠ '"' := by
    intro c there
    have quotable := printable c there
    simp only [isQuotable, Bool.and_eq_true, decide_eq_true_eq, bne_iff_ne] at quotable
    exact ⟨by omega, quotable.1.2⟩
  rw [ofDisposition_eq_some_iff]
  constructor
  · rintro ⟨read, -⟩ there
    have within := isWithin_given_quoted (fun c mem => (range c mem).1) there
    rcases Option.or_eq_some_iff.1 read with extended | ⟨-, plain⟩
    · exact Nat.lt_irrefl _ (within.extended _ extended)
    · exact within.plain _ plain there
  · intro free
    have noQuote : '"' ∉ name.toList := fun there => (range _ there).2 rfl
    have single : ';' ∉ " filename=\"".toList ++ (name.toList ++ ['"']) := by
      simp only [List.mem_append, not_or]
      exact ⟨by decide, free, by decide⟩
    rw [given_quoted, Text.fields_eq_singleton single, List.foldl_cons, List.foldl_nil,
      read_quoted noQuote]
    exact ⟨rfl, visible⟩

/-- All other characters that a header is cut at are kept. -/
theorem ofDisposition_quoted_signs :
    (∀ c ∈ " a='b'%20,c ".toList, isQuotable c = true) ∧ Text.isBlankText " a='b'%20,c " = false ∧
      ofDisposition "attachment; filename=\" a='b'%20,c \"" = some " a='b'%20,c " := by
  have printable := List.all_eq_true.1 (by decide : " a='b'%20,c ".toList.all isQuotable = true)
  have visible : Text.isBlankText " a='b'%20,c " = false := by decide
  have free : ';' ∉ " a='b'%20,c ".toList := by decide
  exact ⟨printable, visible, (ofDisposition_quoted_iff printable visible).2 free⟩

/-- Of a name with a semicolon only what stands in front of it is read. -/
theorem ofDisposition_cuts_quoted :
    (∀ c ∈ "a;b.txt".toList, isQuotable c = true) ∧ Text.isBlankText "a;b.txt" = false ∧
      ofDisposition "attachment; filename=\"a;b.txt\"" = some "a" := by
  have printable := List.all_eq_true.1 (by decide : "a;b.txt".toList.all isQuotable = true)
  exact ⟨printable, by decide +kernel⟩

end Reachability.File
