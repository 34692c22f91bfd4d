/-
# Command lines as templates

The arguments of the ping command are templates: what they hold places for is put in by three
replacements, one after another.  Here a template is cut into its pieces before anything is put in,
and the replacements are shown to do what is done if all places are filled at once.  The number of
packets and the timeout are numerals, in which no placeholder can begin or go on; the address may be
anything, but nothing is replaced after it.

Main definitions:

* `Placeholder`, `Piece`, `pieces` : the pieces of a template;
* `substitute` : a template with all its places filled at once;
* `IsPartial` : places some of which are filled with numerals;
* `IsWholeSeconds` : a timeout in whole seconds;
* `IsLiteralV6` : an address that is connected to as an address of version 6.

Main results:

* `pieces_append_text_append` : every placeholder is a piece;
* `replaceAll_substitute` : one replacement fills one place more;
* `toList_renderArgument` : the three replacements together;
* `command_of_template` : the command line for an address.
-/
import Mathlib.Logic.Function.Basic
import Reachability.Connect.Probe
import Reachability.Ping.Command
import Reachability.Proofs.Config.Rules
import Reachability.Proofs.Net.Address
import Reachability.Proofs.Ping.Strictness

namespace Reachability.Ping

/-! ## Placeholders -/

/-- What a template holds places for. -/
inductive Placeholder
  | count
  | timeout
  | address
deriving DecidableEq, Repr

namespace Placeholder

/-- The text that holds a place. -/
def text : Placeholder → List Char
  | count => countPlaceholder.toList
  | timeout => timeoutPlaceholder.toList
  | address => addressPlaceholder.toList

/-- The text behind the opening brace. -/
def word (p : Placeholder) : List Char := p.text.tail

theorem text_eq (p : Placeholder) : p.text = '\x7b' :: p.word := by
  cases p <;> decide

theorem text_ne_nil (p : Placeholder) : p.text ≠ [] := by
  rw [text_eq]
  exact List.cons_ne_nil _ _

theorem length_text (p : Placeholder) : p.text.length = p.word.length + 1 := by
  rw [text_eq, List.length_cons]

/-- No placeholder begins within another. -/
theorem brace_not_mem_word (p : Placeholder) : '\x7b' ∉ p.word := by
  cases p <;> decide

theorem not_digit_of_mem_text {p : Placeholder} {c : Char} (h : c ∈ p.text) :
    ¬('0' ≤ c ∧ c ≤ '9') := by
  have letters : (p.text.all fun c => !Text.isDigit c) = true := by
    cases p <;> rfl
  intro digit
  have letter := List.all_eq_true.1 letters c h
  rw [isDigit_iff.2 digit] at letter
  cases letter

/-- At most one placeholder stands at the start of a text. -/
theorem eq_of_starts {p q : Placeholder} {cs : List Char} (hp : p.text <+: cs)
    (hq : q.text <+: cs) : p = q := by
  have same : ∀ p q : Placeholder, p.text <+: q.text → p = q := by
    intro p q
    cases p <;> cases q <;> decide
  rcases List.prefix_or_prefix_of_prefix hp hq with h | h
  · exact same p q h
  · exact (same q p h).symm

/-- All placeholders. -/
def all : List Placeholder := [count, timeout, address]

/-- The placeholder at the start of a text. -/
def at? (cs : List Char) : Option Placeholder :=
  all.find? fun p => (Text.after? p.text cs).isSome

theorem at?_eq_none_iff {cs : List Char} : at? cs = none ↔ ∀ p : Placeholder, ¬p.text <+: cs := by
  have listed (p : Placeholder) : p ∈ all := by
    cases p <;> decide
  rw [at?, List.find?_eq_none]
  simp only [Text.isSome_after?_iff]
  exact ⟨fun h p => h p (listed p), fun h p _ => h p⟩

theorem at?_append (p : Placeholder) (rest : List Char) : at? (p.text ++ rest) = some p := by
  have stands := List.prefix_append p.text rest
  cases found : at? (p.text ++ rest) with
  | none => exact absurd stands (at?_eq_none_iff.1 found p)
  | some q =>
    have here := List.find?_some found
    rw [eq_of_starts (Text.isSome_after?_iff.1 here) stands]

end Placeholder

/-! ## Pieces of a template -/

/-- A piece of a template: a character that stands for itself, or a place. -/
inductive Piece
  | character (c : Char)
  | place (p : Placeholder)
deriving DecidableEq, Repr

/-- What a piece becomes when places are filled. -/
def Piece.filled (value : Placeholder → List Char) : Piece → List Char
  | character c => [c]
  | place p => value p

/-- The pieces of a template, from left to right. -/
def pieces (cs : List Char) : List Piece :=
  go 0 cs
where
  /-- Reads on, with `skip` characters of the last placeholder still to drop. -/
  go : Nat → List Char → List Piece
    | _, [] => []
    | skip + 1, _ :: cs => go skip cs
    | 0, c :: cs =>
        match Placeholder.at? (c :: cs) with
        | some p => .place p :: go p.word.length cs
        | none => .character c :: go 0 cs

theorem pieces_go (skip : Nat) (cs : List Char) : pieces.go skip cs = pieces (cs.drop skip) := by
  induction cs generalizing skip with
  | nil => cases skip <;> rfl
  | cons c cs ih =>
    cases skip with
    | zero => rfl
    | succ skip =>
      rw [pieces.go, ih]
      rfl

theorem pieces_text_append (p : Placeholder) (rest : List Char) :
    pieces (p.text ++ rest) = .place p :: pieces rest := by
  have found := p.at?_append rest
  rw [p.text_eq, List.cons_append] at found ⊢
  rw [pieces, pieces.go, found]
  dsimp only
  rw [pieces_go, List.drop_left]

theorem pieces_cons {c : Char} {rest : List Char} (h : ∀ p : Placeholder, ¬p.text <+: c :: rest) :
    pieces (c :: rest) = .character c :: pieces rest := by
  rw [pieces, pieces.go, Placeholder.at?_eq_none_iff.2 h]
  rfl

/-- A template is empty, or it begins with a place, or with a character that stands for itself. -/
@[elab_as_elim]
theorem template_induction {motive : List Char → Prop} (nil : motive [])
    (place : ∀ (p : Placeholder) rest, motive rest → motive (p.text ++ rest))
    (character : ∀ c rest, (∀ p : Placeholder, ¬p.text <+: c :: rest) → motive rest →
      motive (c :: rest)) (cs : List Char) : motive cs := by
  induction h : cs.length using Nat.strong_induction_on generalizing cs with
  | _ n ih =>
    cases cs with
    | nil => exact nil
    | cons c rest =>
      by_cases stands : ∃ p : Placeholder, p.text <+: c :: rest
      · obtain ⟨p, after, parts⟩ := stands
        rw [← parts, List.length_append, p.length_text] at h
        rw [← parts]
        exact place p after (ih after.length (by omega) after rfl)
      · rw [List.length_cons] at h
        exact character c rest (not_exists.1 stands) (ih rest.length (by omega) rest rfl)

/-- A placeholder is a piece wherever it stands. -/
theorem pieces_append_text_append (p : Placeholder) (front back : List Char) :
    pieces (front ++ (p.text ++ back)) = pieces front ++ .place p :: pieces back := by
  induction front using template_induction with
  | nil => exact pieces_text_append p back
  | place q rest ih =>
    rw [List.append_assoc, pieces_text_append, pieces_text_append, ih]
    rfl
  | character c rest free ih =>
    have still : ∀ q : Placeholder, ¬q.text <+: c :: (rest ++ (p.text ++ back)) := by
      intro q stands
      rw [← List.cons_append] at stands
      rcases List.prefix_or_prefix_of_prefix stands (List.prefix_append (c :: rest) _) with h | h
      · exact free q h
      · -- the brace of the placeholder behind would stand within the other one
        obtain ⟨behind, parts⟩ := h
        rw [← parts, List.prefix_append_right_inj] at stands
        cases behind with
        | nil =>
          rw [List.append_nil] at parts
          exact free q ⟨[], by rw [List.append_nil, parts]⟩
        | cons b behind =>
          rw [p.text_eq, List.cons_append, List.cons_prefix_cons] at stands
          have inside : b ∈ q.word := by
            rw [Placeholder.word, ← parts]
            exact List.mem_append_right rest List.mem_cons_self
          exact q.brace_not_mem_word (stands.1 ▸ inside)
    rw [List.cons_append, pieces_cons still, pieces_cons free, ih]
    rfl

/-! ## Filling all places at once -/

/-- A template with all its places filled at once. -/
def substitute (value : Placeholder → List Char) (cs : List Char) : List Char :=
  (pieces cs).flatMap (Piece.filled value)

section Substitute

variable {value : Placeholder → List Char}

theorem substitute_text_append (p : Placeholder) (rest : List Char) :
    substitute value (p.text ++ rest) = value p ++ substitute value rest := by
  rw [substitute, pieces_text_append, List.flatMap_cons]
  rfl

theorem substitute_cons {c : Char} {rest : List Char}
    (h : ∀ p : Placeholder, ¬p.text <+: c :: rest) :
    substitute value (c :: rest) = c :: substitute value rest := by
  rw [substitute, pieces_cons h, List.flatMap_cons]
  rfl

/-- As long as each place holds its placeholder nothing has changed. -/
theorem substitute_text (cs : List Char) : substitute Placeholder.text cs = cs := by
  induction cs using template_induction with
  | nil => rfl
  | place p rest ih => rw [substitute_text_append, ih]
  | character c rest free ih => rw [substitute_cons free, ih]

/-- What is put in its place stands there. -/
theorem infix_substitute {p : Placeholder} {cs : List Char} (h : p.text <:+: cs) :
    value p <:+: substitute value cs := by
  obtain ⟨front, back, rfl⟩ := h
  refine ⟨substitute value front, substitute value back, ?_⟩
  rw [List.append_assoc front, substitute, substitute, substitute, pieces_append_text_append,
    List.flatMap_append, List.flatMap_cons, List.append_assoc]
  rfl

/-! ## Filling one place after another -/

/-- Some places are filled with numerals, the others still hold their placeholders. -/
def IsPartial (value : Placeholder → List Char) : Prop :=
  ∀ p, value p = p.text ∨ IsNumeral (value p)

theorem isPartial_text : IsPartial Placeholder.text := fun _ => .inl rfl

theorem IsPartial.update (h : IsPartial value) (p : Placeholder) {numeral : List Char}
    (hn : IsNumeral numeral) : IsPartial (Function.update value p numeral) := by
  intro q
  by_cases same : q = p
  · right
    rw [same, Function.update_self]
    exact hn
  · rw [Function.update_of_ne same]
    exact h q

/-- A place holds nothing with which the rest of a placeholder could begin. -/
theorem IsPartial.exists_eq_cons (h : IsPartial value) (q : Placeholder) :
    ∃ c cs, value q = c :: cs ∧ ∀ p : Placeholder, c ∉ p.word := by
  rcases h q with waiting | ⟨some, digits⟩
  · exact ⟨'\x7b', q.word, waiting.trans q.text_eq, fun p => p.brace_not_mem_word⟩
  · obtain ⟨c, cs, parts⟩ := List.exists_cons_of_ne_nil some
    refine ⟨c, cs, parts, fun p inside => ?_⟩
    have digit := digits c (parts ▸ List.mem_cons_self)
    exact Placeholder.not_digit_of_mem_text (List.mem_of_mem_tail inside) digit

/-- The rest of a placeholder does not come in by filling. -/
theorem prefix_of_prefix_substitute (h : IsPartial value) {p : Placeholder} {start cs : List Char}
    (within : ∀ c ∈ start, c ∈ p.word) (stands : start <+: substitute value cs) :
    start <+: cs := by
  induction start generalizing cs with
  | nil => exact List.nil_prefix
  | cons s start ih =>
    rw [List.forall_mem_cons] at within
    induction cs using template_induction with
    | nil => exact stands
    | place q rest =>
      -- what is put in begins with a character that no placeholder goes on with
      obtain ⟨c, cs, parts, outside⟩ := h.exists_eq_cons q
      rw [substitute_text_append, parts, List.cons_append, List.cons_prefix_cons] at stands
      exact absurd (stands.1 ▸ within.1) (outside p)
    | character c rest free =>
      rw [substitute_cons free, List.cons_prefix_cons] at stands
      exact List.cons_prefix_cons.2 ⟨stands.1, ih within.2 stands.2⟩

/-- What a place holds is not replaced, unless it is the placeholder that is looked for. -/
theorem replaceAll_value_append (h : IsPartial value) {p q : Placeholder} (other : q ≠ p)
    (v rest : List Char) : Text.replaceAll p.text v (value q ++ rest) =
      value q ++ Text.replaceAll p.text v rest := by
  rcases h q with waiting | ⟨-, digits⟩
  · have absent : ¬p.text <+: '\x7b' :: (q.word ++ rest) := by
      intro stands
      rw [← List.cons_append, ← q.text_eq] at stands
      exact other (Placeholder.eq_of_starts (List.prefix_append q.text rest) stands)
    rw [waiting, q.text_eq, List.cons_append, Text.replaceAll_cons absent, p.text_eq,
      Text.replaceAll_append_of_not_mem q.brace_not_mem_word]
    rfl
  · have noBrace : '\x7b' ∉ value q := fun brace => absurd (digits _ brace) (by decide)
    rw [p.text_eq, Text.replaceAll_append_of_not_mem noBrace]

/-- One replacement fills one place more, whatever is put in. -/
theorem replaceAll_substitute (h : IsPartial value) {p : Placeholder} (waiting : value p = p.text)
    (v cs : List Char) : Text.replaceAll p.text v (substitute value cs) =
      substitute (Function.update value p v) cs := by
  induction cs using template_induction with
  | nil => rfl
  | place q rest ih =>
    rw [substitute_text_append, substitute_text_append, ← ih]
    by_cases same : q = p
    · rw [same, Function.update_self, waiting, Text.replaceAll_append p.text_ne_nil]
    · rw [Function.update_of_ne same, replaceAll_value_append h same]
  | character c rest free ih =>
    -- a placeholder that stands there now stood there before
    have absent : ¬p.text <+: c :: substitute value rest := by
      intro stands
      rw [p.text_eq, List.cons_prefix_cons] at stands
      have before := prefix_of_prefix_substitute h (fun _ inside => inside) stands.2
      exact free p (p.text_eq ▸ List.cons_prefix_cons.2 ⟨stands.1, before⟩)
    rw [substitute_cons free, substitute_cons free, Text.replaceAll_cons absent, ih]

end Substitute

/-! ## Arguments -/

/-- The digits of a number are a numeral. -/
theorem isNumeral_digits (n : Nat) : IsNumeral (Decimal.digits n) := by
  have digit : ∀ d, d < 10 → '0' ≤ Decimal.digitChar d ∧ Decimal.digitChar d ≤ '9' := by
    decide
  induction n using Decimal.digits.induct with
  | case1 n small =>
    rw [Decimal.digits, if_pos small]
    exact ⟨List.cons_ne_nil _ _, List.forall_mem_singleton.2 (digit n small)⟩
  | case2 n large ih =>
    rw [Decimal.digits, if_neg large]
    refine ⟨List.append_ne_nil_of_left_ne_nil ih.1 _, ?_⟩
    rw [List.forall_mem_append, List.forall_mem_singleton]
    exact ⟨ih.2, digit (n % 10) (Nat.mod_lt n (by decide))⟩

/-- What is put in the places. -/
def values (packetCount : UInt32) (seconds : Nat) (host : List Char) : Placeholder → List Char
  | .count => Decimal.digits packetCount.toNat
  | .timeout => Decimal.digits seconds
  | .address => host

/-- The three replacements fill all places at once. -/
theorem toList_renderArgument (packetCount : UInt32) (seconds : Nat) (host arg : String) :
    (renderArgument packetCount seconds host arg).toList =
      substitute (values packetCount seconds host.toList) arg.toList := by
  have counted := isPartial_text.update .count (isNumeral_digits packetCount.toNat)
  have timed := counted.update .timeout (isNumeral_digits seconds)
  have filled : Function.update (Function.update (Function.update Placeholder.text .count
      (Decimal.digits packetCount.toNat)) .timeout (Decimal.digits seconds)) .address
      host.toList = values packetCount seconds host.toList := by
    funext p
    cases p <;> rfl
  rw [renderArgument, String.toList_ofList]
  show Text.replaceAll Placeholder.address.text _ (Text.replaceAll Placeholder.timeout.text _
    (Text.replaceAll Placeholder.count.text _ arg.toList)) = _
  -- only the numerals are looked into by a later replacement
  rw [← substitute_text arg.toList, replaceAll_substitute isPartial_text rfl,
    replaceAll_substitute counted rfl, replaceAll_substitute timed rfl, filled, substitute_text]

/-! ## The timeout -/

/-- The least positive number of seconds that is not shorter. -/
structure IsWholeSeconds (timeout : Duration) (seconds : Nat) : Prop where
  pos : 1 ≤ seconds
  enough : timeout.total ≤ seconds * nanosPerSecond
  least : ∀ n, 1 ≤ n → timeout.total ≤ n * nanosPerSecond → seconds ≤ n

theorem exists_timeoutSeconds {timeout : Duration}
    (short : timeout.total < (secondsLimit - 1) * nanosPerSecond) :
    ∃ seconds, timeoutSeconds timeout = .ok seconds ∧ IsWholeSeconds timeout seconds := by
  have small : ¬timeout.ceilSecs ≥ secondsLimit := by
    unfold Duration.ceilSecs secondsLimit UInt64.size nanosPerSecond at *
    omega
  refine ⟨max timeout.ceilSecs 1, if_neg small, ?_, ?_, ?_⟩
  · exact Nat.le_max_right _ _
  · unfold Duration.ceilSecs nanosPerSecond
    omega
  · intro n pos enough
    unfold Duration.ceilSecs nanosPerSecond at *
    omega

/-! ## The program -/

/-- A typed address that is connected to as an address of version 6, whatever names are looked up
to. -/
def IsLiteralV6 (address : String) : Prop :=
  ∃ ip, ∀ lookup port, Connect.resolve lookup address port = .ok ⟨.v6 ip, port⟩

theorem isLiteralV6_iff {address : String} :
    IsLiteralV6 address ↔ (Ipv6.ofText? (bareHost address)).isSome = true := by
  rw [Option.isSome_iff_exists]
  simp only [← IpAddress.ofText?_eq_v6_iff]
  constructor
  · rintro ⟨ip, resolved⟩
    -- a look-up that fails shows that none was needed
    have alone := resolved (fun _ => .error "") 0
    unfold Connect.resolve at alone
    dsimp only at alone
    split at alone
    case isTrue => cases alone
    case isFalse =>
      split at alone
      case h_1 literal read =>
        refine ⟨ip, read.trans ?_⟩
        rw [(Endpoint.mk.inj (Except.ok.inj alone)).1]
      case h_2 => cases alone
  · rintro ⟨ip, read⟩
    have named : (bareHost address).isEmpty = false := by
      by_contra empty
      rw [Bool.not_eq_false, String.isEmpty_iff] at empty
      have nothing : IpAddress.ofText? "" = none := by decide +kernel
      rw [empty, nothing] at read
      cases read
    refine ⟨ip, fun lookup port => ?_⟩
    unfold Connect.resolve
    dsimp only
    rw [named, read]
    rfl

/-! ## The command line -/

/-- **The command line for an address.**  If the timeout can be told in whole seconds there is a
command line.  Its arguments are those of the configuration, with the number of packets, the timeout
and the bare host put in all their places at once; so if the configuration is accepted the host is
in some argument.  The program for IPv6 is run for exactly those addresses that are connected to as
addresses of version 6. -/
theorem command_of_template (c : PingConfig) (address : String)
    (short : c.timeout.total < (secondsLimit - 1) * nanosPerSecond) :
    ∃ host seconds command, Ping.command c address = .ok command ∧
      IsBareOf host address.toList ∧ IsWholeSeconds c.timeout seconds ∧
      command.args.map String.toList = c.args.map (fun arg =>
        substitute (values c.packetCount seconds host) arg.toList) ∧
      (∀ config : Config, config.ping = c → config.validate = .ok () →
        ∃ arg ∈ command.args, host <:+: arg.toList) ∧
      (IsLiteralV6 address → command.program = c.programV6) ∧
      (¬IsLiteralV6 address → command.program = c.program) := by
  obtain ⟨seconds, told, whole⟩ := exists_timeoutSeconds short
  refine ⟨(bareHost address).toList, seconds,
    ⟨programFor c (bareHost address),
      c.args.map (renderArgument c.packetCount seconds (bareHost address))⟩,
    ?_, isBareOf_bareHost address, whole, ?_, ?_, ?_, ?_⟩
  · rw [Ping.command, told]
    rfl
  · rw [List.map_map]
    refine List.map_congr_left fun arg _ => ?_
    exact toList_renderArgument c.packetCount seconds (bareHost address) arg
  · rintro config rfl valid
    obtain ⟨arg, given, place⟩ := (Config.validate_eq_ok_iff.1 valid).address
    refine ⟨_, List.mem_map_of_mem given, ?_⟩
    rw [toList_renderArgument]
    generalize (bareHost address).toList = host
    show values config.ping.packetCount seconds host .address <:+: _
    exact infix_substitute place
  · intro literal
    dsimp only
    rw [programFor, if_pos (isLiteralV6_iff.1 literal)]
  · intro other
    dsimp only
    rw [programFor, if_neg (mt isLiteralV6_iff.2 other)]

/-- Arguments with nested braces, and a timeout that is no whole number of seconds. -/
def nestedTemplate : PingConfig :=
  { args := ["\x7b\x7bcount\x7d\x7d", "-W\x7btimeout\x7d\x7baddress\x7d",
      "\x7bco\x7baddress\x7d"]
    timeout := .ofMillis 1500 }

/-- An address that holds places itself, and completes a placeholder that is begun in front of
it. -/
theorem command_of_nested_template :
    nestedTemplate.timeout.total < (secondsLimit - 1) * nanosPerSecond ∧
    ∃ host command,
      Ping.command nestedTemplate " [unt\x7d\x7baddress\x7d\x7btimeout\x7d]" = .ok command ∧
      IsBareOf host " [unt\x7d\x7baddress\x7d\x7btimeout\x7d]".toList ∧
      (∃ arg ∈ command.args, host <:+: arg.toList) ∧
      command = ⟨"ping", ["\x7b3\x7d", "-W2unt\x7d\x7baddress\x7d\x7btimeout\x7d",
        "\x7bcount\x7d\x7baddress\x7d\x7btimeout\x7d"]⟩ := by
  have short : nestedTemplate.timeout.total < (secondsLimit - 1) * nanosPerSecond := by decide
  obtain ⟨host, seconds, command, rendered, bare, -, -, given, -⟩ :=
    command_of_template nestedTemplate " [unt\x7d\x7baddress\x7d\x7btimeout\x7d]" short
  have evaluated : Ping.command nestedTemplate " [unt\x7d\x7baddress\x7d\x7btimeout\x7d]" =
      .ok ⟨"ping", ["\x7b3\x7d", "-W2unt\x7d\x7baddress\x7d\x7btimeout\x7d",
        "\x7bcount\x7d\x7baddress\x7d\x7btimeout\x7d"]⟩ := by
    decide +kernel
  have accepted : { Config.default "/tmp" with ping := nestedTemplate }.validate = .ok () := by
    decide +kernel
  exact ⟨short, host, command, rendered, bare, given _ rfl accepted,
    Except.ok.inj (rendered.symm.trans evaluated)⟩

end Reachability.Ping
