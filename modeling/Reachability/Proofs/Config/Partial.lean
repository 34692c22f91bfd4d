/-
# Partial configurations

A table in JSON may give any of the sections of a configuration, and a section any of its fields,
in any order and among entries with other names.  What is given is taken, every other field has its
own default, and a section that is left out has all of them.

Main definitions:

* `Document.Settles` : what a table makes of a field with a default;
* `Duration.IsWritten`, `Document.IsName` : the values that are written in more than one way;
* `PingConfig.IsGivenBy` and its companions : a section as a table gives it;
* `Config.IsGivenBy` : a configuration as a table gives it.

Main results:

* `Config.ofDocument?_of_isGivenBy` : the table is read as the configuration that it gives;
* `Config.load_given` : **so is the file**, whatever else it holds.
-/
import Reachability.Proofs.Config.Saving

namespace Reachability

namespace Document

/-! ## Fields with a default -/

/-- What a table makes of a field: the value of the only entry with its name, or the default if
there is none. -/
inductive Settles {α : Type} (entries : List (String × Document)) (name : String)
    (means : α → Document → Prop) (fallback : α) : α → Prop
  | given {a : α} {d : Document} (once : entries.filter (·.1 = name) = [(name, d)])
      (told : means a d) : Settles entries name means fallback a
  | missing (absent : ∀ e ∈ entries, e.1 ≠ name) : Settles entries name means fallback fallback

section Settles

variable {α : Type} {entries : List (String × Document)} {name : String}
  {means : α → Document → Prop} {fallback a : α} {read : Document → Option α}

theorem Settles.occurrences_le_one (h : Settles entries name means fallback a) :
    occurrences name entries ≤ 1 := by
  rw [occurrences]
  cases h with
  | given once => rw [once, List.length_singleton]
  | missing absent =>
    rw [List.filter_eq_nil_iff.2 (by simpa using absent)]
    exact Nat.zero_le 1

/-- The last entry with a name is the last of those with the name. -/
theorem lookup?_eq_getLast? : lookup? name entries =
    ((entries.filter (·.1 = name)).getLast?).map (·.2) := by
  rw [lookup?, ← List.head?_reverse, ← List.filter_reverse, List.head?_filter]

/-- A reader that knows what values mean reads the field that is settled. -/
theorem Settles.withDefault (h : Settles entries name means fallback a)
    (known : ∀ {a d}, means a d → read d = some a) :
    withDefault read fallback (lookup? name entries) = some a := by
  rw [lookup?_eq_getLast?]
  cases h with
  | given once told =>
    rw [once]
    exact known told
  | missing absent =>
    rw [List.filter_eq_nil_iff.2 (by simpa using absent)]
    rfl

end Settles

/-- The fields of a table in which no known name stands twice. -/
theorem fields?_of_forall {format : Format} {names : List String}
    {entries : List (String × Document)}
    (once : names.Forall fun name => occurrences name entries ≤ 1) :
    fields? format names (.table entries) = some (names.map fun name => lookup? name entries) := by
  rw [fields?, if_pos (by simpa using List.forall_iff_forall_mem.1 once)]

/-! ## Values -/

def IsString (s : String) (d : Document) : Prop := d = .text s

def IsPath (path : RawText) (d : Document) : Prop := ∃ s, path = .ofText s ∧ d = .text s

def IsStrings (texts : List String) (d : Document) : Prop := d = .list (texts.map .text)

def IsTruth (b : Bool) (d : Document) : Prop := d = .bool b

def IsUInt32 (n : UInt32) (d : Document) : Prop := d = .integer n.toNat

def IsUInt64 (n : UInt64) (d : Document) : Prop := d = .integer n.toNat

/-- A name out of a fixed choice is a text, or the only name of a table that holds nothing. -/
inductive IsName (name : String) : Document → Prop
  | text : IsName name (.text name)
  | alone : IsName name (.table [(name, .null)])

/-- A section is a table. -/
def IsSection {α : Type} (isGivenBy : α → List (String × Document) → Prop) (c : α)
    (d : Document) : Prop := ∃ entries, d = .table entries ∧ isGivenBy c entries

end Document

open Document

/-- The ways in which a duration is written: a table of both parts in either order, or a list of
them.  Nanoseconds beyond a second carry over. -/
inductive Duration.IsWritten (x : Duration) : Document → Prop
  | byName {secs nanos : Nat} {entries : List (String × Document)} (room : secs < UInt64.size)
      (room' : nanos < UInt32.size) (total : x.total = secs * nanosPerSecond + nanos)
      (parts : entries.Perm [("secs", .integer secs), ("nanos", .integer nanos)]) :
      IsWritten x (.table entries)
  | byPosition {secs nanos : Nat} (room : secs < UInt64.size) (room' : nanos < UInt32.size)
      (total : x.total = secs * nanosPerSecond + nanos) :
      IsWritten x (.list [.integer secs, .integer nanos])

theorem Duration.ofParts?_eq {x : Duration} {secs nanos : Nat}
    (total : x.total = secs * nanosPerSecond + nanos) : ofParts? secs nanos = some x := by
  simp only [ofParts?, ofNanos?, ← total, x.total_lt, dite_true]

theorem Duration.ofDocument?_of_isWritten {x : Duration} {d : Document} (written : x.IsWritten d) :
    ofDocument? .json d = some x := by
  -- in every form both parts are found, and nothing else
  suffices h : ∃ secs nanos : Nat, secs < UInt64.size ∧ nanos < UInt32.size ∧
      ofParts? secs nanos = some x ∧ d.hasOnly fieldNames = true ∧
      d.fields? .json fieldNames = some ([.integer secs, .integer nanos].map some) by
    obtain ⟨secs, nanos, room, room', total, only, given⟩ := h
    have secs' := asNatBelow?_natCast room
    have nanos' := asNatBelow?_natCast room'
    rw [ofDocument?, given, only, if_neg (by simp)]
    exact Option.bind_eq_some_iff.2 ⟨_, secs', Option.bind_eq_some_iff.2 ⟨_, nanos', total⟩⟩
  cases written with
  | @byName secs nanos entries room room' total parts =>
    refine ⟨secs, nanos, room, room', ofParts?_eq total, ?_,
      fields?_of_reorders (by decide) _ (.table parts) rfl⟩
    rw [hasOnly, parts.all_eq]
    rfl
  | @byPosition secs nanos room room' total =>
    exact ⟨secs, nanos, room, room', ofParts?_eq total, rfl, rfl⟩

section Readers

variable {d : Document}

theorem asText?_of_isString {s : String} (h : IsString s d) : asText? d = some s := by
  rw [h]
  rfl

theorem asPath?_of_isPath {path : RawText} (h : IsPath path d) : asPath? d = some path := by
  obtain ⟨s, rfl, rfl⟩ := h
  rfl

theorem asListOf?_of_isStrings {texts : List String} (h : IsStrings texts d) :
    asListOf? asText? d = some texts := by
  rw [h, asListOf?_texts]

theorem asBool?_of_isTruth {b : Bool} (h : IsTruth b d) : asBool? d = some b := by
  rw [h]
  rfl

theorem asUInt32?_of_isUInt32 {n : UInt32} (h : IsUInt32 n d) : asUInt32? d = some n := by
  rw [h, asUInt32?_toNat]

theorem asUInt64?_of_isUInt64 {n : UInt64} (h : IsUInt64 n d) : asUInt64? d = some n := by
  rw [h, asUInt64?_toNat]

theorem asChoice?_of_isLevel {l : LogLevel} (h : IsName l.name d) :
    asChoice? .json LogLevel.all LogLevel.name d = some l := by
  cases h <;> cases l <;> rfl

theorem asChoice?_of_isFormat {f : LogFormat} (h : IsName f.name d) :
    asChoice? .json LogFormat.all LogFormat.name d = some f := by
  cases h <;> cases f <;> rfl

end Readers

variable {entries : List (String × Document)} {temporary : RawText}

/-! ## Sections -/

structure PingConfig.IsGivenBy (c : PingConfig) (entries : List (String × Document)) : Prop where
  program : Settles entries "program" IsString ({} : PingConfig).program c.program
  programV6 : Settles entries "program_v6" IsString ({} : PingConfig).programV6 c.programV6
  args : Settles entries "args" IsStrings ({} : PingConfig).args c.args
  packetCount : Settles entries "packet_count" IsUInt32 ({} : PingConfig).packetCount c.packetCount
  timeout : Settles entries "timeout" Duration.IsWritten ({} : PingConfig).timeout c.timeout
  attempts : Settles entries "attempts" IsUInt32 ({} : PingConfig).attempts c.attempts
  processTimeout : Settles entries "process_timeout" Duration.IsWritten
    ({} : PingConfig).processTimeout c.processTimeout

theorem PingConfig.ofDocument?_of_isGivenBy {c : PingConfig} (given : c.IsGivenBy entries) :
    ofDocument? .json (.table entries) = some c := by
  have fields := @fields?_of_forall .json fieldNames entries
    ⟨given.program.occurrences_le_one, given.programV6.occurrences_le_one,
      given.args.occurrences_le_one, given.packetCount.occurrences_le_one,
      given.timeout.occurrences_le_one, given.attempts.occurrences_le_one,
      given.processTimeout.occurrences_le_one⟩
  rw [ofDocument?, fields]
  simp [fieldNames, given.program.withDefault asText?_of_isString,
    given.programV6.withDefault asText?_of_isString, given.args.withDefault asListOf?_of_isStrings,
    given.packetCount.withDefault asUInt32?_of_isUInt32,
    given.timeout.withDefault Duration.ofDocument?_of_isWritten,
    given.attempts.withDefault asUInt32?_of_isUInt32,
    given.processTimeout.withDefault Duration.ofDocument?_of_isWritten]

structure ConnectConfig.IsGivenBy (c : ConnectConfig) (entries : List (String × Document)) :
    Prop where
  timeout : Settles entries "timeout" Duration.IsWritten ({} : ConnectConfig).timeout c.timeout
  attempts : Settles entries "attempts" IsUInt32 ({} : ConnectConfig).attempts c.attempts

theorem ConnectConfig.ofDocument?_of_isGivenBy {c : ConnectConfig} (given : c.IsGivenBy entries) :
    ofDocument? .json (.table entries) = some c := by
  have fields := @fields?_of_forall .json fieldNames entries
    ⟨given.timeout.occurrences_le_one, given.attempts.occurrences_le_one⟩
  rw [ofDocument?, fields]
  simp [fieldNames, given.timeout.withDefault Duration.ofDocument?_of_isWritten,
    given.attempts.withDefault asUInt32?_of_isUInt32]

structure DownloadConfig.IsGivenBy (temporary : RawText) (c : DownloadConfig)
    (entries : List (String × Document)) : Prop where
  connectTimeout : Settles entries "connect_timeout" Duration.IsWritten
    (DownloadConfig.default temporary).connectTimeout c.connectTimeout
  readTimeout : Settles entries "read_timeout" Duration.IsWritten
    (DownloadConfig.default temporary).readTimeout c.readTimeout
  followRedirects : Settles entries "follow_redirects" IsTruth
    (DownloadConfig.default temporary).followRedirects c.followRedirects
  maxRedirects : Settles entries "max_redirects" IsUInt32
    (DownloadConfig.default temporary).maxRedirects c.maxRedirects
  chunkSize : Settles entries "chunk_size" IsUInt64
    (DownloadConfig.default temporary).chunkSize c.chunkSize
  pollInterval : Settles entries "poll_interval" Duration.IsWritten
    (DownloadConfig.default temporary).pollInterval c.pollInterval
  deleteAfterDownload : Settles entries "delete_after_download" IsTruth
    (DownloadConfig.default temporary).deleteAfterDownload c.deleteAfterDownload
  directory : Settles entries "directory" IsPath
    (DownloadConfig.default temporary).directory c.directory

theorem DownloadConfig.ofDocument?_of_isGivenBy {c : DownloadConfig}
    (given : IsGivenBy temporary c entries) :
    ofDocument? temporary .json (.table entries) = some c := by
  have fields := @fields?_of_forall .json fieldNames entries
    ⟨given.connectTimeout.occurrences_le_one, given.readTimeout.occurrences_le_one,
      given.followRedirects.occurrences_le_one, given.maxRedirects.occurrences_le_one,
      given.chunkSize.occurrences_le_one, given.pollInterval.occurrences_le_one,
      given.deleteAfterDownload.occurrences_le_one, given.directory.occurrences_le_one⟩
  rw [ofDocument?, fields]
  simp [fieldNames, given.connectTimeout.withDefault Duration.ofDocument?_of_isWritten,
    given.readTimeout.withDefault Duration.ofDocument?_of_isWritten,
    given.followRedirects.withDefault asBool?_of_isTruth,
    given.maxRedirects.withDefault asUInt32?_of_isUInt32,
    given.chunkSize.withDefault asUInt64?_of_isUInt64,
    given.pollInterval.withDefault Duration.ofDocument?_of_isWritten,
    given.deleteAfterDownload.withDefault asBool?_of_isTruth,
    given.directory.withDefault asPath?_of_isPath]

structure IdentityConfig.IsGivenBy (c : IdentityConfig) (entries : List (String × Document)) :
    Prop where
  retryBudget : Settles entries "retry_budget" IsUInt32
    ({} : IdentityConfig).retryBudget c.retryBudget

theorem IdentityConfig.ofDocument?_of_isGivenBy {c : IdentityConfig}
    (given : c.IsGivenBy entries) : ofDocument? .json (.table entries) = some c := by
  have fields := @fields?_of_forall .json fieldNames entries given.retryBudget.occurrences_le_one
  rw [ofDocument?, fields]
  simp [fieldNames, given.retryBudget.withDefault asUInt32?_of_isUInt32]

structure LoggingConfig.IsGivenBy (c : LoggingConfig) (entries : List (String × Document)) :
    Prop where
  level : Settles entries "level" (fun l => IsName l.name) ({} : LoggingConfig).level c.level
  format : Settles entries "format" (fun f => IsName f.name) ({} : LoggingConfig).format c.format
  timestamps : Settles entries "timestamps" IsTruth ({} : LoggingConfig).timestamps c.timestamps
  moduleNames : Settles entries "module_names" IsTruth
    ({} : LoggingConfig).moduleNames c.moduleNames

theorem LoggingConfig.ofDocument?_of_isGivenBy {c : LoggingConfig} (given : c.IsGivenBy entries) :
    ofDocument? .json (.table entries) = some c := by
  have fields := @fields?_of_forall .json fieldNames entries
    ⟨given.level.occurrences_le_one, given.format.occurrences_le_one,
      given.timestamps.occurrences_le_one, given.moduleNames.occurrences_le_one⟩
  rw [ofDocument?, fields]
  simp [fieldNames, given.level.withDefault asChoice?_of_isLevel,
    given.format.withDefault asChoice?_of_isFormat,
    given.timestamps.withDefault asBool?_of_isTruth,
    given.moduleNames.withDefault asBool?_of_isTruth]

/-! ## Configurations -/

namespace Config

structure IsGivenBy (temporary : RawText) (c : Config) (entries : List (String × Document)) :
    Prop where
  ping : Settles entries "ping" (IsSection PingConfig.IsGivenBy) (Config.default temporary).ping
    c.ping
  connect : Settles entries "connect" (IsSection ConnectConfig.IsGivenBy)
    (Config.default temporary).connect c.connect
  download : Settles entries "download" (IsSection (DownloadConfig.IsGivenBy temporary))
    (Config.default temporary).download c.download
  identity : Settles entries "identity" (IsSection IdentityConfig.IsGivenBy)
    (Config.default temporary).identity c.identity
  logging : Settles entries "logging" (IsSection LoggingConfig.IsGivenBy)
    (Config.default temporary).logging c.logging

/-- A reader of tables reads sections. -/
theorem read_of_isSection {α : Type} {isGivenBy : α → List (String × Document) → Prop}
    {read : Document → Option α}
    (known : ∀ {c entries}, isGivenBy c entries → read (.table entries) = some c) {c : α}
    {d : Document} (h : IsSection isGivenBy c d) : read d = some c := by
  obtain ⟨entries, rfl, given⟩ := h
  exact known given

/-- A table is read as the configuration that it gives. -/
theorem ofDocument?_of_isGivenBy {c : Config} (given : IsGivenBy temporary c entries) :
    ofDocument? temporary .json (.table entries) = some c := by
  have fields := @fields?_of_forall .json fieldNames entries
    ⟨given.ping.occurrences_le_one, given.connect.occurrences_le_one,
      given.download.occurrences_le_one, given.identity.occurrences_le_one,
      given.logging.occurrences_le_one⟩
  rw [ofDocument?, fields]
  simp [fieldNames,
    given.ping.withDefault (read_of_isSection PingConfig.ofDocument?_of_isGivenBy),
    given.connect.withDefault (read_of_isSection ConnectConfig.ofDocument?_of_isGivenBy),
    given.download.withDefault (read_of_isSection DownloadConfig.ofDocument?_of_isGivenBy),
    given.identity.withDefault (read_of_isSection IdentityConfig.ofDocument?_of_isGivenBy),
    given.logging.withDefault (read_of_isSection LoggingConfig.ofDocument?_of_isGivenBy)]

/-- **Partial configurations are loaded.**  A file in JSON whose table gives a configuration is
loaded as this configuration if it is accepted, and else fails with the rule that it breaks.  Every
other file whose table gives the same, in another order and among other unknown entries, is loaded
alike. -/
theorem load_given {path : RawText} (json : Format.ofPath? path = some .json) {c : Config}
    (given : IsGivenBy temporary c entries) {text : List Char}
    (written : Json.IsText text (.table entries)) :
    load temporary path (some (Utf8.encode text)) = (c.validate.map fun () => c) ∧
      ∀ entries' text', IsGivenBy temporary c entries' → Json.IsText text' (.table entries') →
        load temporary path (some (Utf8.encode text')) =
          load temporary path (some (Utf8.encode text)) := by
  have loaded {entries : List (String × Document)} {text : List Char}
      (given : IsGivenBy temporary c entries) (written : Json.IsText text (.table entries)) :
      load temporary path (some (Utf8.encode text)) = c.validate.map fun () => c := by
    have read : parse temporary .json (String.ofList text) = .ok c := by
      rw [parse, Json.read?_of_isText written]
      change (ofDocument? temporary .json (.table entries)).elim _ _ = _
      rw [ofDocument?_of_isGivenBy given]
      rfl
    simpa using load_encode json read
  exact ⟨loaded given written, fun entries' text' given' written' => by
    rw [loaded given' written', loaded given written]⟩

section Shuffled

open Json

/-- A member without blanks, its name written as it is printed. -/
def plainMember (name text : String) (value : Document) : Json.Member where
  front := []
  body := name.toList.flatMap escape
  symbols := name.toList.map symbolOf
  gap := []
  item := ⟨[], text.toList, [], value, isMargin_nil, isMargin_nil⟩
  isFront := isMargin_nil
  isGap := isMargin_nil
  quoted := quotes_escape name.toList

/-- A digit as a number, behind which there may be an exponent. -/
def digitNumeral (c : Char) (nonzero : Text.isDigit c = true ∧ c ≠ '0')
    (exponent : Option Exponent) : Numeral where
  negative := false
  whole := [c]
  fraction := none
  exponent := exponent
  isWhole := .inr ⟨⟨List.cons_ne_nil _ _, List.forall_mem_singleton.2 nonzero.1⟩,
    fun same => nonzero.2 (Option.some.inj same)⟩
  isFraction := isDigits_of_mem_none

/-- A number beyond all doubles. -/
def hugeNumeral : Numeral :=
  digitNumeral '1' (by decide)
    (some ⟨'e', none, ['9', '9', '9'], .inl rfl, .inl rfl, by simp, List.all_eq_true.1 rfl⟩)

def sectionText : String :=
  "\x7b\"attempts\":2,\"zzz\":null,\"timeout\":\x7b\"nanos\":5,\"secs\":1\x7d\x7d"

/-- Two fields against their order, and a duration with its smaller part first, among unknown
entries: a list of a number beyond all doubles and of half of a surrogate pair, and nothing. -/
def shuffledText : String :=
  " \x7b\"x\":[1e999,\"\\ud800\"],\"ping\":" ++ sectionText ++ "\x7d\n"

def shuffledParts : Document := .table [("nanos", .integer 5), ("secs", .integer 1)]

def shuffledSection : List (String × Document) :=
  [("attempts", .integer 2), ("zzz", .null), ("timeout", shuffledParts)]

def shuffledEntries : List (String × Document) :=
  [("x", .list [hugeNumeral.document, .unreadable]), ("ping", .table shuffledSection)]

theorem isText_shuffledText : Json.IsText shuffledText.toList (.table shuffledEntries) := by
  have table (members : List Json.Member)
      (inner : members.Forall fun m => Spells m.item.text m.item.value) :
      Spells ('\x7b' :: (separated [','] (members.map Member.written) ++ ['\x7d']))
        (tableOf members) := .table isMargin_nil (List.forall_iff_forall_mem.1 inner)
  have five : Spells ['5'] (.integer 5) := .number (digitNumeral '5' (by decide) none)
  have one : Spells ['1'] (.integer 1) := .number (digitNumeral '1' (by decide) none)
  have two : Spells ['2'] (.integer 2) := .number (digitNumeral '2' (by decide) none)
  have half : Spells "\"\\ud800\"".toList .unreadable :=
    .string (.cons (@Symbol.Writes.unit "d800".toList 0xd800 rfl) .nil)
  have unknown : Spells "[1e999,\"\\ud800\"]".toList
      (.list [hugeNumeral.document, .unreadable]) :=
    @Spells.list
      [⟨[], "1e999".toList, [], hugeNumeral.document, isMargin_nil, isMargin_nil⟩,
        ⟨[], "\"\\ud800\"".toList, [], .unreadable, isMargin_nil, isMargin_nil⟩]
      [] isMargin_nil (List.forall_iff_forall_mem.1 ⟨.number hugeNumeral, half⟩)
  have parts : Spells "\x7b\"nanos\":5,\"secs\":1\x7d".toList shuffledParts :=
    table [plainMember "nanos" "5" (.integer 5), plainMember "secs" "1" (.integer 1)] ⟨five, one⟩
  have ping : Spells sectionText.toList (.table shuffledSection) :=
    table [plainMember "attempts" "2" (.integer 2), plainMember "zzz" "null" .null,
      plainMember "timeout" "\x7b\"nanos\":5,\"secs\":1\x7d" shuffledParts] ⟨two, .null, parts⟩
  have all := table
    [plainMember "x" "[1e999,\"\\ud800\"]" (.list [hugeNumeral.document, .unreadable]),
      plainMember "ping" sectionText (.table shuffledSection)] ⟨unknown, ping⟩
  exact ⟨⟨[' '], _, ['\n'], _, by decide, by decide⟩, all, rfl, rfl⟩

def shuffled : Config :=
  { Config.default "/tmp" with ping := { timeout := ⟨1000000005, by decide⟩, attempts := 2 } }

theorem isGivenBy_shuffledEntries : IsGivenBy "/tmp" shuffled shuffledEntries := by
  have timeout : Duration.IsWritten ⟨1000000005, by decide⟩ shuffledParts :=
    @Duration.IsWritten.byName _ 1 5 _ (by decide) (by decide) rfl (.swap _ _ [])
  have ping : shuffled.ping.IsGivenBy shuffledSection :=
    { program := .missing (by decide)
      programV6 := .missing (by decide)
      args := .missing (by decide)
      packetCount := .missing (by decide)
      timeout := .given rfl timeout
      attempts := .given rfl rfl
      processTimeout := .missing (by decide) }
  exact
    { ping := .given rfl ⟨_, rfl, ping⟩
      connect := .missing (by decide)
      download := .missing (by decide)
      identity := .missing (by decide)
      logging := .missing (by decide) }

theorem load_given_shuffled :
    Format.ofPath? "net.json" = some .json ∧ IsGivenBy "/tmp" shuffled shuffledEntries ∧
      Json.IsText shuffledText.toList (.table shuffledEntries) ∧ shuffled.validate = .ok () ∧
      load "/tmp" "net.json" (some (Utf8.encode shuffledText.toList)) = .ok shuffled := by
  have json : Format.ofPath? "net.json" = some .json := by decide
  have accepted : shuffled.validate = .ok () := by decide
  obtain ⟨loaded, -⟩ := load_given json isGivenBy_shuffledEntries isText_shuffledText
  rw [accepted] at loaded
  exact ⟨json, isGivenBy_shuffledEntries, isText_shuffledText, accepted, loaded⟩

end Shuffled

end Config
end Reachability
