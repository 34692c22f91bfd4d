/-
# Configurations in TOML

A configuration has a text in TOML unless one of its integers has more than 63 bits or the directory
of its downloads is no text, and the text is read as the configuration.

Main definitions:

* `Config.HasWideInteger` : an integer of the configuration has more than 63 bits.

Main results:

* `print_toml_of_wide` : such a configuration has no text;
* `exists_print_toml` : any other one has a text, and this is read as the configuration, if its
  directory is a text too.
-/
import Reachability.Config.File
import Reachability.Proofs.Config.Document
import Reachability.Proofs.Document.Toml.Printed

namespace Reachability

open Document Toml

/-! ## Exactness -/

section Exact

variable {depth : Nat}

theorem isExact_ofNat {n : Nat} (small : (n : Int) ≤ Int64.maxValue.toInt) :
    IsExact depth (.integer n) :=
  .value (.integer _ ⟨Int.le_trans (by decide) (Int.natCast_nonneg n), small⟩)

theorem isExact_toNat (n : UInt32) : IsExact depth (.integer n.toNat) :=
  isExact_ofNat (Int.le_trans (Int.ofNat_le.2 (Nat.le_of_lt n.toNat_lt_size)) (by decide))

theorem isExact_text (s : String) : IsExact depth (.text s) := .value (.text _ s)

theorem isExact_bool (b : Bool) : IsExact depth (.bool b) := .value (.bool _ b)

theorem isExact_list (texts : List String) : IsExact depth (.list (texts.map .text)) := by
  refine .value (.list fun d there => ?_)
  obtain ⟨s, -, rfl⟩ := List.mem_map.1 there
  exact .text _ s

/-- The seconds of a duration have at most 63 bits. -/
def Duration.IsNarrow (d : Duration) : Prop := (d.secs : Int) ≤ Int64.maxValue.toInt

theorem Duration.bare_fieldNames : ∀ name ∈ fieldNames, IsBare name := by decide

theorem Duration.IsNarrow.isExact {d : Duration} (narrow : d.IsNarrow) :
    IsExact (depth + 1) d.toDocument := by
  have nanos : (d.nanos : Int) ≤ Int64.maxValue.toInt :=
    Int.le_trans (Int.ofNat_le.2 (Nat.le_of_lt d.nanos_lt)) (by decide)
  exact .record bare_fieldNames (by decide) rfl
    ⟨isExact_ofNat narrow, isExact_ofNat nanos⟩

theorem PingConfig.bare_fieldNames : ∀ name ∈ fieldNames, IsBare name := by decide

theorem PingConfig.isExact {c : PingConfig} (narrow : c.timeout.IsNarrow)
    (narrow' : c.processTimeout.IsNarrow) : IsExact (depth + 2) c.toDocument :=
  .record bare_fieldNames (by decide) rfl
    ⟨isExact_text _, isExact_text _, isExact_list _, isExact_toNat _, narrow.isExact,
      isExact_toNat _, narrow'.isExact⟩

theorem ConnectConfig.bare_fieldNames : ∀ name ∈ fieldNames, IsBare name := by decide

theorem ConnectConfig.isExact {c : ConnectConfig} (narrow : c.timeout.IsNarrow) :
    IsExact (depth + 2) c.toDocument :=
  .record bare_fieldNames (by decide) rfl ⟨narrow.isExact, isExact_toNat _⟩

theorem DownloadConfig.bare_fieldNames : ∀ name ∈ fieldNames, IsBare name := by decide

theorem DownloadConfig.isExact {c : DownloadConfig} (connect : c.connectTimeout.IsNarrow)
    (read : c.readTimeout.IsNarrow) (poll : c.pollInterval.IsNarrow)
    (chunk : (c.chunkSize.toNat : Int) ≤ Int64.maxValue.toInt) :
    IsExact (depth + 2) c.toDocument :=
  .record bare_fieldNames (by decide) rfl
    ⟨connect.isExact, read.isExact, isExact_bool _, isExact_toNat _, isExact_ofNat chunk,
      poll.isExact, isExact_bool _, isExact_text _⟩

theorem IdentityConfig.bare_fieldNames : ∀ name ∈ fieldNames, IsBare name := by decide

theorem IdentityConfig.isExact (c : IdentityConfig) : IsExact (depth + 2) c.toDocument :=
  .record bare_fieldNames (by decide) rfl (isExact_toNat _)

theorem LoggingConfig.bare_fieldNames : ∀ name ∈ fieldNames, IsBare name := by decide

theorem LoggingConfig.isExact (c : LoggingConfig) : IsExact (depth + 2) c.toDocument :=
  .record bare_fieldNames (by decide) rfl
    ⟨isExact_text _, isExact_text _, isExact_bool _, isExact_bool _⟩

end Exact

namespace Config

/-- All durations of a configuration. -/
def durations (c : Config) : List Duration :=
  [c.ping.timeout, c.ping.processTimeout, c.connect.timeout, c.download.connectTimeout,
    c.download.readTimeout, c.download.pollInterval]

/-- An integer of the configuration has more than 63 bits: the seconds of a duration or the size
of a chunk. -/
def HasWideInteger (c : Config) : Prop :=
  (∃ d ∈ c.durations, Int64.maxValue.toInt < d.secs) ∨
    Int64.maxValue.toInt < c.download.chunkSize.toNat

instance (c : Config) : Decidable c.HasWideInteger :=
  inferInstanceAs (Decidable ((∃ d ∈ c.durations, Int64.maxValue.toInt < d.secs) ∨
    Int64.maxValue.toInt < c.download.chunkSize.toNat))

theorem bare_fieldNames : ∀ name ∈ fieldNames, IsBare name := by decide

theorem isExact_toml {c : Config} (narrow : ¬c.HasWideInteger) (depth : Nat) :
    IsExact (depth + 3) c.toDocument := by
  simp only [HasWideInteger, not_or, not_exists, not_and, Int.not_lt] at narrow
  obtain ⟨durations, chunk⟩ := narrow
  obtain ⟨ping, process, connect, download, read, poll⟩ :=
    (List.forall_iff_forall_mem (l := c.durations)).2 durations
  exact .record bare_fieldNames (by decide) rfl
    ⟨PingConfig.isExact ping process, ConnectConfig.isExact connect,
      DownloadConfig.isExact download read poll chunk, c.identity.isExact, c.logging.isExact⟩

end Config

/-! ## Wide integers -/

theorem isWide_ofNat {n : Nat} (wide : Int64.maxValue.toInt < n) : IsWide (.integer n) :=
  .integer fun fits => absurd fits.2 (Int.not_le.2 wide)

theorem Duration.isWide {d : Duration} (wide : Int64.maxValue.toInt < d.secs) :
    IsWide d.toDocument :=
  .table List.mem_cons_self (isWide_ofNat wide)

theorem PingConfig.isWide {c : PingConfig} {d : Duration}
    (wide : Int64.maxValue.toInt < d.secs) (own : d = c.timeout ∨ d = c.processTimeout) :
    IsWide c.toDocument := by
  rcases own with rfl | rfl
  · exact .table (e := ("timeout", c.timeout.toDocument)) (by simp) (Duration.isWide wide)
  · exact .table (e := ("process_timeout", c.processTimeout.toDocument)) (by simp)
      (Duration.isWide wide)

theorem ConnectConfig.isWide {c : ConnectConfig} (wide : Int64.maxValue.toInt < c.timeout.secs) :
    IsWide c.toDocument :=
  .table (e := ("timeout", c.timeout.toDocument)) (by simp) (Duration.isWide wide)

theorem DownloadConfig.isWide_of_duration {c : DownloadConfig} {d : Duration}
    (wide : Int64.maxValue.toInt < d.secs)
    (own : d = c.connectTimeout ∨ d = c.readTimeout ∨ d = c.pollInterval) :
    IsWide c.toDocument := by
  rcases own with rfl | rfl | rfl
  · exact .table (e := ("connect_timeout", c.connectTimeout.toDocument)) (by simp)
      (Duration.isWide wide)
  · exact .table (e := ("read_timeout", c.readTimeout.toDocument)) (by simp) (Duration.isWide wide)
  · exact .table (e := ("poll_interval", c.pollInterval.toDocument)) (by simp)
      (Duration.isWide wide)

theorem DownloadConfig.isWide_of_chunkSize {c : DownloadConfig}
    (wide : Int64.maxValue.toInt < c.chunkSize.toNat) : IsWide c.toDocument :=
  .table (e := ("chunk_size", .integer c.chunkSize.toNat)) (by simp) (isWide_ofNat wide)

theorem Config.isWide {c : Config} (wide : c.HasWideInteger) : IsWide c.toDocument := by
  have ping (inner : IsWide c.ping.toDocument) : IsWide c.toDocument :=
    .table (e := ("ping", c.ping.toDocument)) (by simp) inner
  have connect (inner : IsWide c.connect.toDocument) : IsWide c.toDocument :=
    .table (e := ("connect", c.connect.toDocument)) (by simp) inner
  have download (inner : IsWide c.download.toDocument) : IsWide c.toDocument :=
    .table (e := ("download", c.download.toDocument)) (by simp) inner
  rcases wide with ⟨d, there, wide⟩ | wide
  · simp only [durations, List.mem_cons, List.not_mem_nil, or_false] at there
    rcases there with own | own | rfl | own | own | own
    · exact ping (PingConfig.isWide wide (.inl own))
    · exact ping (PingConfig.isWide wide (.inr own))
    · exact connect (ConnectConfig.isWide wide)
    · exact download (DownloadConfig.isWide_of_duration wide (.inl own))
    · exact download (DownloadConfig.isWide_of_duration wide (.inr (.inl own)))
    · exact download (DownloadConfig.isWide_of_duration wide (.inr (.inr own)))
  · exact download (DownloadConfig.isWide_of_chunkSize wide)

/-! ## What is read -/

theorem Duration.finish_toDocument (d : Duration) :
    (Tree.ofDocument d.toDocument).finish = d.toDocument :=
  finish_ofDocument_of_values (List.forall_iff_forall_mem.1 ⟨rfl, rfl⟩)

theorem PingConfig.reorders (c : PingConfig) :
    Reorders (Tree.ofDocument c.toDocument).finish c.toDocument :=
  reorders_finish_ofDocument (List.forall_iff_forall_mem.1
    ⟨finish_ofDocument_of_isTable rfl, finish_ofDocument_of_isTable rfl,
      finish_ofDocument_of_isTable rfl, finish_ofDocument_of_isTable rfl,
      c.timeout.finish_toDocument, finish_ofDocument_of_isTable rfl,
      c.processTimeout.finish_toDocument⟩)

theorem ConnectConfig.reorders (c : ConnectConfig) :
    Reorders (Tree.ofDocument c.toDocument).finish c.toDocument :=
  reorders_finish_ofDocument (List.forall_iff_forall_mem.1
    ⟨c.timeout.finish_toDocument, finish_ofDocument_of_isTable rfl⟩)

theorem DownloadConfig.reorders (c : DownloadConfig) :
    Reorders (Tree.ofDocument c.toDocument).finish c.toDocument :=
  reorders_finish_ofDocument (List.forall_iff_forall_mem.1
    ⟨c.connectTimeout.finish_toDocument, c.readTimeout.finish_toDocument,
      finish_ofDocument_of_isTable rfl, finish_ofDocument_of_isTable rfl,
      finish_ofDocument_of_isTable rfl, c.pollInterval.finish_toDocument,
      finish_ofDocument_of_isTable rfl, finish_ofDocument_of_isTable rfl⟩)

theorem IdentityConfig.reorders (c : IdentityConfig) :
    Reorders (Tree.ofDocument c.toDocument).finish c.toDocument :=
  reorders_finish_ofDocument (List.forall_iff_forall_mem.1 (finish_ofDocument_of_isTable rfl))

theorem LoggingConfig.reorders (c : LoggingConfig) :
    Reorders (Tree.ofDocument c.toDocument).finish c.toDocument :=
  reorders_finish_ofDocument (List.forall_iff_forall_mem.1
    ⟨finish_ofDocument_of_isTable rfl, finish_ofDocument_of_isTable rfl,
      finish_ofDocument_of_isTable rfl, finish_ofDocument_of_isTable rfl⟩)

namespace Config

variable {c : Config}

theorem print_toml_of_wide (wide : c.HasWideInteger) : c.print .toml = .error wideInteger := by
  have unprinted : Toml.print? c.toDocument = none := print?_of_isWide (isWide wide)
  rw [print, unprinted]
  rfl

/-- The sections stand in their order, with the fields of each in some order. -/
theorem finish_toDocument (c : Config) : (Tree.ofDocument c.toDocument).finish =
    .table (fieldNames.zip
      [(Tree.ofDocument c.ping.toDocument).finish, (Tree.ofDocument c.connect.toDocument).finish,
        (Tree.ofDocument c.download.toDocument).finish,
        (Tree.ofDocument c.identity.toDocument).finish,
        (Tree.ofDocument c.logging.toDocument).finish]) := by
  rw [toDocument, ofDocument_table, finish_table]
  rfl

/-- Without wide integers there is a text, if the directory of downloads is one, and this is read as
the configuration. -/
theorem exists_print_toml (narrow : ¬c.HasWideInteger) :
    (c.download.directory.isText = false → c.print .toml = .error directoryNotText) ∧
      (c.download.directory.isText = true → ∃ text, c.print .toml = .ok text ∧
        ∀ temporary, parse temporary .toml text = .ok c) := by
  -- sections, durations and their numbers take three levels of those that may nest
  obtain ⟨text, printed, read⟩ := exists_print? (isExact_toml narrow (depthLimit - 3))
  change Toml.print? c.toDocument = some text at printed
  change Toml.read text = .ok (Tree.ofDocument c.toDocument).finish at read
  constructor
  · intro raw
    rw [print, printed, raw]
    rfl
  · intro isText
    refine ⟨text, by rw [print, printed, isText]; rfl, fun temporary => ?_⟩
    have same : ofDocument? temporary .toml (Tree.ofDocument c.toDocument).finish = some c := by
      rw [finish_toDocument]
      exact ofDocument?_of_sections isText c.ping.reorders c.connect.reorders
        c.download.reorders c.identity.reorders c.logging.reorders
    rw [parse, read]
    change (ofDocument? temporary .toml (Tree.ofDocument c.toDocument).finish).elim _ _ = _
    rw [same]
    rfl

end Config
end Reachability
