/-
# Configurations and their documents

A configuration is read from its own document, in every format and in whatever order the fields
stand, if the directory of its downloads is a text.

Main results:

* `Duration.ofDocument?_toDocument` and its companions for the sections;
* `Config.ofDocument?_toDocument` : the document of a configuration gives the configuration;
* `Config.isExact_toDocument` : the document is one that JSON tells exactly.
-/
import Reachability.Config.Document
import Reachability.Proofs.Document.Json.Printed
import Reachability.Proofs.Document.Record
import Reachability.Proofs.Text.Raw

namespace Reachability

open Document

variable {format : Format} {temporary : RawText}

/-! ## Values -/

theorem Duration.secs_lt (d : Duration) : d.secs < UInt64.size :=
  Nat.div_lt_of_lt_mul (by rw [Nat.mul_comm]; exact d.total_lt)

theorem Duration.nanos_lt (d : Duration) : d.nanos < UInt32.size :=
  Nat.lt_trans (Nat.mod_lt _ (Nat.zero_lt_succ _)) (by decide)

theorem Duration.ofDocument?_toDocument (d : Duration) :
    ofDocument? format d.toDocument = some d := by
  have given : d.toDocument.fields? format fieldNames =
      some ([.integer d.secs, .integer d.nanos].map some) :=
    fields?_of_reorders (by decide) _ (.table (.refl _)) rfl
  have only : d.toDocument.hasOnly fieldNames = true := rfl
  have secs := asNatBelow?_natCast d.secs_lt
  have nanos := asNatBelow?_natCast d.nanos_lt
  rw [ofDocument?, given, only, if_neg (by simp)]
  exact Option.bind_eq_some_iff.2 ⟨_, secs, Option.bind_eq_some_iff.2 ⟨_, nanos, d.ofParts?_parts⟩⟩

theorem asUInt32?_toNat (n : UInt32) : asUInt32? (.integer n.toNat) = some n := by
  simp [asUInt32?, asNatBelow?_natCast n.toNat_lt_size]

theorem asUInt64?_toNat (n : UInt64) : asUInt64? (.integer n.toNat) = some n := by
  simp [asUInt64?, asNatBelow?_natCast n.toNat_lt_size]

theorem asPath?_ofText (s : String) : asPath? (.text s) = some (.ofText s) := rfl

theorem asListOf?_texts (texts : List String) :
    asListOf? asText? (.list (texts.map .text)) = some texts :=
  asListOf?_map .text (fun _ => rfl) texts

theorem asChoice?_level (l : LogLevel) :
    asChoice? format LogLevel.all LogLevel.name (.text l.name) = some l := by
  cases l <;> rfl

theorem asChoice?_format (f : LogFormat) :
    asChoice? format LogFormat.all LogFormat.name (.text f.name) = some f := by
  cases f <;> rfl

/-! ## Sections -/

variable {d : Document}

theorem PingConfig.ofDocument?_of_reorders {c : PingConfig} (same : Reorders d c.toDocument) :
    ofDocument? format d = some c := by
  have given : d.fields? format fieldNames = some
      ([.text c.program, .text c.programV6, .list (c.args.map .text),
        .integer c.packetCount.toNat, c.timeout.toDocument, .integer c.attempts.toNat,
        c.processTimeout.toDocument].map some) :=
    fields?_of_reorders (by decide) _ same rfl
  rw [ofDocument?, given]
  simp [withDefault, asText?, asListOf?_texts, asUInt32?_toNat, Duration.ofDocument?_toDocument]

theorem ConnectConfig.ofDocument?_of_reorders {c : ConnectConfig}
    (same : Reorders d c.toDocument) : ofDocument? format d = some c := by
  have given : d.fields? format fieldNames =
      some ([c.timeout.toDocument, .integer c.attempts.toNat].map some) :=
    fields?_of_reorders (by decide) _ same rfl
  rw [ofDocument?, given]
  simp [withDefault, asUInt32?_toNat, Duration.ofDocument?_toDocument]

theorem DownloadConfig.ofDocument?_of_reorders {c : DownloadConfig}
    (text : c.directory.isText = true) (same : Reorders d c.toDocument) :
    ofDocument? temporary format d = some c := by
  have given : d.fields? format fieldNames = some
      ([c.connectTimeout.toDocument, c.readTimeout.toDocument, .bool c.followRedirects,
        .integer c.maxRedirects.toNat, .integer c.chunkSize.toNat, c.pollInterval.toDocument,
        .bool c.deleteAfterDownload, .text c.directory.shown].map some) :=
    fields?_of_reorders (by decide) _ same rfl
  rw [ofDocument?, given]
  simp [withDefault, asBool?, asPath?_ofText, RawText.ofText_shown text, asUInt32?_toNat,
    asUInt64?_toNat, Duration.ofDocument?_toDocument]

theorem IdentityConfig.ofDocument?_of_reorders {c : IdentityConfig}
    (same : Reorders d c.toDocument) : ofDocument? format d = some c := by
  have given : d.fields? format fieldNames = some ([.integer c.retryBudget.toNat].map some) :=
    fields?_of_reorders (by decide) _ same rfl
  rw [ofDocument?, given]
  simp [withDefault, asUInt32?_toNat]

theorem LoggingConfig.ofDocument?_of_reorders {c : LoggingConfig}
    (same : Reorders d c.toDocument) : ofDocument? format d = some c := by
  have given : d.fields? format fieldNames = some
      ([.text c.level.name, .text c.format.name, .bool c.timestamps, .bool c.moduleNames].map
        some) :=
    fields?_of_reorders (by decide) _ same rfl
  rw [ofDocument?, given]
  simp [withDefault, asBool?, asChoice?_level, asChoice?_format]

/-! ## All sections -/

namespace Config

/-- A configuration is read from its sections, in whatever order their fields stand. -/
theorem ofDocument?_of_sections {c : Config} (text : c.download.directory.isText = true)
    {ping connect download identity logging : Document} (ofPing : Reorders ping c.ping.toDocument)
    (ofConnect : Reorders connect c.connect.toDocument)
    (ofDownload : Reorders download c.download.toDocument)
    (ofIdentity : Reorders identity c.identity.toDocument)
    (ofLogging : Reorders logging c.logging.toDocument) :
    ofDocument? temporary format
      (.table (fieldNames.zip [ping, connect, download, identity, logging])) = some c := by
  rw [ofDocument?, fields?_of_reorders (by decide) _ (.table (.refl _)) rfl]
  simp [withDefault, PingConfig.ofDocument?_of_reorders ofPing,
    ConnectConfig.ofDocument?_of_reorders ofConnect,
    DownloadConfig.ofDocument?_of_reorders text ofDownload,
    IdentityConfig.ofDocument?_of_reorders ofIdentity,
    LoggingConfig.ofDocument?_of_reorders ofLogging]

/-- The document of a configuration gives the configuration. -/
theorem ofDocument?_toDocument {c : Config} (text : c.download.directory.isText = true) :
    ofDocument? temporary format c.toDocument = some c :=
  ofDocument?_of_sections text (.table (.refl _)) (.table (.refl _)) (.table (.refl _))
    (.table (.refl _)) (.table (.refl _))

end Config

/-! ## Exactness -/

section Exact

open Json

theorem isExact_uint32 (n : UInt32) : IsExact (.integer n.toNat) :=
  .natCast (Nat.lt_trans n.toNat_lt_size (by decide))

theorem isExact_texts (texts : List String) : IsExact (.list (texts.map .text)) := by
  refine .list fun d there => ?_
  obtain ⟨s, -, rfl⟩ := List.mem_map.1 there
  exact .text s

theorem Duration.isExact_toDocument (d : Duration) : IsExact d.toDocument :=
  .of_forall ⟨.natCast d.secs_lt,
    .natCast (Nat.lt_trans d.nanos_lt (by decide))⟩

theorem PingConfig.isExact_toDocument (c : PingConfig) : IsExact c.toDocument :=
  .of_forall ⟨.text _, .text _, isExact_texts _, isExact_uint32 _, c.timeout.isExact_toDocument,
    isExact_uint32 _, c.processTimeout.isExact_toDocument⟩

theorem ConnectConfig.isExact_toDocument (c : ConnectConfig) : IsExact c.toDocument :=
  .of_forall ⟨c.timeout.isExact_toDocument, isExact_uint32 _⟩

theorem DownloadConfig.isExact_toDocument (c : DownloadConfig) : IsExact c.toDocument :=
  .of_forall ⟨c.connectTimeout.isExact_toDocument, c.readTimeout.isExact_toDocument, .bool _,
    isExact_uint32 _, .natCast c.chunkSize.toNat_lt_size,
    c.pollInterval.isExact_toDocument, .bool _, .text _⟩

theorem IdentityConfig.isExact_toDocument (c : IdentityConfig) : IsExact c.toDocument :=
  .of_forall (isExact_uint32 _)

theorem LoggingConfig.isExact_toDocument (c : LoggingConfig) : IsExact c.toDocument :=
  .of_forall ⟨.text _, .text _, .bool _, .bool _⟩

theorem Config.isExact_toDocument (c : Config) : IsExact c.toDocument :=
  .of_forall ⟨c.ping.isExact_toDocument, c.connect.isExact_toDocument,
    c.download.isExact_toDocument, c.identity.isExact_toDocument, c.logging.isExact_toDocument⟩

end Exact

end Reachability
