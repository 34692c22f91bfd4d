/-
# Saved configurations

What is saved under a writable path is read from it: the configuration itself if it is accepted,
else the rule that it breaks.  JSON saves every configuration whose directory of downloads is a
text; TOML saves those of them in which no integer has more than 63 bits.  Where nothing is saved,
no file is touched.

Main definitions:

* `File.Tree.IsWritable` : a file can be opened for writing under a path.

Main results:

* `Tree.find_writeAt` : what is written to a file that was opened under a path is found there;
* `save_eq_ok`, `save_eq_error` : a configuration is saved if it has a text, and only then;
* `load_encode` : a text that is read as a configuration loads it;
* `load_save_json`, `load_save_toml` : **what is saved is loaded**.
-/
import Reachability.Cli.Run
import Reachability.Proofs.Config.Toml
import Reachability.Proofs.File.Change

namespace Reachability

/-! ## Files -/

namespace File.Tree

/-- A file can be opened for writing under a path. -/
def IsWritable (t : Tree) (path : RawText) : Prop :=
  ∃ t' h, t.openForWriting path = .ok (t', h)

/-- What is written to a file that was opened under a path is found there. -/
theorem find_writeAt {t t' : Tree} {path : RawText} {h : Handle}
    (opened : t.openForWriting path = .ok (t', h)) (bytes : List UInt8) :
    (t'.writeAt h bytes).1.find path = .ok (.file h.serial bytes) := by
  obtain ⟨leads, start, -, -, change⟩ := openForWriting_cases opened
  have keeps := (keeps_openForWriting opened).trans (keeps_writeAt t' h bytes)
  have there : t'.node? h.route = some (.file h.serial []) := by rw [change, if_pos rfl]
  have written : (t'.writeAt h bytes).1.node? h.route = some (.file h.serial bytes) := by
    rw [node?_writeAt there start bytes, if_pos rfl, List.nil_append]
  exact (keeps.leadsTo leads).find written

end File.Tree

namespace Config

open Document

variable {temporary path : RawText} {format : Format} {c : Config} {files : File.Tree}

/-! ## Texts -/

/-- In JSON there is a text, if the directory of downloads is one. -/
theorem print_json (c : Config) : c.print .json =
    if c.download.directory.isText then .ok (Json.pretty c.toDocument)
    else .error directoryNotText := by
  rw [print]
  split <;> rfl

/-- A configuration is read from its own text in JSON. -/
theorem parse_json (text : c.download.directory.isText = true) :
    parse temporary .json (Json.pretty c.toDocument) = .ok c := by
  rw [parse, Json.read?_pretty c.isExact_toDocument]
  change (ofDocument? temporary .json c.toDocument).elim _ _ = _
  rw [ofDocument?_toDocument text]
  rfl

/-- The format that the path names makes the text. -/
theorem textFor_eq (named : Format.ofPath? path = some format) :
    c.textFor path = c.print format := by
  unfold textFor
  rw [named]

/-- The text is written to the file that is opened. -/
theorem save_eq_ok {text : String} (made : c.textFor path = .ok text) {opened : File.Tree}
    {handle : File.Tree.Handle} (ready : files.openForWriting path = .ok (opened, handle)) :
    c.save path files = (.ok (), (opened.writeAt handle (Utf8.encode text.toList)).1) := by
  unfold save
  rw [made]
  dsimp only
  rw [ready]

/-- Without a text no file is opened. -/
theorem save_eq_error {e : ConfigError} (unmade : c.textFor path = .error e) :
    c.save path files = (.error (.config e), files) := by
  unfold save
  rw [unmade]

/-- A text that is read as a configuration loads it if it is accepted. -/
theorem load_encode (named : Format.ofPath? path = some format) {text : String}
    (read : parse temporary format text = .ok c) :
    load temporary path (some (Utf8.encode text.toList)) = c.validate.map fun () => c := by
  have chars : (some (Utf8.encode text.toList)).bind Utf8.decode? = some text.toList :=
    Utf8.decode?_encode text.toList
  unfold load
  rw [chars, named]
  change (parse temporary format (String.ofList text.toList) >>= fun config =>
    config.validate >>= fun _ => .ok config) = _
  rw [String.ofList_toList, read]
  change (c.validate >>= fun _ => Except.ok c) = _
  cases c.validate <;> rfl

/-- A configuration that has a text is saved, and loaded if it is accepted. -/
theorem load_save (named : Format.ofPath? path = some format) {text : String}
    (printed : c.print format = .ok text) (read : parse temporary format text = .ok c)
    (writable : files.IsWritable path) :
    (c.save path files).1 = .ok () ∧
      load temporary path (Cli.fileContent? (c.save path files).2 path) =
        c.validate.map fun () => c := by
  obtain ⟨opened, handle, ready⟩ := writable
  have saved := save_eq_ok ((textFor_eq named).trans printed) ready
  have found : Cli.fileContent? (opened.writeAt handle (Utf8.encode text.toList)).1 path =
      some (Utf8.encode text.toList) := by
    rw [Cli.fileContent?, File.Tree.find_writeAt ready]
  rw [saved]
  exact ⟨rfl, by rw [found, load_encode named read]⟩

/-! ## Formats -/

/-- **Saved as JSON.**  Under a writable path a configuration is saved if the directory of its
downloads is a text, and only then; and what is loaded from that path is the configuration itself if
it is accepted and the rule that it breaks otherwise. -/
theorem load_save_json (json : Format.ofPath? path = some .json) (c : Config)
    (writable : files.IsWritable path) :
    ((c.save path files).1 = .ok () ↔ c.download.directory.isText = true) ∧
      ((c.save path files).1 = .ok () →
        load temporary path (Cli.fileContent? (c.save path files).2 path) =
          c.validate.map fun () => c) := by
  cases text : c.download.directory.isText with
  | true =>
    have printed := (print_json c).trans (if_pos text)
    have read : parse temporary .json (Json.pretty c.toDocument) = .ok c := parse_json text
    obtain ⟨saved, loaded⟩ := load_save json printed read writable
    exact ⟨iff_of_true saved rfl, fun _ => loaded⟩
  | false =>
    have failed : c.save path files = (.error (.config directoryNotText), files) :=
      save_eq_error ((textFor_eq json).trans ((print_json c).trans (if_neg (by simp [text]))))
    rw [failed]
    exact ⟨iff_of_false nofun nofun, nofun⟩

/-- A configuration with quotes of both kinds and a line end in the path of its directory. -/
def quotedDirectory : Config := { download := { directory := "a\"\"\"\n'b\\" } }

theorem load_save_json_quotedDirectory :
    Format.ofPath? "out.json" = some .json ∧ File.Tree.IsWritable {} "out.json" ∧
      quotedDirectory.validate = .ok () ∧
      (quotedDirectory.save "out.json" {}).1 = .ok () ∧
      load "/tmp" "out.json" (Cli.fileContent? (quotedDirectory.save "out.json" {}).2 "out.json") =
        .ok quotedDirectory := by
  have json : Format.ofPath? "out.json" = some .json := by decide
  have writable : File.Tree.IsWritable {} "out.json" := ⟨_, _, rfl⟩
  have accepted : quotedDirectory.validate = .ok () := by decide
  obtain ⟨saves, loads⟩ := load_save_json json quotedDirectory writable
  have saved := saves.2 (RawText.isText_ofText _)
  refine ⟨json, writable, accepted, saved, ?_⟩
  rw [loads saved, accepted]
  rfl

/-- **Saved as TOML.**  Under a writable path saving fails with an invalid format exactly for the
configurations with a wide integer or a directory of downloads that is no text, and then no file is
touched.  All others are saved, and what is loaded from that path is the configuration itself if it
is accepted and the rule that it breaks otherwise. -/
theorem load_save_toml (toml : Format.ofPath? path = some .toml) (c : Config)
    (writable : files.IsWritable path) :
    ((∃ reason, (c.save path files).1 = .error (.config (.invalidFormat reason))) ↔
        c.HasWideInteger ∨ c.download.directory.isText = false) ∧
      (c.HasWideInteger ∨ c.download.directory.isText = false →
        (c.save path files).2 = files) ∧
      (¬c.HasWideInteger → c.download.directory.isText = true →
        (c.save path files).1 = .ok () ∧
          load temporary path (Cli.fileContent? (c.save path files).2 path) =
            c.validate.map fun () => c) := by
  have fails (odd : c.HasWideInteger ∨ c.download.directory.isText = false) : ∃ reason,
      c.save path files = (.error (.config (.invalidFormat reason)), files) := by
    by_cases wide : c.HasWideInteger
    · exact ⟨_, save_eq_error ((textFor_eq toml).trans (print_toml_of_wide wide))⟩
    · exact ⟨_, save_eq_error ((textFor_eq toml).trans
        ((exists_print_toml wide).1 (odd.resolve_left wide)))⟩
  have succeeds (narrow : ¬c.HasWideInteger) (isText : c.download.directory.isText = true) :
      (c.save path files).1 = .ok () ∧
        load temporary path (Cli.fileContent? (c.save path files).2 path) =
          c.validate.map fun () => c := by
    obtain ⟨text, printed, read⟩ := (exists_print_toml narrow).2 isText
    exact load_save toml printed (read temporary) writable
  refine ⟨⟨?_, ?_⟩, ?_, succeeds⟩
  · rintro ⟨reason, failed⟩
    by_contra plain
    rw [not_or, Bool.not_eq_false] at plain
    rw [(succeeds plain.1 plain.2).1] at failed
    cases failed
  · intro odd
    obtain ⟨reason, failed⟩ := fails odd
    exact ⟨reason, by rw [failed]⟩
  · intro odd
    obtain ⟨reason, failed⟩ := fails odd
    rw [failed]

theorem load_save_toml_quotedDirectory :
    Format.ofPath? "out.toml" = some .toml ∧ File.Tree.IsWritable {} "out.toml" ∧
      quotedDirectory.validate = .ok () ∧ ¬quotedDirectory.HasWideInteger ∧
      (quotedDirectory.save "out.toml" {}).1 = .ok () ∧
      load "/tmp" "out.toml" (Cli.fileContent? (quotedDirectory.save "out.toml" {}).2 "out.toml") =
        .ok quotedDirectory := by
  have toml : Format.ofPath? "out.toml" = some .toml := by decide
  have writable : File.Tree.IsWritable {} "out.toml" := ⟨_, _, rfl⟩
  have accepted : quotedDirectory.validate = .ok () := by decide
  have narrow : ¬quotedDirectory.HasWideInteger := by decide
  obtain ⟨saved, loaded⟩ :=
    (load_save_toml toml quotedDirectory writable).2.2 narrow (RawText.isText_ofText _)
  rw [accepted] at loaded
  exact ⟨toml, writable, accepted, narrow, saved, loaded⟩

/-- A directory whose path is no text keeps a configuration without wide integers from being saved,
although it is accepted. -/
theorem unsaved_rawDirectory :
    let c : Config := { download := { directory := ⟨[0x2f, 0x74, 0x6d, 0x70, 0x2f, 0xff]⟩ } }
    Format.ofPath? "out.toml" = some .toml ∧ File.Tree.IsWritable {} "out.toml" ∧
      c.validate = .ok () ∧ ¬c.HasWideInteger ∧
      ∃ reason, (c.save "out.toml" {}).1 = .error (.config (.invalidFormat reason)) := by
  intro c
  have toml : Format.ofPath? "out.toml" = some .toml := by decide
  have narrow : ¬c.HasWideInteger := by decide
  have raw : c.download.directory.isText = false := by decide
  have failed : c.save "out.toml" {} = (.error (.config directoryNotText), {}) :=
    save_eq_error ((textFor_eq toml).trans ((exists_print_toml narrow).1 raw))
  exact ⟨toml, ⟨_, _, rfl⟩, by decide, narrow, _, congrArg Prod.fst failed⟩

end Config
end Reachability
