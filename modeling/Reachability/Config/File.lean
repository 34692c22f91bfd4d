/-
# Configuration files

A configuration is kept in one file, as JSON, TOML or YAML; the file's extension tells which.
What is read is validated, what is written is not.

Main definitions:

* `Document.Format.ofPath?` : the format that a path names;
* `Config.parse`, `Config.print` : between configurations and texts;
* `Config.load` : the configuration that a file holds;
* `Config.textFor` : the text that saves a configuration under a path;
* `Config.save` : saves a configuration under a path.
-/
import Reachability.Config.Document
import Reachability.Document.Json.Printer
import Reachability.Document.Json.Reader
import Reachability.Document.Toml.Printer
import Reachability.Document.Toml.Reader
import Reachability.Document.Yaml.Printer
import Reachability.Document.Yaml.Reader
import Reachability.Error
import Reachability.File.Tree
import Reachability.Text.Utf8

namespace Reachability

/-! ## Formats -/

/-- The format that the extension of a path names. -/
def Document.Format.ofPath? (path : RawText) : Option Document.Format :=
  match path.extension?.bind RawText.text? with
  | some "json" => some .json
  | some "toml" => some .toml
  | some "yaml" => some .yaml
  | some "yml" => some .yaml
  | _ => none

namespace Config

/-! ## Texts -/

/-- What a file is told that its format allows and that is no configuration. -/
def notAConfiguration : ConfigError := .invalidFormat "not a configuration"

/-- The configuration that a text holds. -/
def parse (temporary : RawText) (format : Document.Format) (text : String) :
    Except ConfigError Config := do
  let document ← match format with
    | .json => (Json.read? text).elim (.error notAConfiguration) .ok
    | .yaml => (Yaml.read? text).elim (.error notAConfiguration) .ok
    | .toml => (Toml.read text).mapError fun p => .invalidFormat (p.report text)
  (ofDocument? temporary format document).elim (.error notAConfiguration) .ok

/-- What is told of an integer for which TOML, with its 64 bits and a sign, has no room. -/
def wideInteger : ConfigError := .invalidFormat "out-of-range value for u64 type"

/-- What is told of a directory that is no text. -/
def directoryNotText : ConfigError :=
  .invalidFormat "path contains invalid UTF-8 characters"

/-- The text of a configuration. -/
def print (format : Document.Format) (c : Config) : Except ConfigError String := do
  -- all integers that may be wide come before the directory
  let text ← match format with
    | .json => .ok (Json.pretty c.toDocument)
    | .yaml => .ok (Yaml.print c.toDocument)
    | .toml => (Toml.print? c.toDocument).elim (.error wideInteger) .ok
  if c.download.directory.isText then return text else throw directoryNotText

/-! ## Files -/

/-- The valid configuration in a file with these bytes; `none` is a file that cannot be
read, as is one that is no text. -/
def load (temporary path : RawText) (content : Option (List UInt8)) :
    Except ConfigError Config := do
  let some chars := content.bind Utf8.decode? | throw (.fileNotFound path.shown)
  let some format := Document.Format.ofPath? path | throw .unsupportedFormat
  let config ← parse temporary format (String.ofList chars)
  config.validate
  return config

/-- The text that saves a configuration under a path. -/
def textFor (path : RawText) (c : Config) : Except ConfigError String := do
  let some format := Document.Format.ofPath? path | throw .unsupportedFormat
  c.print format

/-- Saves a configuration under a path; the text is made before the file is opened. -/
def save (path : RawText) (c : Config) (files : File.Tree) : Except Error Unit × File.Tree :=
  match c.textFor path with
  | .error e => (.error (.config e), files)
  | .ok text =>
      match files.openForWriting path with
      | .error fault => (.error (.io fault.message), files)
      | .ok (opened, handle) => (.ok (), (opened.writeAt handle (Utf8.encode text.toList)).1)

end Config
end Reachability
