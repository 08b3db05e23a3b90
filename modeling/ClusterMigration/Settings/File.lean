import ClusterMigration.Settings.Basic
import ClusterMigration.Storage.Basic
import ClusterMigration.Text.Blank
import ClusterMigration.Yaml.Record

/-!
# Settings from a file
-/

namespace ClusterMigration

namespace Settings

open Yaml (RecordField field readText readTextAs readFlag readRecord)

def fields : List (RecordField Settings) := [
  field "output_dir" (readTextAs "path string") fun v r => { r with outputDirectory := v },
  field "hostname" readText fun v r => { r with hostname := v },
  field "source_root" (readTextAs "path string") fun v r => { r with sourceRoot := v },
  field "master_config_file" readText fun v r => { r with sources.masterConfig := v },
  field "registries_config_file" readText fun v r => { r with sources.registriesConfig := v },
  field "crio_config_file" readText fun v r => { r with sources.crioConfig := v },
  field "manifests" readFlag fun v r => { r with manifests := v },
  field "reporting" readFlag fun v r => { r with reporting := v },
  field "debug" readFlag fun v r => { r with debug := v }]

/-- A text of blanks leaves everything as it is by default. -/
def ofYaml (text : String) : Except Yaml.ReadError Settings :=
  if Blank.isAllBlank text then .ok {}
  else Yaml.read (readRecord "struct Config" fields {}) {} (.ofBytes (Utf8.encode text))

def defaultFile : String := "cpma.yaml"

variable {m : Type → Type} [Monad m]

def ofFile (s : Storage m) (path : String) : m (Except SettingsError Settings) := do
  match ← s.readText path with
  | .error e => return .error (.unreadable path e.message)
  | .ok text =>
    match ofYaml text with
    | .ok settings => return .ok settings
    | .error e => return .error (.unparsable path e.message)

/-- Only the default file may be missing. -/
def load (s : System m) : Option String → m (Except SettingsError Settings)
  | some path => ofFile s.toStorage path
  | none => do
    if ← s.isPresent defaultFile then ofFile s.toStorage defaultFile
    else
      s.heed .noSettingsFile
      return .ok {}

end Settings

end ClusterMigration
