import ClusterMigration.Settings.Basic
import ClusterMigration.Text.Blank

/-!
# Settings from the environment

Variables that are not set leave a setting as it is.
-/

namespace ClusterMigration

namespace Settings

namespace Variable

def outputDirectory : String := "CPMA_OUTPUT_DIR"
def hostname : String := "CPMA_HOSTNAME"
def sourceRoot : String := "CPMA_SOURCE_ROOT"
def masterConfig : String := "CPMA_MASTER_CONFIG_FILE"
def registriesConfig : String := "CPMA_REGISTRIES_CONFIG_FILE"
def crioConfig : String := "CPMA_CRIO_CONFIG_FILE"
def manifests : String := "CPMA_MANIFESTS"
def reporting : String := "CPMA_REPORTING"
def debug : String := "CPMA_DEBUG"

end Variable

/-- Blanks around a switch and the case of its letters do not matter. -/
def switch? (text : String) : Option Bool :=
  match (Blank.trim text).toLower with
  | "true" | "1" | "yes" => some true
  | "false" | "0" | "no" => some false
  | _ => none

def switchFrom (env : Environment) (name : String) (current : Bool) : Except SettingsError Bool :=
  match env name with
  | none => .ok current
  | some text =>
    match switch? text with
    | some b => .ok b
    | none => .error (.invalidValue name text)

def withEnvironment (env : Environment) (s : Settings) : Except SettingsError Settings := do
  let manifests ← switchFrom env Variable.manifests s.manifests
  let reporting ← switchFrom env Variable.reporting s.reporting
  let debug ← switchFrom env Variable.debug s.debug
  return {
    outputDirectory := (env Variable.outputDirectory).getD s.outputDirectory
    hostname := (env Variable.hostname).getD s.hostname
    sourceRoot := (env Variable.sourceRoot).getD s.sourceRoot
    sources := {
      masterConfig := (env Variable.masterConfig).getD s.sources.masterConfig
      registriesConfig := (env Variable.registriesConfig).getD s.sources.registriesConfig
      crioConfig := (env Variable.crioConfig).getD s.sources.crioConfig }
    manifests, reporting, debug }

end Settings

end ClusterMigration
