import ClusterMigration.Component.All
import ClusterMigration.Migration
import ClusterMigration.Storage.Path

/-!
# Settings

What a run is told about its surroundings: by default, by a file, by the environment,
and by the command line, each of which prevails over those before it.
-/

namespace ClusterMigration

structure Settings where
  outputDirectory : String := "data"
  /-- The host that the files were taken from. It has a cache of its own. -/
  hostname : String := ""
  /-- The directory below which the files of the old cluster lie. -/
  sourceRoot : String := "/"
  sources : SourcePaths := {
    masterConfig := "/etc/origin/master/master-config.yaml"
    registriesConfig := "/etc/containers/registries.conf"
    crioConfig := "/etc/crio/crio.conf" }
  manifests : Bool := true
  reporting : Bool := true
  debug : Bool := false
  deriving DecidableEq, Repr

inductive SettingsError where
  | unreadable (path reason : String)
  | unparsable (path reason : String)
  | invalidValue (name value : String)
  deriving DecidableEq, Repr

def SettingsError.message : SettingsError → String
  | unreadable path reason =>
    "unable to read config file \x60" ++ path ++ "\x60: \x60" ++ reason ++ "\x60"
  | unparsable path reason =>
    "unable to parse config file \x60" ++ path ++ "\x60: \x60" ++ reason ++ "\x60"
  | invalidValue name value => "invalid value \x60" ++ value ++ "\x60 for \x60" ++ name ++ "\x60"

namespace Settings

def cacheDirectory (s : Settings) : String :=
  let cache := Path.join s.outputDirectory ".cache"
  if s.hostname.isEmpty then cache else Path.join cache s.hostname

def outputOptions (s : Settings) : OutputOptions := ⟨s.manifests, s.reporting⟩

end Settings

end ClusterMigration
