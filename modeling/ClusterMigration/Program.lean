import ClusterMigration.Destination
import ClusterMigration.Settings.Environment
import ClusterMigration.Settings.File
import ClusterMigration.Settings.Overrides
import ClusterMigration.Source

/-!
# The program

The command line names the settings, and the settings say what is migrated and where
to. Components that were skipped do not make a run fail.
-/

namespace ClusterMigration

inductive Ending where
  | migrated (summary : Summary)
  | refused (r : Refusal)
  | misconfigured (e : SettingsError)
  | reportsLost (e : DeliveryError)
  deriving DecidableEq, Repr

def Ending.exitCode : Ending → Nat
  | migrated _ => 0
  | refused .helpWanted => 0
  | refused _ => 2
  | misconfigured _ | reportsLost _ => 1

namespace Program

variable {m : Type → Type} [Monad m]

def settings (s : Storage m) (env : Environment) (given : CommandLine.Given) :
    m (Except SettingsError Settings) := do
  let unheard : System m := { s with heed := fun _ => pure () }
  match ← Settings.load unheard (given.lookup .settingsFile) with
  | .error e => return .error e
  | .ok settings => return (settings.withEnvironment env).map (Overrides.ofGiven given).apply

/-- The host that reads through the cache and writes to the output directory. -/
def host (s : System m) (settings : Settings) (output : String) :
    Host (StateT (List Report) m) where
  fetch path := liftM (Source.readCached s settings.cacheDirectory
    (Source.readLocal s settings.sourceRoot) path)
  deliver := Destination.deliver s output
  heed n := liftM (s.heed n)

def migrate (s : System m) (env : Environment) (settings : Settings) :
    m (Except DeliveryError Summary) := do
  let components := Component.all env settings.sources
  let (summary, reports) ←
    (Migration.run (host s settings settings.outputDirectory) settings.outputOptions
      components).run []
  match ← Destination.finish s settings.outputDirectory reports with
  | .error e => return .error e
  | .ok () =>
    for (name, outcome) in summary do
      match outcome with
      | .flushed => s.heed (.componentDone name)
      | .skipped stage reason => s.heed (.componentSkipped name stage reason)
    s.heed (.finished settings.outputDirectory)
    return .ok summary

def run (s : Storage m) (heed : Settings → Notice → m Unit) (env : Environment)
    (arguments : List String) : m Ending := do
  match CommandLine.read (.settingsFile :: Overrides.flags) arguments with
  | .error r => return .refused r
  | .ok given =>
    match ← settings s env given with
    | .error e => return .misconfigured e
    | .ok settings =>
      match ← migrate { s with heed := heed settings } env settings with
      | .error e => return .reportsLost e
      | .ok summary => return .migrated summary

end Program

end ClusterMigration
