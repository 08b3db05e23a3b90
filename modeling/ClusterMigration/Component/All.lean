import ClusterMigration.Component.Crio
import ClusterMigration.Component.Image
import ClusterMigration.Component.OAuth
import ClusterMigration.Component.Project
import ClusterMigration.Component.Registries
import ClusterMigration.Component.Scheduler
import ClusterMigration.Component.Sdn

/-!
# All components
-/

namespace ClusterMigration

structure SourcePaths where
  masterConfig : String
  registriesConfig : String
  crioConfig : String
  deriving DecidableEq, Repr

namespace Component

def all (env : Environment) (paths : SourcePaths) : List Component := [
  oauth env paths.masterConfig,
  sdn paths.masterConfig,
  image paths.masterConfig,
  registries paths.registriesConfig,
  project paths.masterConfig,
  scheduler paths.masterConfig,
  crio paths.crioConfig]

end Component

end ClusterMigration
