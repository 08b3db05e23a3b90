import ClusterMigration.Component.Basic

/-!
# Scheduler

The node selector that projects have by default.
-/

namespace ClusterMigration

namespace Component

namespace Scheduler

def name : String := "Scheduler"

def spec (selector : String) : Json := .object [("defaultNodeSelector", .string selector)]

def report (selector : String) : Report := ⟨name, [.carried selector "DefaultNodeSelector"]⟩

def validate (selector : String) : Except Failure Unit :=
  if selector.isEmpty then .error (.invalid "DefaultNodeSelector can't be empty") else .ok ()

def transform (selector : String) : List Notice × Except Failure (List Output) :=
  ([], .ok (resourceAndReport "scheduler" (clusterResource "Scheduler" (spec selector))
    (report selector)))

def gather (masterConfigFile : String) : Gather String := do
  return ((← masterConfig masterConfigFile).project.map (·.defaultNodeSelector)).getD ""

end Scheduler

def scheduler (masterConfigFile : String) : Component :=
  announced Scheduler.name (Scheduler.gather masterConfigFile) Scheduler.validate
    Scheduler.transform

end Component

end ClusterMigration
