import ClusterMigration.Artifact
import ClusterMigration.Component.Basic

/-!
# Projects
-/

namespace ClusterMigration

namespace Component

namespace Project

def name : String := "Project"

def afterLastSlash (text : List Char) : List Char :=
  (text.reverse.takeWhile (· ≠ '/')).reverse

/-- The name of a template that is given with its namespace or without. -/
def templateName? (template : String) : Option String :=
  let name := String.ofList (afterLastSlash template.toList)
  if name.isEmpty then none else some name

def allocatorRows (a : SecurityAllocator) : List Report.Row :=
  let row (kind value : String) : Report.Row :=
    .dropped value kind "Security allocator can't be configured in OCP4"
  [row "UIDAllocatorRange" a.uidRange, row "MCSAllocatorRange" a.mcsRange,
    row "MCSLabelsPerProject" (toString a.mcsLabelsPerProject)]

def rows (c : ProjectConfig) : List Report.Row :=
  let unlessEmpty (text : String) (row : Report.Row) := if text.isEmpty then [] else [row]
  unlessEmpty c.requestMessage (.carried c.requestMessage "ProjectRequestMessage")
    ++ unlessEmpty c.requestTemplate (.carried c.requestTemplate "ProjectRequestTemplate")
    ++ unlessEmpty c.defaultNodeSelector
      (.dropped c.defaultNodeSelector "DefaultNodeSelector" "Migrated by the Scheduler resource")
    ++ ((c.securityAllocator.map allocatorRows).getD [])

def spec (c : ProjectConfig) : Json :=
  let message :=
    if c.requestMessage.isEmpty then []
    else [("projectRequestMessage", Json.string c.requestMessage)]
  let template := (templateName? c.requestTemplate).toList.map fun name =>
    ("projectRequestTemplate", reference name)
  .object (message ++ template)

def validate : Option ProjectConfig → Except Failure Unit
  | none => .error (.invalid "no project configuration detected")
  | some _ => .ok ()

def transform : Option ProjectConfig → List Notice × Except Failure (List Output)
  | none => ([], .ok [])
  | some c =>
    ([], .ok (resourceAndReport "project" (clusterResource "Project" (spec c)) ⟨name, rows c⟩))

def gather (masterConfigFile : String) : Gather (Option ProjectConfig) := do
  return (← masterConfig masterConfigFile).project

end Project

def project (masterConfigFile : String) : Component :=
  announced Project.name (Project.gather masterConfigFile) Project.validate Project.transform

end Component

end ClusterMigration
