import ClusterMigration.Migration
import ClusterMigration.Report.Page
import ClusterMigration.Storage.Basic

/-!
# The output directory

Manifests are written as they come, below a directory of their own. Reports are kept
together until the end, when two files show all of them.
-/

namespace ClusterMigration

namespace Destination

variable {m : Type → Type} [Monad m]

def manifestsDirectory : String := "manifests"

def jsonFile : String := "report.json"

def pageFile : String := "report.html"

def write (s : System m) (file : String) (content : Bytes) : m (Except DeliveryError Unit) := do
  match ← s.put file content with
  | .ok () => return .ok ()
  | .error e => return .error (.notWritten file e.message)

def manifestFile (directory : String) (x : Manifest) : String :=
  Path.join (Path.join directory manifestsDirectory) x.fileName

/-- Takes a manifest or a report; the state holds the reports so far. -/
def deliver (s : System m) (directory : String) :
    Delivery → StateT (List Report) m (Except DeliveryError Unit)
  | .manifest x => do
    let file := manifestFile directory x
    match ← liftM (write s file x.content) with
    | .error e => return .error e
    | .ok () =>
      liftM (s.heed (.manifestCreated file))
      return .ok ()
  | .report r => do
    modify (· ++ [r])
    return .ok ()

def finish (s : System m) (directory : String) (reports : List Report) :
    m (Except DeliveryError Unit) := do
  if reports.isEmpty then
    s.heed .noReports
    return .ok ()
  match ← write s (Path.join directory jsonFile) (Utf8.encode (Report.jsonText reports)) with
  | .error e => return .error e
  | .ok () =>
    match ← write s (Path.join directory pageFile) (Utf8.encode (Report.pageText reports)) with
    | .error e => return .error e
    | .ok () =>
      s.heed (.reportsWritten directory)
      return .ok ()

end Destination

end ClusterMigration
