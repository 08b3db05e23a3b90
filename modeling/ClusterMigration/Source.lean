import ClusterMigration.Failure
import ClusterMigration.Storage.Basic

/-!
# Source files

The files of the old cluster lie below a directory as they lay below its root. Those
that have been read are kept in a cache, which from then on stands in for the source.
-/

namespace ClusterMigration

namespace Source

variable {m : Type → Type} [Monad m]

/-- The place below `directory` for a file of the old cluster. -/
def place (directory path : String) : String :=
  Path.join directory (Path.relative path)

def readLocal (s : System m) (root path : String) : m (Except FetchError Bytes) := do
  let file := place root path
  s.heed (.reading file)
  match ← s.read file with
  | .ok content => return .ok content
  | .error e => return .error (.unreadable path e.message)

/-- Reads from the cache, or else from `source`, of which the cache then keeps the
answer. A file that cannot be kept is not used either. -/
def readCached (s : System m) (cache : String) (source : String → m (Except FetchError Bytes))
    (path : String) : m (Except FetchError Bytes) := do
  let file := place cache path
  match ← s.read file with
  | .ok content =>
    s.heed (.cacheHit path)
    return .ok content
  | .error _ =>
    s.heed (.cacheMiss path)
    match ← source path with
    | .error e => return .error e
    | .ok content =>
      match ← s.put file content with
      | .ok () => return .ok content
      | .error e => return .error (.notKept file e.message)

end Source

end ClusterMigration
