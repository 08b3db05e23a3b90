import ClusterMigration.Text.Utf8

/-!
# Environments

Variables and their texts. A variable that is set to something else than text counts
as one that is not set.
-/

namespace ClusterMigration

abbrev Environment := String → Option String

namespace Environment

/-- The first of several entries for a name counts. -/
def ofEntries (entries : List (Bytes × Bytes)) : Environment := fun name =>
  (entries.lookup (Utf8.encode name)).bind Utf8.decode?

def entry (line : Bytes) : Bytes × Bytes :=
  let equals : UInt8 := 0x3D
  (line.takeWhile (· != equals), (line.dropWhile (· != equals)).drop 1)

/-- The lines of a block, each of which ends in a zero. -/
def lines (line : Bytes) : Bytes → List Bytes
  | [] => if line.isEmpty then [] else [line.reverse]
  | 0 :: rest => line.reverse :: lines [] rest
  | b :: rest => lines (b :: line) rest

def ofBlock (block : Bytes) : Environment := ofEntries ((lines [] block).map entry)

end Environment

end ClusterMigration
