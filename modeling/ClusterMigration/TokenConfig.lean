import ClusterMigration.Json.Basic

/-!
# Token lifetimes
-/

namespace ClusterMigration

/-- How long tokens live, in seconds. -/
structure TokenConfig where
  accessTokenMaxAgeSeconds : Int := 0
  authorizeTokenMaxAgeSeconds : Int := 0
  deriving DecidableEq, Repr

def TokenConfig.toJson (t : TokenConfig) : Json :=
  .object [
    ("accessTokenMaxAgeSeconds", .integer t.accessTokenMaxAgeSeconds),
    ("authorizeTokenMaxAgeSeconds", .integer t.authorizeTokenMaxAgeSeconds)]

end ClusterMigration
