/-!
# Notices

What a migration tells about its progress.
-/

namespace ClusterMigration

inductive Stage where
  | extract
  | validate
  | transform
  | flush
  deriving DecidableEq, Repr

def Stage.label : Stage → String
  | extract => "extract"
  | validate => "validate"
  | transform => "transform"
  | flush => "flush"

inductive Level where
  | debug
  | info
  | warn
  deriving DecidableEq, Repr

namespace Level

def label : Level → String
  | debug => "DEBUG"
  | info => "INFO"
  | warn => "WARN"

/-- Shown also where nobody asked to be told about progress. -/
def isWarning : Level → Bool
  | warn => true
  | _ => false

end Level

inductive Notice where
  | running (component : String)
  | extracting (component : String)
  | transforming (component : String)
  | skipping (component : String) (stage : Stage) (reason : String)
  | flushed (component : String) (outputs : Nat)
  | extractedProvider (kind name : String)
  | providerBegun (kind name : String)
  | unknownKind (kind : String)
  | movingHtpasswd (file : String)
  | keystoneIdentity
  | repeatedSecret (name : String)
  | repeatedConfigMap (name : String)
  | reading (path : String)
  | cacheHit (path : String)
  | cacheMiss (path : String)
  | manifestCreated (path : String)
  | reportsWritten (directory : String)
  | noReports
  | noSettingsFile
  | componentDone (component : String)
  | componentSkipped (component : String) (stage : Stage) (reason : String)
  | finished (directory : String)
  deriving DecidableEq, Repr

namespace Notice

def level : Notice → Level
  | running _ | extracting _ | transforming _ | manifestCreated _ | reportsWritten _
  | componentDone _ | finished _ => .info
  | skipping .. | unknownKind _ | keystoneIdentity | repeatedSecret _ | repeatedConfigMap _
  | componentSkipped .. => .warn
  | _ => .debug

def message : Notice → String
  | running c => c ++ "Transform::Run"
  | extracting c => c ++ "Transform::Extract"
  | transforming c => c ++ "Transform::Transform"
  | skipping c stage reason =>
    "Skipping " ++ c ++ ": " ++ stage.label ++ " failed: " ++ reason
  | flushed c n => s!"{c} flushed {n} outputs"
  | extractedProvider kind name => "extracted " ++ kind ++ " provider " ++ name
  | providerBegun kind name => "translating " ++ kind ++ " provider " ++ name
  | unknownKind kind => "Can't handle " ++ kind ++ " OAuth kind"
  | movingHtpasswd file => "moving htpasswd file " ++ file ++ " into htpasswd-secret"
  | keystoneIdentity => "Keystone useKeystoneIdentity value is not supported in OCP4"
  | repeatedSecret name =>
    "Duplicate secret name " ++ name ++ ", a later manifest will overwrite an earlier one"
  | repeatedConfigMap name =>
    "Duplicate configmap name " ++ name ++ ", a later manifest will overwrite an earlier one"
  | reading path => "reading " ++ path
  | cacheHit path => "cache hit for " ++ path
  | cacheMiss path => "cache miss for " ++ path ++ ", fetching from source"
  | manifestCreated path => "CR manifest created: " ++ path
  | reportsWritten directory => "Reports written to " ++ directory
  | noReports => "no component reports to write"
  | noSettingsFile => "no config file, using defaults"
  | componentDone c => c ++ ": done"
  | componentSkipped c stage reason => c ++ ": skipped at " ++ stage.label ++ ": " ++ reason
  | finished directory => "Migration finished, output written to " ++ directory

def line (n : Notice) : String := n.level.label ++ " " ++ n.message

end Notice

end ClusterMigration
