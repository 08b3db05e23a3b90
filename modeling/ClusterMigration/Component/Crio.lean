import ClusterMigration.Component.Basic
import ClusterMigration.Toml.Record

/-!
# Container runtime
-/

namespace ClusterMigration

namespace Component

namespace Crio

open Toml (field readText readInteger readRecord)

def name : String := "Crio"

structure Runtime where
  pidsLimit : Option Int := none
  logLevel : Option String := none
  logSizeMax : Option Int := none
  deriving DecidableEq, Repr

structure Section where
  runtime : Runtime := {}
  deriving DecidableEq, Repr

structure File where
  crio : Section := {}
  deriving DecidableEq, Repr

def Runtime.isEmpty (r : Runtime) : Bool :=
  r.pidsLimit.isNone && r.logLevel.isNone && r.logSizeMax.isNone

def Runtime.fields : List (Toml.RecordField Runtime) := [
  field "pids_limit" readInteger fun v r => { r with pidsLimit := some v },
  field "log_level" readText fun v r => { r with logLevel := some v },
  field "log_size_max" readInteger fun v r => { r with logSizeMax := some v }]

def Section.fields : List (Toml.RecordField Section) := [
  field "runtime" (readRecord "struct RuntimeSection" Runtime.fields {}) fun v r =>
    { r with runtime := v }]

def File.fields : List (Toml.RecordField File) := [
  field "crio" (readRecord "struct CrioSection" Section.fields {}) fun v r => { r with crio := v }]

def gather (path : String) : Gather Runtime := do
  match Toml.read File.fields {} (← .file path) with
  | .ok f => return f.crio.runtime
  | .error e => .fail (.unparsable path e.message)

def rows (r : Runtime) : List Report.Row :=
  r.pidsLimit.toList.map (fun n => .carried (toString n) "pidsLimit")
    ++ r.logLevel.toList.map (.carried · "logLevel")
    ++ r.logSizeMax.toList.map (fun n => .carried (toString n) "logSizeMax")

def spec (r : Runtime) : Json :=
  .object [
    ("machineConfigPoolSelector", .object [
      ("matchLabels", .object [("custom-crio", .string "high-pid-limit")])]),
    ("containerRuntimeConfig", .object (
      r.pidsLimit.toList.map (fun n => ("pidsLimit", .integer n))
        ++ r.logLevel.toList.map (fun s => ("logLevel", .string s))
        ++ r.logSizeMax.toList.map fun n => ("logSizeMax", .integer n)))]

def resource (r : Runtime) : Resource :=
  ⟨"machineconfiguration.openshift.io/v1", "ContainerRuntimeConfig",
    { name := "set-log-and-pid" }, spec r⟩

def validate (r : Runtime) : Except Failure Unit :=
  if r.isEmpty then .error (.invalid "no supported crio configuration found") else .ok ()

def transform (r : Runtime) : List Notice × Except Failure (List Output) :=
  ([], .ok (resourceAndReport "crio" (resource r) ⟨name, rows r⟩))

end Crio

def crio (crioConfigFile : String) : Component :=
  announced Crio.name (Crio.gather crioConfigFile) Crio.validate Crio.transform

end Component

end ClusterMigration
