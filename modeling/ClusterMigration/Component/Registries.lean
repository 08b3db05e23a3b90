import ClusterMigration.Component.Basic
import ClusterMigration.Toml.Record

/-!
# Container registries

Read from the first version of the registries file. The new cluster has no counterpart
to the registries that are searched.
-/

namespace ClusterMigration

namespace Component

namespace Registries

open Toml (field readTexts readRecord)

def name : String := "Registries"

structure RegistryList where
  registries : List String := []
  deriving DecidableEq, Repr

structure Lists where
  search : RegistryList := {}
  insecure : RegistryList := {}
  block : RegistryList := {}
  deriving DecidableEq, Repr

structure File where
  registries : Lists := {}
  deriving DecidableEq, Repr

def RegistryList.fields : List (Toml.RecordField RegistryList) := [
  field "registries" readTexts fun v r => { r with registries := v }]

def readList (v : Toml.Value) : Except Mismatch RegistryList :=
  readRecord "struct RegistryList" RegistryList.fields {} v

def Lists.fields : List (Toml.RecordField Lists) := [
  field "search" readList fun v r => { r with search := v },
  field "insecure" readList fun v r => { r with insecure := v },
  field "block" readList fun v r => { r with block := v }]

def File.fields : List (Toml.RecordField File) := [
  field "registries" (readRecord "struct RegistryLists" Lists.fields {}) fun v r =>
    { r with registries := v }]

def gather (path : String) : Gather Lists := do
  match Toml.read File.fields {} (← .file path) with
  | .ok f => return f.registries
  | .error e => .fail (.unparsable path e.message)

def rows (l : Lists) : List Report.Row :=
  l.block.registries.map (.carried · "Blocked")
    ++ l.insecure.registries.map (.carried · "Insecure")
    ++ l.search.registries.map
      (.dropped · "Search" "Search registries can not be configured in OCP 4")

def spec (l : Lists) : Json :=
  let texts (key : String) (values : List String) : List (String × Json) :=
    if values.isEmpty then [] else [(key, .array (values.map .string))]
  .object [("registrySources", .object (
    texts "blockedRegistries" l.block.registries
      ++ texts "insecureRegistries" l.insecure.registries))]

def validate (l : Lists) : Except Failure Unit :=
  if l.search.registries.isEmpty ∧ l.insecure.registries.isEmpty ∧ l.block.registries.isEmpty then
    .error (.invalid "no configured registries detected, not generating a cr or report")
  else .ok ()

def transform (l : Lists) : List Notice × Except Failure (List Output) :=
  ([], .ok (resourceAndReport "registries" (createOnlyResource "Image" (spec l)) ⟨name, rows l⟩))

end Registries

def registries (registriesConfigFile : String) : Component :=
  announced Registries.name (Registries.gather registriesConfigFile) Registries.validate
    Registries.transform

end Component

end ClusterMigration
