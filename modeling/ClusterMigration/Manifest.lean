import ClusterMigration.Artifact
import ClusterMigration.Yaml.Printer

/-!
# Manifests

Files of the new cluster: a name and the document of one object.
-/

namespace ClusterMigration

structure Manifest where
  fileName : String
  content : Bytes
  deriving DecidableEq, Repr

structure Metadata where
  name : String
  /-- The namespace, where the object lives in one. -/
  home : Option String := none
  annotations : List (String × String) := []
  deriving Repr

namespace Metadata

/-- Annotations stay sorted by key, and a later value of a key replaces an earlier one. -/
def annotate (key value : String) (m : Metadata) : Metadata :=
  { m with annotations := put m.annotations }
where
  put : List (String × String) → List (String × String)
    | [] => [(key, value)]
    | (k, v) :: rest =>
      if key = k then (key, value) :: rest
      else if key < k then (key, value) :: (k, v) :: rest
      else (k, v) :: put rest

def toJson (m : Metadata) : Json :=
  let space := match m.home with
    | some n => [("namespace", Json.string n)]
    | none => []
  let annotations :=
    if m.annotations.isEmpty then []
    else [("annotations", Json.object (m.annotations.map fun (k, v) => (k, .string v)))]
  .object ([("name", .string m.name)] ++ space ++ annotations)

end Metadata

structure Resource where
  apiVersion : String
  kind : String
  metadata : Metadata
  spec : Json

def configVersion : String := "config.openshift.io/v1"

def Resource.document (r : Resource) : Json :=
  .object [
    ("apiVersion", .string r.apiVersion),
    ("kind", .string r.kind),
    ("metadata", r.metadata.toJson),
    ("spec", r.spec)]

namespace Manifest

def fileNameStart : String := "100_CPMA-cluster-config-"

def domainFileName (domain : String) : String := fileNameStart ++ domain ++ ".yaml"

def oauthFileName : String := domainFileName "oauth"

def secretFileName (name : String) : String := fileNameStart ++ "secret-" ++ name ++ ".yaml"

def configMapFileName (name : String) : String := fileNameStart ++ "configmap-" ++ name ++ ".yaml"

def ofDocument (fileName : String) (document : Json) : Manifest :=
  ⟨fileName, Utf8.encode (Yaml.render document)⟩

def ofResource (domain : String) (r : Resource) : Manifest :=
  ofDocument (domainFileName domain) r.document

def ofSecret (s : Secret) : Manifest :=
  ofDocument (secretFileName s.name) s.document

def ofConfigMap (m : ConfigMap) : Manifest :=
  ofDocument (configMapFileName m.name) m.document

end Manifest

end ClusterMigration
