import ClusterMigration.Json.Basic
import ClusterMigration.Text.Base64
import ClusterMigration.Text.Quoted

/-!
# Artifacts

The objects that other objects refer to by name: secrets, which hold bytes, and
config maps, which hold text. All of them live in one namespace and hold one data
entry, whose key says what the entry is for.
-/

namespace ClusterMigration

/-- What the data of an artifact is for. -/
inductive Purpose where
  | htpasswd
  | keystone
  | basicAuth
  | literal
  | caBundle
  deriving DecidableEq, Repr

def Purpose.dataKey : Purpose → String
  | htpasswd => "htpasswd"
  | keystone => "keystone"
  | basicAuth => "basicAuth"
  | literal => "clientSecret"
  | caBundle => "ca.crt"

def Purpose.label : Purpose → String
  | htpasswd => "Htpasswd"
  | keystone => "Keystone"
  | basicAuth => "BasicAuth"
  | literal => "Literal"
  | caBundle => "CaBundle"

def configNamespace : String := "openshift-config"

structure Secret where
  name : String
  purpose : Purpose
  content : Bytes
  deriving DecidableEq, Repr

/-- A bundle of certificate authorities. -/
structure ConfigMap where
  name : String
  content : Bytes
  deriving DecidableEq, Repr

/-- A member that points at an artifact. -/
def reference (name : String) : Json :=
  .object [("name", .string name)]

def artifactMetadata (name : String) : Json :=
  .object [("name", .string name), ("namespace", .string configNamespace)]

namespace Secret

/-- The data entry holds the content in base 64. -/
def document (s : Secret) : Json :=
  .object [
    ("apiVersion", .string "v1"),
    ("kind", .string "Secret"),
    ("type", .string "Opaque"),
    ("metadata", artifactMetadata s.name),
    ("data", .object [(s.purpose.dataKey, .string (Base64.encode s.content))])]

def redacted (s : Secret) : String :=
  "Secret \x7b name: " ++ Quoted.quote s.name ++ ", namespace: " ++ Quoted.quote configNamespace
    ++ ", payload_kind: " ++ s.purpose.label ++ ", content: \"redacted\" \x7d"

end Secret

def ConfigMap.document (m : ConfigMap) : Json :=
  .object [
    ("apiVersion", .string "v1"),
    ("kind", .string "ConfigMap"),
    ("metadata", artifactMetadata m.name),
    ("data", .object [(Purpose.caBundle.dataKey, .string (Utf8.decodeLossy m.content))])]

end ClusterMigration
