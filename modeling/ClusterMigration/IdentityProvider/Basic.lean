import ClusterMigration.IdentityProvider.Rule
import ClusterMigration.Json.Parser

/-!
# Identity providers

A provider as it comes out of the old cluster: its settings are still bytes,
because their shape depends on the kind, and the files that they name have been
read. A provider of an unknown kind has no settings.
-/

namespace ClusterMigration

structure SideFiles where
  htpasswd : Bytes := []
  ca : Bytes := []
  cert : Bytes := []
  key : Bytes := []
  clientSecret : Option String := none
  bindPassword : Option String := none
  deriving DecidableEq, Repr

/-- A text for logs that shows sizes only, and of keys and secrets not even those. -/
def SideFiles.redacted (f : SideFiles) : String :=
  let size (content : Bytes) := Quoted.quote (toString content.length ++ " bytes")
  "SideFiles \x7b htpasswd: " ++ size f.htpasswd ++ ", ca: " ++ size f.ca ++ ", cert: "
    ++ size f.cert ++ ", key: \"redacted\", client_secret: \"redacted\", "
    ++ "bind_password: \"redacted\" \x7d"

structure IdentityProvider where
  kind : String
  mappingMethod : String
  name : String
  payload : Bytes
  sideFiles : SideFiles := {}
  challenge : Bool
  login : Bool
  deriving DecidableEq, Repr

namespace IdentityProvider

inductive ProviderError where
  | undecodable (name kind reason : String)
  | invalid (v : Violation)
  deriving DecidableEq, Repr

def ProviderError.message : ProviderError → String
  | undecodable name kind reason =>
    "unable to decode \x60" ++ kind ++ "\x60 provider \x60" ++ name ++ "\x60: \x60" ++ reason
      ++ "\x60"
  | invalid v => v.message

def kind? (p : IdentityProvider) : Option Kind := Kind.ofSource? p.kind

/-- Why bytes are no settings: they are not even JSON, or not of the shape expected. -/
inductive PayloadError where
  | malformed
  | mismatch (m : Mismatch)
  deriving DecidableEq, Repr

/-- What a parser says of its own is left out: the place of a mismatch, and which rule of the
syntax is broken, which has one constant text. -/
def PayloadError.message : PayloadError → String
  | malformed => "<json>"
  | mismatch m => m.message Spelling.json

/-- Members that are null count as absent. -/
def readPayload (payload : Bytes) (k : Kind) : Except PayloadError Settings :=
  match Json.parseBytes? payload with
  | none => .error .malformed
  | some v => (Settings.read v.dropNulls k).mapError .mismatch

def settings (p : IdentityProvider) : Except ProviderError (Option Settings) :=
  match p.kind? with
  | none => .ok none
  | some k =>
    match readPayload p.payload k with
    | .ok s => .ok (some s)
    | .error e => .error (.undecodable p.name p.kind e.message)

def rules (p : IdentityProvider) (s : Settings) : List Rule :=
  commonRules p.name p.mappingMethod ++ s.rules

def check (p : IdentityProvider) : Except ProviderError Unit :=
  match p.settings with
  | .error e => .error e
  | .ok none => .ok ()
  | .ok (some s) =>
    match firstViolation? (p.rules s) with
    | none => .ok ()
    | some v => .error (.invalid v)

def validate : List IdentityProvider → Except ProviderError Unit
  | [] => .ok ()
  | p :: rest =>
    match p.check with
    | .ok () => validate rest
    | .error e => .error e

end IdentityProvider

end ClusterMigration
