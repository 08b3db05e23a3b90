import ClusterMigration.Component.Basic
import ClusterMigration.IdentityProvider.Package

/-!
# OAuth

Identity providers, token lifetimes and pages. The files that a provider names are
gathered before its settings are read in full, by a look at the few settings that name
files; settings that do not even allow this name no files.
-/

namespace ClusterMigration

namespace Component

namespace OAuth

open Json (field readText)

def name : String := "OAuth"

/-- The settings of any kind of provider that say where contents come from. -/
structure FileReferences where
  file : String := ""
  ca : String := ""
  clientCa : String := ""
  certFile : String := ""
  keyFile : String := ""
  clientSecret : Option StringSource := none
  bindPassword : Option StringSource := none
  deriving DecidableEq, Repr

namespace FileReferences

def readSource : Json → Except Mismatch (Option StringSource)
  | .null => .ok none
  | v => (StringSource.read v).map some

def fields : List (Json.RecordField FileReferences) := [
  field "file" readText fun v r => { r with file := v },
  field "ca" readText fun v r => { r with ca := v },
  field "clientCA" readText fun v r => { r with clientCa := v },
  field "certFile" readText fun v r => { r with certFile := v },
  field "keyFile" readText fun v r => { r with keyFile := v },
  field "clientSecret" readSource fun v r => { r with clientSecret := v },
  field "bindPassword" readSource fun v r => { r with bindPassword := v }]

def read (v : Json) : Except Mismatch FileReferences :=
  Json.readRecord "struct ProviderFiles" fields {} v

def readOrEmpty (v : Json) : FileReferences :=
  match read v with
  | .ok r => r
  | .error _ => {}

/-- The file of the certificate authorities, under either of its names. -/
def authorities (r : FileReferences) : String := if r.ca.isEmpty then r.clientCa else r.ca

end FileReferences

def fileIfNamed (path : String) : Gather Bytes :=
  if path.isEmpty then pure [] else .file path

/-- Text of a file without the line feed at its end. -/
def textOfFile (content : Bytes) : String :=
  let chars := (Utf8.decodeLossy content).toList
  String.ofList (if chars.getLast? = some '\n' then chars.dropLast else chars)

/-- A value goes before a file, and a file before a variable. An encrypted source stays
unresolved. -/
def resolve (env : Environment) : Option StringSource → Gather (Option String)
  | none => pure none
  | some s =>
    if s.isEncrypted then pure none
    else if !s.value.isEmpty then pure (some s.value)
    else if !s.file.isEmpty then do return some (textOfFile (← .file s.file))
    else if !s.env.isEmpty then pure (some ((env s.env).getD ""))
    else pure none

def sideFiles (env : Environment) (r : FileReferences) : Gather SideFiles := do
  return {
    htpasswd := ← fileIfNamed r.file
    ca := ← fileIfNamed r.authorities
    cert := ← fileIfNamed r.certFile
    key := ← fileIfNamed r.keyFile
    clientSecret := ← resolve env r.clientSecret
    bindPassword := ← resolve env r.bindPassword }

def kindOf (settings : Json) : String :=
  ((settings.member? "kind").bind Json.text?).getD ""

/-- A provider of an unknown kind is dropped later, so its files are not needed. -/
def provider (env : Environment) (e : ProviderEntry) : Gather IdentityProvider := do
  let settings := e.provider.dropNulls
  let kind := kindOf settings
  let files ←
    if (IdentityProvider.Kind.ofSource? kind).isSome then
      sideFiles env (.readOrEmpty settings)
    else pure {}
  .tell (.extractedProvider kind e.name)
  return {
    kind
    mappingMethod := e.mappingMethod
    name := e.name
    payload := Utf8.encode settings.toCompact
    sideFiles := files
    challenge := e.challenge
    login := e.login }

def providers (env : Environment) : List ProviderEntry → Gather (List IdentityProvider)
  | [] => pure []
  | e :: rest => do return (← provider env e) :: (← providers env rest)

def pageIfNamed (path : String) : Gather (Option Bytes) :=
  if path.isEmpty then pure none else do return some (← .file path)

def templates : Option TemplatePaths → Gather Templates
  | none => pure {}
  | some t => do
    return {
      login := ← pageIfNamed t.login
      error := ← pageIfNamed t.error
      providerSelection := ← pageIfNamed t.providerSelection }

structure Data where
  providers : List IdentityProvider := []
  tokenConfig : Option TokenConfig := none
  templates : Templates := {}
  deriving DecidableEq, Repr

def gather (env : Environment) (masterConfigFile : String) : Gather Data := do
  match (← masterConfig masterConfigFile).oauth with
  | none => return {}
  | some c => do
    return {
      providers := ← providers env c.identityProviders
      tokenConfig := c.tokenConfig
      templates := ← templates c.templates }

/-! ## Output -/

def providerRow (p : IdentityProvider) : Report.Row :=
  match p.kind? with
  | none => .dropped p.name p.kind "Identity provider kind is not supported in OCP4"
  | some .ldap =>
    { Report.Row.carried p.name p.kind with
      confidence := .part
      comment := "Bind password is inlined in the OAuth resource" }
  | some _ => .carried p.name p.kind

def templateRow (name : String) (page : Option Bytes) : List Report.Row :=
  if page.isSome then [.carried name "Templates"] else []

def rows (d : Data) : List Report.Row :=
  d.providers.map providerRow
    ++ (if d.tokenConfig.isSome then
      [.carried "AccessTokenMaxAgeSeconds" "TokenConfig",
        .carried "AuthorizeTokenMaxAgeSeconds" "TokenConfig"]
      else [])
    ++ templateRow "Login" d.templates.login
    ++ templateRow "Error" d.templates.error
    ++ templateRow "ProviderSelection" d.templates.providerSelection

def report (d : Data) : Report := ⟨name, rows d⟩

def validate (d : Data) : Except Failure Unit :=
  (IdentityProvider.validate d.providers).mapError .provider

def transform (d : Data) : List Notice × Except Failure (List Output) :=
  match OAuthPackage.ofProviders d.providers d.tokenConfig d.templates with
  | (notices, .error e) => (notices, .error (.provider e))
  | (notices, .ok o) => (notices, .ok [.manifests o.manifests, .report (report d)])

end OAuth

def oauth (env : Environment) (masterConfigFile : String) : Component :=
  announced OAuth.name (OAuth.gather env masterConfigFile) OAuth.validate OAuth.transform

end Component

end ClusterMigration
