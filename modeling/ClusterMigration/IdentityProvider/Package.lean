import ClusterMigration.IdentityProvider.Contribution
import ClusterMigration.Manifest
import ClusterMigration.TokenConfig

/-!
# OAuth package

The OAuth resource of the new cluster with the artifacts it refers to. Each provider
of a known kind contributes in turn, a provider of an unknown kind is dropped with
a warning, and there is no package when the settings of one cannot be read.
-/

namespace ClusterMigration

structure Templates where
  login : Option Bytes := none
  error : Option Bytes := none
  providerSelection : Option Bytes := none
  deriving DecidableEq, Repr

namespace Templates

def pages (t : Templates) : List (String × Secret) :=
  page "login" "templates-login-secret" t.login
    ++ page "error" "templates-error-secret" t.error
    ++ page "providerSelection" "templates-providerselect-secret" t.providerSelection
where
  page (key name : String) (content : Option Bytes) : List (String × Secret) :=
    content.toList.map fun c => (key, ⟨name, .literal, c⟩)

def secrets (t : Templates) : List Secret := t.pages.map (·.2)

def members (t : Templates) : List (String × Json) :=
  t.pages.map fun (key, s) => (key, reference s.name)

end Templates

structure OAuthPackage where
  fragments : List IdentityProvider.Fragment
  tokenConfig : Option TokenConfig
  templates : List (String × Json)
  secrets : List Secret
  configMaps : List ConfigMap

namespace OAuthPackage

def spec (o : OAuthPackage) : Json :=
  let tokens := o.tokenConfig.toList.map fun t => ("tokenConfig", t.toJson)
  let templates := if o.templates.isEmpty then [] else [("templates", Json.object o.templates)]
  .object ([("identityProviders", .array (o.fragments.map (·.toJson)))] ++ tokens ++ templates)

def resource (o : OAuthPackage) : Resource where
  apiVersion := configVersion
  kind := "OAuth"
  metadata := { name := "cluster", home := some configNamespace }
  spec := o.spec

def manifests (o : OAuthPackage) : List Manifest :=
  Manifest.ofResource "oauth" o.resource :: o.secrets.map .ofSecret
    ++ o.configMaps.map .ofConfigMap

end OAuthPackage

namespace IdentityProvider

/-- The contributions of the providers up to the first whose settings cannot be read,
with everything told on the way. -/
def contributions : List IdentityProvider →
    List Notice × Except ProviderError (List Contribution)
  | [] => ([], .ok [])
  | p :: rest =>
    match p.settings with
    | .error e => ([], .error e)
    | .ok none =>
      let (notices, result) := contributions rest
      (.unknownKind p.kind :: notices, result)
    | .ok (some s) =>
      let c := p.contribute s
      let (notices, result) := contributions rest
      (.providerBegun p.kind p.name :: c.notices ++ notices, result.map (c :: ·))

/-- The names that stand earlier in the list already, once for each repetition. -/
def repeated (names : List String) : List String :=
  go [] names
where
  go (seen : List String) : List String → List String
    | [] => []
    | name :: rest =>
      if seen.contains name then name :: go seen rest else go (name :: seen) rest

end IdentityProvider

namespace OAuthPackage

/-- The secrets of the pages follow those of the providers. -/
def assemble (cs : List IdentityProvider.Contribution) (tokenConfig : Option TokenConfig)
    (templates : Templates) : OAuthPackage where
  fragments := cs.map (·.fragment)
  tokenConfig := tokenConfig
  templates := templates.members
  secrets := cs.flatMap (·.secrets) ++ templates.secrets
  configMaps := cs.flatMap (·.configMaps)

def repetitions (o : OAuthPackage) : List Notice :=
  (IdentityProvider.repeated (o.secrets.map (·.name))).map .repeatedSecret
    ++ (IdentityProvider.repeated (o.configMaps.map (·.name))).map .repeatedConfigMap

def ofProviders (providers : List IdentityProvider) (tokenConfig : Option TokenConfig)
    (templates : Templates) :
    List Notice × Except IdentityProvider.ProviderError OAuthPackage :=
  match IdentityProvider.contributions providers with
  | (notices, .error e) => (notices, .error e)
  | (notices, .ok cs) =>
    let o := assemble cs tokenConfig templates
    (notices ++ repetitions o, .ok o)

end OAuthPackage

end ClusterMigration
