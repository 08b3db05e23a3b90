import ClusterMigration.IdentityProvider.Settings

/-!
# Rules for identity providers

What the new cluster demands of the settings of each kind. The rules of a kind are
checked in order and the first violation is told.
-/

namespace ClusterMigration

namespace IdentityProvider

inductive Violation where
  | emptyName
  | invalidMappingMethod
  | emptyClientId
  | emptyClientSecret
  | encryptedClientSecret
  | emptyUrl
  | missingKeyFile
  | emptyDomainName
  | emptyIdAttribute
  | emptyEmailAttribute
  | emptyNameAttribute
  | emptyPreferredUsernameAttribute
  | encryptedBindPassword
  | emptyClaims
  | emptyAuthorizeUrl
  | emptyTokenUrl
  | emptyHeaders
  deriving DecidableEq, Repr

def Violation.message : Violation → String
  | emptyName => "Name can't be empty"
  | invalidMappingMethod => "Not valid mapping method"
  | emptyClientId => "Client ID can't be empty"
  | emptyClientSecret => "Client Secret can't be empty"
  | encryptedClientSecret => "Usage of encrypted files as secret value is not supported"
  | emptyUrl => "URL can't be empty"
  | missingKeyFile => "Key file can't be empty if cert file is specified"
  | emptyDomainName => "Domain name can't be empty"
  | emptyIdAttribute => "ID can't be empty"
  | emptyEmailAttribute => "Email can't be empty"
  | emptyNameAttribute => "Name can't be empty"
  | emptyPreferredUsernameAttribute => "Preferred username can't be empty"
  | encryptedBindPassword => "Usage of encrypted files as bind password value is not supported"
  | emptyClaims => "All claims are empty. At least one is required"
  | emptyAuthorizeUrl => "Authorization endpoint can't be empty"
  | emptyTokenUrl => "Token endpoint can't be empty"
  | emptyHeaders => "Headers can't be empty"

/-- A condition that must not hold, and what is wrong where it does. -/
structure Rule where
  broken : Bool
  violation : Violation

def firstViolation? (rules : List Rule) : Option Violation :=
  (rules.find? (·.broken)).map (·.violation)

def mappingMethods : List String := ["claim", "lookup", "generate", "add"]

def commonRules (name mappingMethod : String) : List Rule := [
  ⟨name.isEmpty, .emptyName⟩,
  ⟨!mappingMethods.contains mappingMethod, .invalidMappingMethod⟩]

/-- The rules for kinds where the cluster is the client of a service. -/
def clientRules (clientId : String) (clientSecret : StringSource) : List Rule := [
  ⟨clientSecret.isEncrypted, .encryptedClientSecret⟩,
  ⟨clientId.isEmpty, .emptyClientId⟩,
  ⟨clientSecret.isEmpty, .emptyClientSecret⟩]

def certificateRule (certFile keyFile : String) : Rule :=
  ⟨!certFile.isEmpty && keyFile.isEmpty, .missingKeyFile⟩

def Settings.rules : Settings → List Rule
  | basicAuth s => [⟨s.url.isEmpty, .emptyUrl⟩, certificateRule s.certFile s.keyFile]
  | gitHub s => clientRules s.clientId s.clientSecret
  | gitLab s => ⟨s.url.isEmpty, .emptyUrl⟩ :: clientRules s.clientId s.clientSecret
  | google s => clientRules s.clientId s.clientSecret
  | htpasswd _ => []
  | keystone s => [
      ⟨s.domainName.isEmpty, .emptyDomainName⟩,
      ⟨s.url.isEmpty, .emptyUrl⟩,
      certificateRule s.certFile s.keyFile]
  | ldap s => [
      ⟨s.attributes.id.isEmpty, .emptyIdAttribute⟩,
      ⟨s.attributes.email.isEmpty, .emptyEmailAttribute⟩,
      ⟨s.attributes.name.isEmpty, .emptyNameAttribute⟩,
      ⟨s.attributes.preferredUsername.isEmpty, .emptyPreferredUsernameAttribute⟩,
      ⟨s.url.isEmpty, .emptyUrl⟩,
      ⟨s.bindPassword.isEncrypted, .encryptedBindPassword⟩]
  | openId s => clientRules s.clientId s.clientSecret ++ [
      ⟨s.claims.isEmpty, .emptyClaims⟩,
      ⟨s.urls.authorize.isEmpty, .emptyAuthorizeUrl⟩,
      ⟨s.urls.token.isEmpty, .emptyTokenUrl⟩]
  | requestHeader s => [⟨s.headers.isEmpty, .emptyHeaders⟩]

end IdentityProvider

end ClusterMigration
