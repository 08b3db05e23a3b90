import ClusterMigration.Artifact
import ClusterMigration.IdentityProvider.Basic
import ClusterMigration.Notice

/-!
# Contributions

What one provider adds to the new cluster: a fragment of the OAuth resource, and
the secrets and the config map that the fragment refers to.
-/

namespace ClusterMigration

namespace IdentityProvider

/-- An entry of the OAuth resource. The stanza holds what belongs to its kind alone. -/
structure Fragment where
  name : String
  challenge : Bool
  login : Bool
  mappingMethod : String
  kind : Kind
  stanza : List (String × Json)

def Fragment.toJson (f : Fragment) : Json :=
  .object [
    ("name", .string f.name),
    ("challenge", .bool f.challenge),
    ("login", .bool f.login),
    ("mappingMethod", .string f.mappingMethod),
    ("type", .string f.kind.type),
    (f.kind.stanzaKey, .object f.stanza)]

structure Contribution where
  fragment : Fragment
  secrets : List Secret
  configMaps : List ConfigMap
  notices : List Notice

/-! ## Members of stanzas -/

abbrev Members := List (String × Json)

def textMember (key value : String) : Members := [(key, .string value)]

def flagMember (key : String) (value : Bool) : Members := [(key, .bool value)]

def textsMember (key : String) (values : List String) : Members :=
  [(key, .array (values.map .string))]

/-- Left out if empty. -/
def textMember? (key value : String) : Members :=
  if value.isEmpty then [] else textMember key value

def textsMember? (key : String) (values : List String) : Members :=
  if values.isEmpty then [] else textsMember key values

def textMapMember? (key : String) (values : List (String × String)) : Members :=
  if values.isEmpty then [] else [(key, .object (values.map fun (k, v) => (k, .string v)))]

def secretMember (key : String) (s : Secret) : Members := [(key, reference s.name)]

def caMember (maps : List ConfigMap) : Members := maps.map fun m => ("ca", reference m.name)

/-! ## Artifacts of providers -/

def caBundle (path name : String) (files : SideFiles) : List ConfigMap :=
  if path.isEmpty then [] else [⟨name, files.ca⟩]

/-- A text resolved from elsewhere goes before one that is given directly. -/
def resolvedText (resolved : Option String) (source : StringSource) : String :=
  resolved.getD source.value

def clientSecret (p : IdentityProvider) (source : StringSource) : Secret :=
  ⟨p.name ++ "-secret", .literal, Utf8.encode (resolvedText p.sideFiles.clientSecret source)⟩

def certSecret (p : IdentityProvider) (purpose : Purpose) : Secret :=
  ⟨p.name ++ "-client-cert-secret", purpose, p.sideFiles.cert⟩

def keySecret (p : IdentityProvider) (purpose : Purpose) : Secret :=
  ⟨p.name ++ "-client-key-secret", purpose, p.sideFiles.key⟩

def htpasswdSecret (p : IdentityProvider) : Secret :=
  ⟨"htpasswd-secret", .htpasswd, p.sideFiles.htpasswd⟩

def certificate (p : IdentityProvider) (purpose : Purpose) (certFile : String) :
    Members × List Secret :=
  if certFile.isEmpty then ([], [])
  else
    (secretMember "tlsClientCert" (p.certSecret purpose)
      ++ secretMember "tlsClientKey" (p.keySecret purpose),
     [p.certSecret purpose, p.keySecret purpose])

/-! ## What each kind contributes -/

def contribution (p : IdentityProvider) (kind : Kind) (stanza : Members) (secrets : List Secret)
    (configMaps : List ConfigMap) (notices : List Notice) : Contribution :=
  ⟨⟨p.name, p.challenge, p.login, p.mappingMethod, kind, stanza⟩, secrets, configMaps, notices⟩

def BasicAuth.contribute (p : IdentityProvider) (s : BasicAuth) : Contribution :=
  let ca := caBundle s.ca "basicauth-configmap" p.sideFiles
  let (tls, secrets) := p.certificate .basicAuth s.certFile
  p.contribution .basicAuth (textMember "url" s.url ++ caMember ca ++ tls) secrets ca []

def GitHub.contribute (p : IdentityProvider) (s : GitHub) : Contribution :=
  let secret := p.clientSecret s.clientSecret
  let ca := caBundle s.ca "github-configmap" p.sideFiles
  p.contribution .gitHub
    (textMember? "hostname" s.hostname ++ caMember ca ++ textMember "clientID" s.clientId
      ++ secretMember "clientSecret" secret ++ textsMember? "organizations" s.organizations
      ++ textsMember? "teams" s.teams)
    [secret] ca []

def GitLab.contribute (p : IdentityProvider) (s : GitLab) : Contribution :=
  let secret := p.clientSecret s.clientSecret
  let ca := caBundle s.ca "gitlab-configmap" p.sideFiles
  p.contribution .gitLab
    (textMember "url" s.url ++ caMember ca ++ textMember "clientID" s.clientId
      ++ secretMember "clientSecret" secret)
    [secret] ca []

def Google.contribute (p : IdentityProvider) (s : Google) : Contribution :=
  let secret := p.clientSecret s.clientSecret
  p.contribution .google
    (textMember "clientID" s.clientId ++ secretMember "clientSecret" secret
      ++ textMember? "hostedDomain" s.hostedDomain)
    [secret] [] []

def Htpasswd.contribute (p : IdentityProvider) (s : Htpasswd) : Contribution :=
  let secret := p.htpasswdSecret
  p.contribution .htpasswd (secretMember "fileData" secret) [secret] [] [.movingHtpasswd s.file]

def Keystone.contribute (p : IdentityProvider) (s : Keystone) : Contribution :=
  let ca := caBundle s.ca "keystone-configmap" p.sideFiles
  let (tls, secrets) := p.certificate .keystone s.certFile
  p.contribution .keystone
    (textMember "domainName" s.domainName ++ textMember "url" s.url ++ caMember ca ++ tls)
    secrets ca (if s.useKeystoneIdentity then [.keystoneIdentity] else [])

def LdapAttributes.members (a : LdapAttributes) : Members :=
  textsMember "id" a.id ++ textsMember "email" a.email ++ textsMember "name" a.name
    ++ textsMember "preferredUsername" a.preferredUsername

/-- The new cluster takes the bind password in the resource itself. -/
def Ldap.contribute (p : IdentityProvider) (s : Ldap) : Contribution :=
  let ca := caBundle s.ca "ldap-configmap" p.sideFiles
  p.contribution .ldap
    ([("attributes", .object s.attributes.members)] ++ textMember? "bindDN" s.bindDn
      ++ textMember? "bindPassword" (resolvedText p.sideFiles.bindPassword s.bindPassword)
      ++ caMember ca ++ flagMember "insecure" s.insecure ++ textMember "url" s.url)
    [] ca []

/-- The claim for the identity is fixed in the new cluster and not carried over. -/
def OpenIdClaims.members (c : OpenIdClaims) : Members :=
  textsMember "preferredUsername" c.preferredUsername ++ textsMember "name" c.name
    ++ textsMember "email" c.email

def OpenIdUrls.members (u : OpenIdUrls) : Members :=
  textMember "authorize" u.authorize ++ textMember "token" u.token
    ++ textMember? "userInfo" u.userInfo

def OpenId.contribute (p : IdentityProvider) (s : OpenId) : Contribution :=
  let secret := p.clientSecret s.clientSecret
  let ca := caBundle s.ca "openid-configmap" p.sideFiles
  p.contribution .openId
    (caMember ca ++ textMember "clientID" s.clientId ++ secretMember "clientSecret" secret
      ++ textsMember? "extraScopes" s.extraScopes
      ++ textMapMember? "extraAuthorizeParameters" s.extraAuthorizeParameters
      ++ [("claims", .object s.claims.members), ("urls", .object s.urls.members)])
    [secret] ca []

def RequestHeader.contribute (p : IdentityProvider) (s : RequestHeader) : Contribution :=
  let ca := caBundle s.clientCa "requestheader-configmap" p.sideFiles
  p.contribution .requestHeader
    (textMember? "challengeURL" s.challengeUrl ++ textMember? "loginURL" s.loginUrl
      ++ caMember ca ++ textsMember? "clientCommonNames" s.clientCommonNames
      ++ textsMember "headers" s.headers ++ textsMember? "emailHeaders" s.emailHeaders
      ++ textsMember? "nameHeaders" s.nameHeaders
      ++ textsMember? "preferredUsernameHeaders" s.preferredUsernameHeaders)
    [] ca []

def contribute (p : IdentityProvider) : Settings → Contribution
  | .basicAuth s => s.contribute p
  | .gitHub s => s.contribute p
  | .gitLab s => s.contribute p
  | .google s => s.contribute p
  | .htpasswd s => s.contribute p
  | .keystone s => s.contribute p
  | .ldap s => s.contribute p
  | .openId s => s.contribute p
  | .requestHeader s => s.contribute p

end IdentityProvider

end ClusterMigration
