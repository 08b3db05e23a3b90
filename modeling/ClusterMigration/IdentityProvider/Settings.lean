import ClusterMigration.IdentityProvider.Kind
import ClusterMigration.IdentityProvider.StringSource

/-!
# Settings of identity providers

What a provider says beyond its name, one record per kind. A setting that is not
given is empty.
-/

namespace ClusterMigration

namespace IdentityProvider

open Json (RecordField field readText readFlag readTexts readTextMap readRecord)

structure BasicAuth where
  url : String := ""
  ca : String := ""
  certFile : String := ""
  keyFile : String := ""
  deriving DecidableEq, Repr

structure GitHub where
  clientId : String := ""
  clientSecret : StringSource := {}
  organizations : List String := []
  teams : List String := []
  hostname : String := ""
  ca : String := ""
  deriving DecidableEq, Repr

structure GitLab where
  url : String := ""
  clientId : String := ""
  clientSecret : StringSource := {}
  ca : String := ""
  deriving DecidableEq, Repr

structure Google where
  clientId : String := ""
  clientSecret : StringSource := {}
  hostedDomain : String := ""
  deriving DecidableEq, Repr

structure Htpasswd where
  file : String := ""
  deriving DecidableEq, Repr

structure Keystone where
  domainName : String := ""
  url : String := ""
  ca : String := ""
  certFile : String := ""
  keyFile : String := ""
  useKeystoneIdentity : Bool := false
  deriving DecidableEq, Repr

/-- Attributes of directory entries, several per purpose. -/
structure LdapAttributes where
  id : List String := []
  email : List String := []
  name : List String := []
  preferredUsername : List String := []
  deriving DecidableEq, Repr

structure Ldap where
  url : String := ""
  bindDn : String := ""
  bindPassword : StringSource := {}
  insecure : Bool := false
  ca : String := ""
  attributes : LdapAttributes := {}
  deriving DecidableEq, Repr

structure OpenIdUrls where
  authorize : String := ""
  token : String := ""
  userInfo : String := ""
  deriving DecidableEq, Repr

structure OpenIdClaims where
  id : List String := []
  preferredUsername : List String := []
  name : List String := []
  email : List String := []
  deriving DecidableEq, Repr

structure OpenId where
  ca : String := ""
  clientId : String := ""
  clientSecret : StringSource := {}
  extraScopes : List String := []
  extraAuthorizeParameters : List (String × String) := []
  urls : OpenIdUrls := {}
  claims : OpenIdClaims := {}
  deriving DecidableEq, Repr

structure RequestHeader where
  challengeUrl : String := ""
  loginUrl : String := ""
  clientCa : String := ""
  clientCommonNames : List String := []
  headers : List String := []
  emailHeaders : List String := []
  nameHeaders : List String := []
  preferredUsernameHeaders : List String := []
  deriving DecidableEq, Repr

namespace BasicAuth

def fields : List (RecordField BasicAuth) := [
  field "url" readText fun v s => { s with url := v },
  field "ca" readText fun v s => { s with ca := v },
  field "certFile" readText fun v s => { s with certFile := v },
  field "keyFile" readText fun v s => { s with keyFile := v }]

def read (v : Json) : Except Mismatch BasicAuth := readRecord "struct BasicAuthPayload" fields {} v

end BasicAuth

namespace GitHub

def fields : List (RecordField GitHub) := [
  field "clientID" readText fun v s => { s with clientId := v },
  field "clientSecret" StringSource.read fun v s => { s with clientSecret := v },
  field "organizations" readTexts fun v s => { s with organizations := v },
  field "teams" readTexts fun v s => { s with teams := v },
  field "hostname" readText fun v s => { s with hostname := v },
  field "ca" readText fun v s => { s with ca := v }]

def read (v : Json) : Except Mismatch GitHub := readRecord "struct GitHubPayload" fields {} v

end GitHub

namespace GitLab

def fields : List (RecordField GitLab) := [
  field "url" readText fun v s => { s with url := v },
  field "clientID" readText fun v s => { s with clientId := v },
  field "clientSecret" StringSource.read fun v s => { s with clientSecret := v },
  field "ca" readText fun v s => { s with ca := v }]

def read (v : Json) : Except Mismatch GitLab := readRecord "struct GitLabPayload" fields {} v

end GitLab

namespace Google

def fields : List (RecordField Google) := [
  field "clientID" readText fun v s => { s with clientId := v },
  field "clientSecret" StringSource.read fun v s => { s with clientSecret := v },
  field "hostedDomain" readText fun v s => { s with hostedDomain := v }]

def read (v : Json) : Except Mismatch Google := readRecord "struct GooglePayload" fields {} v

end Google

namespace Htpasswd

def fields : List (RecordField Htpasswd) := [
  field "file" readText fun v s => { s with file := v }]

def read (v : Json) : Except Mismatch Htpasswd := readRecord "struct HTPasswdPayload" fields {} v

end Htpasswd

namespace Keystone

def fields : List (RecordField Keystone) := [
  field "domainName" readText fun v s => { s with domainName := v },
  field "url" readText fun v s => { s with url := v },
  field "ca" readText fun v s => { s with ca := v },
  field "certFile" readText fun v s => { s with certFile := v },
  field "keyFile" readText fun v s => { s with keyFile := v },
  field "useKeystoneIdentity" readFlag fun v s => { s with useKeystoneIdentity := v }]

def read (v : Json) : Except Mismatch Keystone := readRecord "struct KeystonePayload" fields {} v

end Keystone

namespace LdapAttributes

def fields : List (RecordField LdapAttributes) := [
  field "id" readTexts fun v s => { s with id := v },
  field "email" readTexts fun v s => { s with email := v },
  field "name" readTexts fun v s => { s with name := v },
  field "preferredUsername" readTexts fun v s => { s with preferredUsername := v }]

def read (v : Json) : Except Mismatch LdapAttributes :=
  readRecord "struct LdapAttributes" fields {} v

end LdapAttributes

namespace Ldap

def fields : List (RecordField Ldap) := [
  field "url" readText fun v s => { s with url := v },
  field "bindDN" readText fun v s => { s with bindDn := v },
  field "bindPassword" StringSource.read fun v s => { s with bindPassword := v },
  field "insecure" readFlag fun v s => { s with insecure := v },
  field "ca" readText fun v s => { s with ca := v },
  field "attributes" LdapAttributes.read fun v s => { s with attributes := v }]

def read (v : Json) : Except Mismatch Ldap := readRecord "struct LdapPayload" fields {} v

end Ldap

namespace OpenIdUrls

def fields : List (RecordField OpenIdUrls) := [
  field "authorize" readText fun v s => { s with authorize := v },
  field "token" readText fun v s => { s with token := v },
  field "userInfo" readText fun v s => { s with userInfo := v }]

def read (v : Json) : Except Mismatch OpenIdUrls := readRecord "struct OpenIdUrls" fields {} v

end OpenIdUrls

namespace OpenIdClaims

def fields : List (RecordField OpenIdClaims) := [
  field "id" readTexts fun v s => { s with id := v },
  field "preferredUsername" readTexts fun v s => { s with preferredUsername := v },
  field "name" readTexts fun v s => { s with name := v },
  field "email" readTexts fun v s => { s with email := v }]

def read (v : Json) : Except Mismatch OpenIdClaims :=
  readRecord "struct OpenIdPayloadClaims" fields {} v

def isEmpty (c : OpenIdClaims) : Bool :=
  c.id.isEmpty && c.preferredUsername.isEmpty && c.name.isEmpty && c.email.isEmpty

end OpenIdClaims

namespace OpenId

def fields : List (RecordField OpenId) := [
  field "ca" readText fun v s => { s with ca := v },
  field "clientID" readText fun v s => { s with clientId := v },
  field "clientSecret" StringSource.read fun v s => { s with clientSecret := v },
  field "extraScopes" readTexts fun v s => { s with extraScopes := v },
  field "extraAuthorizeParameters" readTextMap fun v s =>
    { s with extraAuthorizeParameters := v },
  field "urls" OpenIdUrls.read fun v s => { s with urls := v },
  field "claims" OpenIdClaims.read fun v s => { s with claims := v }]

def read (v : Json) : Except Mismatch OpenId := readRecord "struct OpenIdPayload" fields {} v

end OpenId

namespace RequestHeader

def fields : List (RecordField RequestHeader) := [
  field "challengeURL" readText fun v s => { s with challengeUrl := v },
  field "loginURL" readText fun v s => { s with loginUrl := v },
  field "clientCA" readText fun v s => { s with clientCa := v },
  field "clientCommonNames" readTexts fun v s => { s with clientCommonNames := v },
  field "headers" readTexts fun v s => { s with headers := v },
  field "emailHeaders" readTexts fun v s => { s with emailHeaders := v },
  field "nameHeaders" readTexts fun v s => { s with nameHeaders := v },
  field "preferredUsernameHeaders" readTexts fun v s =>
    { s with preferredUsernameHeaders := v }]

def read (v : Json) : Except Mismatch RequestHeader :=
  readRecord "struct RequestHeaderPayload" fields {} v

end RequestHeader

inductive Settings where
  | basicAuth (s : BasicAuth)
  | gitHub (s : GitHub)
  | gitLab (s : GitLab)
  | google (s : Google)
  | htpasswd (s : Htpasswd)
  | keystone (s : Keystone)
  | ldap (s : Ldap)
  | openId (s : OpenId)
  | requestHeader (s : RequestHeader)
  deriving DecidableEq, Repr

namespace Settings

def kind : Settings → Kind
  | basicAuth _ => .basicAuth
  | gitHub _ => .gitHub
  | gitLab _ => .gitLab
  | google _ => .google
  | htpasswd _ => .htpasswd
  | keystone _ => .keystone
  | ldap _ => .ldap
  | openId _ => .openId
  | requestHeader _ => .requestHeader

def read (v : Json) : Kind → Except Mismatch Settings
  | .basicAuth => (BasicAuth.read v).map basicAuth
  | .gitHub => (GitHub.read v).map gitHub
  | .gitLab => (GitLab.read v).map gitLab
  | .google => (Google.read v).map google
  | .htpasswd => (Htpasswd.read v).map htpasswd
  | .keystone => (Keystone.read v).map keystone
  | .ldap => (Ldap.read v).map ldap
  | .openId => (OpenId.read v).map openId
  | .requestHeader => (RequestHeader.read v).map requestHeader

theorem kind_of_read {v : Json} {k : Kind} {s : Settings} (h : read v k = .ok s) :
    s.kind = k := by
  have aux {α : Type} {f : α → Settings} {x : Except Mismatch α} (hf : ∀ a, (f a).kind = k)
      (h : x.map f = .ok s) : s.kind = k := by
    cases x with
    | error e => cases h
    | ok a => cases h; exact hf a
  cases k <;> exact aux (fun _ => rfl) h

end Settings

end IdentityProvider

end ClusterMigration
