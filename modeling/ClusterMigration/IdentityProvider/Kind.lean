/-!
# Kinds of identity providers

The kinds that both the old and the new cluster know. A provider of any other
kind cannot be migrated.
-/

namespace ClusterMigration

namespace IdentityProvider

inductive Kind where
  | basicAuth
  | gitHub
  | gitLab
  | google
  | htpasswd
  | keystone
  | ldap
  | openId
  | requestHeader
  deriving DecidableEq, Repr

namespace Kind

def all : List Kind :=
  [basicAuth, gitHub, gitLab, google, htpasswd, keystone, ldap, openId, requestHeader]

/-- The kind as the old cluster writes it. -/
def source : Kind → String
  | basicAuth => "BasicAuthPasswordIdentityProvider"
  | gitHub => "GitHubIdentityProvider"
  | gitLab => "GitLabIdentityProvider"
  | google => "GoogleIdentityProvider"
  | htpasswd => "HTPasswdPasswordIdentityProvider"
  | keystone => "KeystonePasswordIdentityProvider"
  | ldap => "LDAPPasswordIdentityProvider"
  | openId => "OpenIDIdentityProvider"
  | requestHeader => "RequestHeaderIdentityProvider"

def ofSource? (text : String) : Option Kind :=
  all.find? fun k => k.source == text

def type : Kind → String
  | basicAuth => "BasicAuth"
  | gitHub => "GitHub"
  | gitLab => "GitLab"
  | google => "Google"
  | htpasswd => "HTPasswd"
  | keystone => "Keystone"
  | ldap => "LDAP"
  | openId => "OpenID"
  | requestHeader => "RequestHeader"

/-- The member of the fragment that holds what belongs to this kind alone. -/
def stanzaKey : Kind → String
  | basicAuth => "basicAuth"
  | gitHub => "github"
  | gitLab => "gitlab"
  | google => "google"
  | htpasswd => "htpasswd"
  | keystone => "keystone"
  | ldap => "ldap"
  | openId => "openID"
  | requestHeader => "requestHeader"

theorem ofSource?_source (k : Kind) : ofSource? k.source = some k := by
  cases k <;> decide

end Kind

end IdentityProvider

end ClusterMigration
