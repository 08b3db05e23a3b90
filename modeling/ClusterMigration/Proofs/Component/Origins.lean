import ClusterMigration.Component.OAuth
import ClusterMigration.Proofs.Component.Gather
import ClusterMigration.Proofs.IdentityProvider.References
import ClusterMigration.Proofs.IdentityProvider.Stanza

/-!
# Origins of contents

Where the settings of a provider say that the contents of its artifacts come from, and
whether the artifacts hold what is found there.
-/

namespace ClusterMigration

open Component.OAuth (FileReferences textOfFile fileIfNamed resolve sideFiles)
open Json (TextAt Returns map_eq_ok keeps_field textAt_of_readRecord)

/-- The value, or else the text of the file without the line feed at its end, or else that
of the variable, which is empty if it is not set. -/
def StringSource.text (files : Files) (env : Environment) (s : StringSource) :
    Except FetchError String :=
  if s.value ≠ "" then .ok s.value
  else if s.file ≠ "" then (files s.file).map textOfFile
  else if s.env ≠ "" then .ok ((env s.env).getD "")
  else .ok ""

inductive Origin where
  | file (path : String)
  | text (source : StringSource)

def Origin.content (files : Files) (env : Environment) : Origin → Except FetchError Bytes
  | file path => if path = "" then .ok [] else files path
  | text s => (s.text files env).map Utf8.encode

namespace IdentityProvider

namespace Settings

def bundle (name path : String) : List (String × Origin) :=
  if path = "" then [] else [(name, .file path)]

def pair (provider certFile keyFile : String) : List (String × Origin) :=
  if certFile = "" then []
  else [(provider ++ "-client-cert-secret", .file certFile),
    (provider ++ "-client-key-secret", .file keyFile)]

/-- The secrets that the settings call for and where their contents come from. -/
def secrets (provider : String) : Settings → List (String × Origin)
  | basicAuth s => pair provider s.certFile s.keyFile
  | gitHub s => [(provider ++ "-secret", .text s.clientSecret)]
  | gitLab s => [(provider ++ "-secret", .text s.clientSecret)]
  | google s => [(provider ++ "-secret", .text s.clientSecret)]
  | htpasswd s => [("htpasswd-secret", .file s.file)]
  | keystone s => pair provider s.certFile s.keyFile
  | ldap _ => []
  | openId s => [(provider ++ "-secret", .text s.clientSecret)]
  | requestHeader _ => []

def configMaps : Settings → List (String × Origin)
  | basicAuth s => bundle "basicauth-configmap" s.ca
  | gitHub s => bundle "github-configmap" s.ca
  | gitLab s => bundle "gitlab-configmap" s.ca
  | google _ => []
  | htpasswd _ => []
  | keystone s => bundle "keystone-configmap" s.ca
  | ldap s => bundle "ldap-configmap" s.ca
  | openId s => bundle "openid-configmap" s.ca
  | requestHeader s => bundle "requestheader-configmap" s.clientCa

def source? : Settings → Option StringSource
  | gitHub s => some s.clientSecret
  | gitLab s => some s.clientSecret
  | google s => some s.clientSecret
  | ldap s => some s.bindPassword
  | openId s => some s.clientSecret
  | basicAuth _ | htpasswd _ | keystone _ | requestHeader _ => none

end Settings

/-- The artifact has this name and holds what is found at the origin. -/
def Holds (files : Files) (env : Environment) (named : String × Origin) (name : String)
    (content : Bytes) : Prop :=
  name = named.1 ∧ named.2.content files env = .ok content

/-- The artifacts of a provider are those that its settings call for, and each of them holds
what is found where they say. -/
structure Faithful (files : Files) (env : Environment) (p : IdentityProvider) (s : Settings) :
    Prop where
  secrets : List.Forall₂ (fun named a => Holds files env named a.name a.content)
    (s.secrets p.name) (p.contribute s).secrets
  configMaps : List.Forall₂ (fun named a => Holds files env named a.name a.content)
    s.configMaps (p.contribute s).configMaps
  bindPassword : ∀ l, s = .ldap l → ∃ text, l.bindPassword.text files env = .ok text ∧
    (p.contribute s).fragment.stanza.lookup "bindPassword" =
      if text = "" then none else some (.string text)

end IdentityProvider

/-! ## The look that names the files -/

namespace Component.OAuth

open IdentityProvider (Settings)

namespace FileReferences

/-- What the look finds stands in the stanza. -/
structure StandIn (ms : List (String × Json)) (r : FileReferences) : Prop where
  file : TextAt "file" ms r.file
  ca : TextAt "ca" ms r.ca
  clientCa : TextAt "clientCA" ms r.clientCa
  certFile : TextAt "certFile" ms r.certFile
  keyFile : TextAt "keyFile" ms r.keyFile
  clientSecret : StringSource.At "clientSecret" ms (r.clientSecret.getD {})
  bindPassword : StringSource.At "bindPassword" ms (r.bindPassword.getD {})

theorem readSource_eq_ok {v : Json} {s : Option StringSource} (h : readSource v = .ok s) :
    StringSource.read v = .ok (s.getD {}) ∨ v.isNull = true ∧ s.getD {} = {} := by
  unfold readSource at h
  split at h
  · cases h
    exact .inr ⟨rfl, rfl⟩
  · obtain ⟨source, hsource, rfl⟩ := map_eq_ok.mp h
    exact .inl hsource

theorem standIn_of_read {ms : List (String × Json)} {r : FileReferences}
    (h : read (.object ms) = .ok r) : StandIn ms r := by
  refine ⟨textAt_of_readRecord FileReferences.file h rfl rfl (fun _ _ => rfl) ?_,
    textAt_of_readRecord FileReferences.ca h rfl rfl (fun _ _ => rfl) ?_,
    textAt_of_readRecord FileReferences.clientCa h rfl rfl (fun _ _ => rfl) ?_,
    textAt_of_readRecord FileReferences.certFile h rfl rfl (fun _ _ => rfl) ?_,
    textAt_of_readRecord FileReferences.keyFile h rfl rfl (fun _ _ => rfl) ?_,
    StringSource.at_of_readRecord (fun r : FileReferences => r.clientSecret.getD {}) h rfl rfl
      (fun _ _ _ => readSource_eq_ok) ?_,
    StringSource.at_of_readRecord (fun r : FileReferences => r.bindPassword.getD {}) h rfl rfl
      (fun _ _ _ => readSource_eq_ok) ?_⟩
  all_goals simp [fields, keeps_field]

def Selects (r : FileReferences) : Settings → Prop
  | .basicAuth s => s.ca = r.ca ∧ s.certFile = r.certFile ∧ s.keyFile = r.keyFile
  | .gitHub s => s.ca = r.ca ∧ s.clientSecret = r.clientSecret.getD {}
  | .gitLab s => s.ca = r.ca ∧ s.clientSecret = r.clientSecret.getD {}
  | .google s => s.clientSecret = r.clientSecret.getD {}
  | .htpasswd s => s.file = r.file
  | .keystone s => s.ca = r.ca ∧ s.certFile = r.certFile ∧ s.keyFile = r.keyFile
  | .ldap s => s.ca = r.ca ∧ s.bindPassword = r.bindPassword.getD {}
  | .openId s => s.ca = r.ca ∧ s.clientSecret = r.clientSecret.getD {}
  | .requestHeader s => s.clientCa = r.clientCa

/-- The look before the stanza is written and the settings after it is read again find the
same. -/
theorem selects_of_returns {ms : List (String × Json)} {r : FileReferences} {u : Json}
    {k : IdentityProvider.Kind} {s : Settings} (hlook : read (.object ms) = .ok r)
    (hread : Settings.read u k = .ok s) (hreturns : Returns (.object ms) u) : Selects r s := by
  obtain ⟨us, rfl, hmembers⟩ := hreturns.object
  have hr := standIn_of_read hlook
  have hs := Settings.standIn_of_read hread
  cases s with
  | basicAuth s | keystone s =>
      obtain ⟨hca, hcert, hkey⟩ := hs
      exact ⟨(hr.ca.eq hca (hmembers _)).symm, (hr.certFile.eq hcert (hmembers _)).symm,
        (hr.keyFile.eq hkey (hmembers _)).symm⟩
  | gitHub s | gitLab s | openId s =>
      obtain ⟨hca, hsecret⟩ := hs
      exact ⟨(hr.ca.eq hca (hmembers _)).symm, (hr.clientSecret.eq hsecret (hmembers _)).symm⟩
  | google s => exact (hr.clientSecret.eq hs (hmembers _)).symm
  | htpasswd s => exact (hr.file.eq hs (hmembers _)).symm
  | ldap s =>
      obtain ⟨hca, hpassword⟩ := hs
      exact ⟨(hr.ca.eq hca (hmembers _)).symm, (hr.bindPassword.eq hpassword (hmembers _)).symm⟩
  | requestHeader s => exact (hr.clientCa.eq hs (hmembers _)).symm

end FileReferences

end Component.OAuth

end ClusterMigration
