import ClusterMigration.IdentityProvider.Settings
import ClusterMigration.Proofs.Json.Acceptance

/-!
# What settings are read from

Settings of a kind are read from a stanza unless one of its members is refused, and a member
is refused by a kind only under one of the keys of that kind.
-/

namespace ClusterMigration

open Json (Memberwise ResemblesMember Steady memberwise_readRecord mem_names_of_refused
  steady_of_containers)

/-! ## Sources -/

namespace StringSource

variable {ms ns : List (String × Json)}

theorem member?_of_resembles (key : String) (h : List.Forall₂ ResemblesMember ms ns) :
    member? key ns = member? key ms := by
  have hfilter := Json.filter_of_resembles key h
  unfold member?
  revert hfilter
  generalize ms.filter (·.1 == key) = found
  generalize ns.filter (·.1 == key) = found'
  rintro (_ | ⟨⟨_, hvalue⟩, _ | _⟩)
  · rfl
  · exact hvalue.text?_eq
  · rfl

theorem ofMembers?_of_resembles (h : List.Forall₂ ResemblesMember ms ns) :
    ofMembers? ns = ofMembers? ms := by
  simp only [ofMembers?, member?_of_resembles _ h]

@[simp] theorem steady_read : Steady read := by
  refine steady_of_containers ?_ (fun _ _ _ => rfl) (fun ms ns h => ?_)
  · intro v hv
    cases v <;> first | rfl | cases hv
  · simp only [read, ofMembers?_of_resembles h]

end StringSource

namespace IdentityProvider

def Kind.keys : Kind → List String
  | basicAuth => BasicAuth.fields.map (·.name)
  | gitHub => GitHub.fields.map (·.name)
  | gitLab => GitLab.fields.map (·.name)
  | google => Google.fields.map (·.name)
  | htpasswd => Htpasswd.fields.map (·.name)
  | keystone => Keystone.fields.map (·.name)
  | ldap => Ldap.fields.map (·.name)
  | openId => OpenId.fields.map (·.name)
  | requestHeader => RequestHeader.fields.map (·.name)

/-- No settings of the kind are read from this member alone. -/
def Kind.Refuses (k : Kind) (m : String × Json) : Prop :=
  ∃ e, Settings.read (.object [m]) k = .error e

namespace Settings

theorem BasicAuth.steady : ∀ f ∈ BasicAuth.fields, f.Steady := by
  simp [BasicAuth.fields]

theorem GitHub.steady : ∀ f ∈ GitHub.fields, f.Steady := by
  simp [GitHub.fields]

theorem GitLab.steady : ∀ f ∈ GitLab.fields, f.Steady := by
  simp [GitLab.fields]

theorem Google.steady : ∀ f ∈ Google.fields, f.Steady := by
  simp [Google.fields]

theorem Htpasswd.steady : ∀ f ∈ Htpasswd.fields, f.Steady := by
  simp [Htpasswd.fields]

theorem Keystone.steady : ∀ f ∈ Keystone.fields, f.Steady := by
  simp [Keystone.fields]

theorem Ldap.steady : ∀ f ∈ Ldap.fields, f.Steady := by
  have hattributes : Steady LdapAttributes.read :=
    (memberwise_readRecord (by simp [LdapAttributes.fields])).steady
  simp [Ldap.fields, hattributes]

theorem OpenId.steady : ∀ f ∈ OpenId.fields, f.Steady := by
  have hurls : Steady OpenIdUrls.read :=
    (memberwise_readRecord (by simp [OpenIdUrls.fields])).steady
  have hclaims : Steady OpenIdClaims.read :=
    (memberwise_readRecord (by simp [OpenIdClaims.fields])).steady
  simp [OpenId.fields, hurls, hclaims]

theorem RequestHeader.steady : ∀ f ∈ RequestHeader.fields, f.Steady := by
  simp [RequestHeader.fields]

theorem memberwise_read (k : Kind) : Memberwise (read · k) := by
  cases k with
  | basicAuth => exact (memberwise_readRecord BasicAuth.steady).map _
  | gitHub => exact (memberwise_readRecord GitHub.steady).map _
  | gitLab => exact (memberwise_readRecord GitLab.steady).map _
  | google => exact (memberwise_readRecord Google.steady).map _
  | htpasswd => exact (memberwise_readRecord Htpasswd.steady).map _
  | keystone => exact (memberwise_readRecord Keystone.steady).map _
  | ldap => exact (memberwise_readRecord Ldap.steady).map _
  | openId => exact (memberwise_readRecord OpenId.steady).map _
  | requestHeader => exact (memberwise_readRecord RequestHeader.steady).map _

end Settings

theorem Kind.Refuses.mem_keys {k : Kind} {m : String × Json} (h : k.Refuses m) :
    m.1 ∈ k.keys := by
  have hread := isOk_eq_false_iff.mpr h
  cases k <;> exact mem_names_of_refused ((isOk_map _).symm.trans hread)

end IdentityProvider

end ClusterMigration
