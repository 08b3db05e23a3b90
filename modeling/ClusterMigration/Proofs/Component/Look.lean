import ClusterMigration.Proofs.Component.Contents
import ClusterMigration.Proofs.IdentityProvider.Acceptance
import ClusterMigration.Proofs.IdentityProvider.Check
import ClusterMigration.Proofs.Yaml.Yields

/-!
# Stanzas that the look cannot read

The look that names the files goes by seven keys, whatever the kind of a provider. Where it
fails it names no files, and it is left to the settings to refuse the stanza. They do so
where a member under a key of their own is at fault, but not where all such members stand
under keys that only the look goes by. The main statement is `rejected_iff_of_unread`. It asks
of a stanza to be in canonical form, as all are that are read from a master configuration,
which is `isCanonical_of_decode`.
-/

namespace ClusterMigration

namespace IdentityProvider

/-- No settings are read, and every list with the provider fails the check and has no
package. -/
structure Rejected (p : IdentityProvider) : Prop where
  settings : ∃ e, p.settings = .error e
  validate : ∀ ps, p ∈ ps → ∃ e, IdentityProvider.validate ps = .error e
  package : ∀ ps tokenConfig templates, p ∈ ps →
    ∃ e, (OAuthPackage.ofProviders ps tokenConfig templates).2 = .error e

theorem rejected_iff {p : IdentityProvider} : p.Rejected ↔ ∃ e, p.settings = .error e := by
  refine ⟨Rejected.settings, fun h => ⟨h, fun ps hp => ?_, fun ps _ _ hp => ?_⟩⟩
  · cases hvalidate : IdentityProvider.validate ps with
    | ok _ => exact absurd (isUndecodable_iff.mpr h) (readable_of_validate hvalidate p hp)
    | error e => exact ⟨e, rfl⟩
  · exact OAuthPackage.ofProviders_error_iff.mpr ⟨p, hp, isUndecodable_iff.mpr h⟩

theorem isOk_settings {p : IdentityProvider} {k : Kind} (hk : p.kind? = some k) :
    p.settings.isOk = (readPayload p.payload k).isOk := by
  simp only [IdentityProvider.settings, hk]
  cases readPayload p.payload k <;> rfl

theorem isOk_readPayload {v : Json} (hv : v.IsCanonical) (k : Kind) :
    (readPayload (Utf8.encode v.dropNulls.toCompact) k).isOk =
      ((Json.parseBytes? (Utf8.encode v.dropNulls.toCompact)).isSome &&
        (Settings.read v.dropNulls k).isOk) := by
  rw [readPayload, Json.parseBytes?, Utf8.decode?_encode, Option.bind_some]
  cases hparse : Json.parse? v.dropNulls.toCompact with
  | none => rfl
  | some u =>
      have hresembles := Json.resembles_of_parse? hv hparse
      simp only [isOk_mapError, Option.isSome_some, Bool.true_and]
      exact (Settings.memberwise_read k).steady _ _ hresembles

theorem readPayload_error_iff {v : Json} (hv : v.IsCanonical) {ms : List (String × Json)}
    (hms : v.dropNulls = .object ms) (k : Kind) :
    (∃ e, readPayload (Utf8.encode v.dropNulls.toCompact) k = .error e) ↔
      Json.parseBytes? (Utf8.encode v.dropNulls.toCompact) = none ∨ ∃ m ∈ ms, k.Refuses m := by
  have hread : (Settings.read v.dropNulls k).isOk = false ↔ ∃ m ∈ ms, k.Refuses m := by
    rw [hms, (Settings.memberwise_read k).members, List.all_eq_false]
    simp only [Bool.not_eq_true, isOk_eq_false_iff]
    rfl
  rw [← isOk_eq_false_iff, isOk_readPayload hv, Bool.and_eq_false_iff, hread,
    Option.isSome_eq_false_iff, Option.isNone_iff_eq_none]

theorem configMaps_contribute_empty {p : IdentityProvider} (hp : p.sideFiles = {})
    (s : Settings) : ∀ bundle ∈ (p.contribute s).configMaps, bundle.content = [] := by
  have hbundle (path name : String) : ∀ bundle ∈ caBundle path name p.sideFiles,
      bundle.content = [] := by
    intro bundle hmem
    rw [caBundle, hp] at hmem
    split at hmem
    · cases hmem
    · rw [List.mem_singleton.mp hmem]
  cases s with
  | google | htpasswd =>
      intro bundle hmem
      cases hmem
  | basicAuth s | gitHub s | gitLab s | keystone s | ldap s | openId s => exact hbundle s.ca _
  | requestHeader s => exact hbundle s.clientCa _

end IdentityProvider

namespace Component.OAuth

open IdentityProvider (Settings Kind)
open Yaml (of_read preserves_elsewhere preserves_field yields_readJson yields_readList
  yields_readOptional yields_readRecord)
open Json (Memberwise Steady isOk_readRecord_member memberwise_readRecord mem_names_of_refused
  readText steady_of_containers)

namespace FileReferences

/-- The look cannot read this member alone. -/
def Refuses (m : String × Json) : Prop := ∃ e, read (.object [m]) = .error e

theorem steady_readSource : Steady readSource := by
  refine steady_of_containers ?_ (fun _ _ _ => rfl) (fun ms ns h => ?_)
  · intro v hv
    cases v <;> first | rfl | cases hv
  · exact StringSource.steady_read.map some _ _ (.object h)

theorem memberwise_read : Memberwise read := by
  refine memberwise_readRecord ?_
  simp [fields, steady_readSource]

theorem exists_refuses {ms : List (String × Json)} {e : Mismatch}
    (h : read (.object ms) = .error e) : ∃ m ∈ ms, Refuses m := by
  have hread : (read (.object ms)).isOk = false := isOk_eq_false_iff.mpr ⟨e, h⟩
  rw [memberwise_read.members, List.all_eq_false] at hread
  obtain ⟨m, hm, hrefused⟩ := hread
  exact ⟨m, hm, isOk_eq_false_iff.mp (by simpa using hrefused)⟩

/-! ### Keys of the look -/

def textKeys : List String := ["file", "ca", "clientCA", "certFile", "keyFile"]

def sourceKeys : List String := ["clientSecret", "bindPassword"]

variable {k : Kind} {key : String}

theorem isOk_read_text (h : key ∈ textKeys) (v : Json) :
    (read (.object [(key, v)])).isOk = (readText v).isOk := by
  simp only [textKeys, List.mem_cons, List.not_mem_nil, or_false] at h
  rcases h with rfl | rfl | rfl | rfl | rfl <;> exact isOk_readRecord_member rfl v

theorem isOk_read_source (h : key ∈ sourceKeys) (v : Json) :
    (read (.object [(key, v)])).isOk = (readSource v).isOk := by
  simp only [sourceKeys, List.mem_cons, List.not_mem_nil, or_false] at h
  rcases h with rfl | rfl <;> exact isOk_readRecord_member rfl v

theorem isOk_settings_text (h : key ∈ textKeys) (hkey : key ∈ k.keys) (v : Json) :
    (Settings.read (.object [(key, v)]) k).isOk = (readText v).isOk := by
  simp only [textKeys, List.mem_cons, List.not_mem_nil, or_false] at h
  rcases h with rfl | rfl | rfl | rfl | rfl <;> cases k <;> first
    | exact absurd hkey (by decide)
    | exact (isOk_map _).trans (isOk_readRecord_member rfl v)

theorem isOk_settings_source (h : key ∈ sourceKeys) (hkey : key ∈ k.keys) (v : Json) :
    (Settings.read (.object [(key, v)]) k).isOk = (StringSource.read v).isOk := by
  simp only [sourceKeys, List.mem_cons, List.not_mem_nil, or_false] at h
  rcases h with rfl | rfl <;> cases k <;> first
    | exact absurd hkey (by decide)
    | exact (isOk_map _).trans (isOk_readRecord_member rfl v)

theorem isOk_source_of_readSource {v : Json} (h : (readSource v).isOk = false) :
    (StringSource.read v).isOk = false := by
  unfold readSource at h
  split at h
  · cases h
  · rwa [isOk_map] at h

/-- What the look refuses under a key of the kind, the kind refuses too. -/
theorem refuses_of_mem_keys {m : String × Json} (h : Refuses m) (hkey : m.1 ∈ k.keys) :
    k.Refuses m := by
  obtain ⟨key, v⟩ := m
  have hread : (read (.object [(key, v)])).isOk = false := isOk_eq_false_iff.mpr h
  have hlook : key ∈ textKeys ∨ key ∈ sourceKeys := by
    have hnames := mem_names_of_refused hread
    simpa [fields, textKeys, sourceKeys, or_assoc] using hnames
  refine isOk_eq_false_iff.mp ?_
  rcases hlook with htext | hsource
  · rw [isOk_settings_text htext hkey, ← isOk_read_text htext, hread]
  · rw [isOk_settings_source hsource hkey]
    rw [isOk_read_source hsource] at hread
    exact isOk_source_of_readSource hread

end FileReferences

theorem provider_of_unread (env : Environment) {e : ProviderEntry} {mismatch : Mismatch}
    (h : FileReferences.read e.provider.dropNulls = .error mismatch) :
    ∃ p : IdentityProvider, provider env e = .note (.extractedProvider p.kind e.name) (.done p) ∧
      p.kind = kindOf e.provider.dropNulls ∧ p.sideFiles = {} ∧
      p.payload = Utf8.encode e.provider.dropNulls.toCompact := by
  have hlook : FileReferences.readOrEmpty e.provider.dropNulls = {} := by
    rw [FileReferences.readOrEmpty, h]
  refine ⟨{
    kind := kindOf e.provider.dropNulls
    mappingMethod := e.mappingMethod
    name := e.name
    payload := Utf8.encode e.provider.dropNulls.toCompact
    challenge := e.challenge
    login := e.login }, ?_, rfl, rfl, rfl⟩
  simp only [provider, hlook]
  split <;> rfl

/-! ## The stanzas of a master configuration -/

theorem yields_entry :
    (Yaml.readRecord "struct IdentityProviderEntry" ProviderEntry.fields {}).Yields
      fun e => e.provider.IsCanonical := by
  refine yields_readRecord ?_ .null
  simp only [ProviderEntry.fields, List.forall_mem_cons]
  exact ⟨preserves_elsewhere fun _ _ h => h, preserves_elsewhere fun _ _ h => h,
    preserves_elsewhere fun _ _ h => h, preserves_elsewhere fun _ _ h => h,
    preserves_field yields_readJson fun _ _ hv _ => hv, fun _ hf => nomatch hf⟩

theorem yields_oauth :
    (Yaml.readRecord "struct OAuthConfig" OAuthConfig.fields {}).Yields
      fun o => ∀ e ∈ o.identityProviders, e.provider.IsCanonical := by
  refine yields_readRecord ?_ fun _ he => nomatch he
  simp only [OAuthConfig.fields, List.forall_mem_cons]
  exact ⟨preserves_field (yields_readList yields_entry) fun _ _ hv _ => hv,
    preserves_elsewhere fun _ _ h => h, preserves_elsewhere fun _ _ h => h,
    fun _ hf => nomatch hf⟩

theorem yields_masterConfig :
    (Yaml.readRecord "struct MasterConfig" MasterConfig.fields {}).Yields
      fun c => ∀ o ∈ c.oauth, ∀ e ∈ o.identityProviders, e.provider.IsCanonical := by
  refine yields_readRecord ?_ fun _ ho => nomatch ho
  simp only [MasterConfig.fields, List.forall_mem_cons]
  exact ⟨preserves_field (yields_readOptional yields_oauth) fun _ _ hv _ => hv,
    preserves_elsewhere fun _ _ h => h, preserves_elsewhere fun _ _ h => h,
    preserves_elsewhere fun _ _ h => h, fun _ hf => nomatch hf⟩

/-- The stanzas of a master configuration are in canonical form. -/
theorem isCanonical_of_decode {content : Bytes} {c : MasterConfig}
    (h : MasterConfig.decode content = .ok c) : ∀ e ∈ entries c, e.provider.IsCanonical := by
  have hsection := of_read yields_masterConfig (by intro o ho; cases ho) h
  intro e he
  unfold entries at he
  split at he
  · cases he
  · rename_i o ho
    exact hsection o ho e he

/-! ## Where the look fails -/

/-- A stanza that the look cannot read names no files. It is rejected just where its kind
refuses one of its members, or where what is written of it is not read again at all. Of the
members that the look refuses these are the ones under keys of the kind; where there is none
the provider passes, and its config map is empty. -/
theorem rejected_iff_of_unread (env : Environment) {e : ProviderEntry} {k : Kind}
    {mismatch : Mismatch} (hvalue : e.provider.IsCanonical)
    (hkind : Kind.ofSource? (kindOf e.provider.dropNulls) = some k)
    (hlook : FileReferences.read e.provider.dropNulls = .error mismatch) :
    ∃ ms p, e.provider.dropNulls = .object ms ∧
      provider env e = .note (.extractedProvider p.kind e.name) (.done p) ∧
      p.sideFiles = {} ∧
      (∃ m ∈ ms, FileReferences.Refuses m) ∧
      (∀ m ∈ ms, FileReferences.Refuses m → (k.Refuses m ↔ m.1 ∈ k.keys)) ∧
      (p.Rejected ↔ Json.parseBytes? p.payload = none ∨ ∃ m ∈ ms, k.Refuses m) ∧
      ∀ s, p.settings = .ok (some s) →
        ∀ bundle ∈ (p.contribute s).configMaps, bundle.content = [] := by
  obtain ⟨ms, hms⟩ := exists_members_of_kindOf (v := e.provider.dropNulls) (by simp [hkind])
  obtain ⟨p, hp, hpkind, hfiles, hpayload⟩ := provider_of_unread env hlook
  refine ⟨ms, p, hms, hp, hfiles, ?_, ?_, ?_, fun s _ => ?_⟩
  · rw [hms] at hlook
    exact FileReferences.exists_refuses hlook
  · exact fun m _ hm => ⟨Kind.Refuses.mem_keys, FileReferences.refuses_of_mem_keys hm⟩
  · have hk : p.kind? = some k := by rw [IdentityProvider.kind?, hpkind, hkind]
    rw [IdentityProvider.rejected_iff, ← isOk_eq_false_iff, IdentityProvider.isOk_settings hk,
      isOk_eq_false_iff, hpayload]
    exact IdentityProvider.readPayload_error_iff hvalue hms k
  · exact IdentityProvider.configMaps_contribute_empty hfiles s

section

/-- The authorities are named by a number. -/
private def ldapNumberedCa : ProviderEntry where
  name := "ldap"
  mappingMethod := "claim"
  provider := .object [("ca", .integer 5), ("kind", .string "LDAPPasswordIdentityProvider")]

/-- A number is named as a file of a kind that has no such file. -/
private def gitHubNumberedCert : ProviderEntry where
  name := "github"
  mappingMethod := "claim"
  provider := .object [("ca", .string "/a"), ("certFile", .integer 5), ("clientID", .string "id"),
    ("clientSecret", .object [("file", .string "/secret")]),
    ("kind", .string "GitHubIdentityProvider")]

private theorem isCanonical_ldapNumberedCa : ldapNumberedCa.provider.IsCanonical := by
  refine .object (by unfold Json.KeysSorted; decide) ?_
  simp only [List.forall_mem_cons]
  exact ⟨.integer 5, .string _, fun _ hm => nomatch hm⟩

private theorem isCanonical_gitHubNumberedCert : gitHubNumberedCert.provider.IsCanonical := by
  have hsource : Json.IsCanonical (.object [("file", .string "/secret")]) := by
    refine .object (by unfold Json.KeysSorted; decide) ?_
    simp only [List.forall_mem_cons]
    exact ⟨.string _, fun _ hm => nomatch hm⟩
  refine .object (by unfold Json.KeysSorted; decide) ?_
  simp only [List.forall_mem_cons]
  exact ⟨.string _, .integer 5, .string _, hsource, .string _, fun _ hm => nomatch hm⟩

theorem ldapNumberedCa_rejected :
    ldapNumberedCa.provider.IsCanonical ∧
      Kind.ofSource? (kindOf ldapNumberedCa.provider.dropNulls) = some .ldap ∧
      (∃ e, FileReferences.read ldapNumberedCa.provider.dropNulls = .error e) ∧
      ∃ p, provider (fun _ => none) ldapNumberedCa =
          .note (.extractedProvider p.kind "ldap") (.done p) ∧
        p.Rejected := by
  have hkind : Kind.ofSource? (kindOf ldapNumberedCa.provider.dropNulls) = some .ldap := by decide
  obtain ⟨e, hlook⟩ : ∃ e, FileReferences.read ldapNumberedCa.provider.dropNulls = .error e :=
    ⟨_, rfl⟩
  obtain ⟨ms, p, hms, hp, -, -, -, hrejected, -⟩ :=
    rejected_iff_of_unread (fun _ => none) isCanonical_ldapNumberedCa hkind hlook
  cases hms
  refine ⟨isCanonical_ldapNumberedCa, hkind, ⟨e, hlook⟩, p, hp, hrejected.mpr (.inr ?_)⟩
  exact ⟨("ca", .integer 5), List.mem_cons_self .., _, rfl⟩

private def gitHubProvider : IdentityProvider where
  kind := "GitHubIdentityProvider"
  mappingMethod := "claim"
  name := "github"
  payload := Utf8.encode gitHubNumberedCert.provider.dropNulls.toCompact
  challenge := false
  login := false

private theorem gitHubProvider_package :
    ∃ o, (OAuthPackage.ofProviders [gitHubProvider] none {}).2 = .ok o ∧
      o.secrets = [⟨"github-secret", .literal, []⟩] ∧
      o.configMaps = [⟨"github-configmap", []⟩] := by
  have h : ((OAuthPackage.ofProviders [gitHubProvider] none {}).2.toOption.any fun o =>
      o.secrets == [⟨"github-secret", .literal, []⟩] &&
        o.configMaps == [⟨"github-configmap", []⟩]) = true := by
    decide +kernel
  obtain ⟨o, ho, hholds⟩ := toOption_any_iff.mp h
  simp only [Bool.and_eq_true, beq_iff_eq] at hholds
  exact ⟨o, ho, hholds⟩

/-- A stanza that the look cannot read need not be rejected: the check passes, and the secret
and the config map that are made of it are empty. -/
theorem gitHubNumberedCert_passes :
    gitHubNumberedCert.provider.IsCanonical ∧
      Kind.ofSource? (kindOf gitHubNumberedCert.provider.dropNulls) = some .gitHub ∧
      (∃ e, FileReferences.read gitHubNumberedCert.provider.dropNulls = .error e) ∧
      ∃ p o, provider (fun _ => none) gitHubNumberedCert =
          .note (.extractedProvider p.kind "github") (.done p) ∧
        ¬ p.Rejected ∧ IdentityProvider.validate [p] = .ok () ∧
        (OAuthPackage.ofProviders [p] none {}).2 = .ok o ∧
        o.secrets = [⟨"github-secret", .literal, []⟩] ∧
        o.configMaps = [⟨"github-configmap", []⟩] := by
  have hvalidate : IdentityProvider.validate [gitHubProvider] = .ok () := by
    obtain ⟨_, h⟩ := isOk_iff.mp
      (show (IdentityProvider.validate [gitHubProvider]).isOk = true by decide +kernel)
    exact h
  have hpasses : ¬ gitHubProvider.Rejected := by
    intro h
    obtain ⟨e, he⟩ := h.validate [gitHubProvider] (List.mem_singleton_self _)
    rw [hvalidate] at he
    cases he
  obtain ⟨o, ho, hsecrets, hconfigMaps⟩ := gitHubProvider_package
  exact ⟨isCanonical_gitHubNumberedCert, by decide, ⟨_, rfl⟩, gitHubProvider, o, rfl, hpasses,
    hvalidate, ho, hsecrets, hconfigMaps⟩

end

end Component.OAuth

end ClusterMigration
