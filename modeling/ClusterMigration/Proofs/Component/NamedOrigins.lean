import ClusterMigration.Proofs.Component.Origins
import ClusterMigration.Proofs.IdentityProvider.Demands

/-!
# Origins that are named

Whether the settings of a provider name an origin for every artifact that the provider
contributes. The check sees to it for every kind but one: it demands nothing of the providers
whose users are in a file, so their secret is made even where no file is named. The main
statement is `origins_named_of_validate`.
-/

namespace ClusterMigration

/-- A file is named, or something says where the text comes from. -/
def Origin.IsNamed : Origin → Prop
  | file path => path ≠ ""
  | text source => source.IsGiven

namespace IdentityProvider

def IsNamedFor (named : String × Origin) (name : String) : Prop :=
  name = named.1 ∧ named.2.IsNamed

/-- The artifacts of a provider are those that its settings call for, and for each of them the
settings name an origin. -/
structure NamesOrigins (p : IdentityProvider) (s : Settings) : Prop where
  secrets : List.Forall₂ (fun named a => IsNamedFor named a.name) (s.secrets p.name)
    (p.contribute s).secrets
  configMaps : List.Forall₂ (fun named a => IsNamedFor named a.name) s.configMaps
    (p.contribute s).configMaps

/-- The settings are of the kind whose users are in a file, and name none. -/
def Settings.OmitsUsers : Settings → Prop
  | htpasswd s => s.file = ""
  | _ => False

variable {p : IdentityProvider} {s : Settings} {ps : List IdentityProvider}

theorem isNamedFor_bundle (name path : String) (files : SideFiles) :
    List.Forall₂ (fun named a => IsNamedFor named a.name) (Settings.bundle name path)
      (caBundle path name files) := by
  by_cases hpath : path = ""
  · simp [Settings.bundle, caBundle, hpath]
  · simp only [Settings.bundle, caBundle, hpath, if_false, String.isEmpty_iff]
    exact .cons ⟨rfl, hpath⟩ .nil

theorem isNamedFor_pair {certFile keyFile : String} (p : IdentityProvider) (purpose : Purpose)
    (h : HasKey certFile keyFile) :
    List.Forall₂ (fun named a => IsNamedFor named a.name)
      (Settings.pair p.name certFile keyFile) (p.certificate purpose certFile).2 := by
  by_cases hcert : certFile = ""
  · simp [Settings.pair, certificate, hcert]
  · simp only [Settings.pair, certificate, hcert, if_false, String.isEmpty_iff]
    exact .cons ⟨rfl, hcert⟩ (.cons ⟨rfl, h hcert⟩ .nil)

theorem isNamedFor_clientSecret {clientId : String} {source : StringSource}
    (p : IdentityProvider) (h : IsClient clientId source) :
    List.Forall₂ (fun named a => IsNamedFor named a.name)
      [(p.name ++ "-secret", Origin.text source)] [p.clientSecret source] :=
  .cons ⟨rfl, h.isGiven⟩ .nil

theorem namesOrigins_htpasswd_iff {s : Htpasswd} :
    NamesOrigins p (.htpasswd s) ↔ s.file ≠ "" := by
  constructor
  · intro h
    cases h.secrets with
    | cons hnamed _ => exact hnamed.2
  · intro hfile
    exact ⟨.cons ⟨rfl, hfile⟩ .nil, .nil⟩

/-- What the check demands of the settings is enough for every artifact, but for the secret of
users. -/
theorem namesOrigins_iff (h : s.Suffices) : NamesOrigins p s ↔ ¬ s.OmitsUsers := by
  cases s with
  | htpasswd s => exact namesOrigins_htpasswd_iff
  | basicAuth s =>
      obtain ⟨-, hkey⟩ := h
      exact iff_of_true ⟨isNamedFor_pair p .basicAuth hkey, isNamedFor_bundle ..⟩ id
  | keystone s =>
      obtain ⟨-, -, hkey⟩ := h
      exact iff_of_true ⟨isNamedFor_pair p .keystone hkey, isNamedFor_bundle ..⟩ id
  | gitHub s => exact iff_of_true ⟨isNamedFor_clientSecret p h, isNamedFor_bundle ..⟩ id
  | gitLab s =>
      obtain ⟨-, hclient⟩ := h
      exact iff_of_true ⟨isNamedFor_clientSecret p hclient, isNamedFor_bundle ..⟩ id
  | google s => exact iff_of_true ⟨isNamedFor_clientSecret p h, .nil⟩ id
  | openId s =>
      obtain ⟨hclient, -⟩ := h
      exact iff_of_true ⟨isNamedFor_clientSecret p hclient, isNamedFor_bundle ..⟩ id
  | ldap s => exact iff_of_true ⟨.nil, isNamedFor_bundle ..⟩ id
  | requestHeader s => exact iff_of_true ⟨.nil, isNamedFor_bundle ..⟩ id

theorem suffices_of_check (h : p.check = .ok ()) (hs : p.settings = .ok (some s)) :
    s.Suffices := by
  obtain ⟨t, ht, -, -, hsuffices⟩ := check_eq_ok_iff.mp h s.kind (kind?_of_settings hs)
  rw [readPayload_of_settings hs] at ht
  cases ht
  exact hsuffices

/-- Every provider of a list that passed the check names an origin for each of the artifacts
that it contributes, unless it is of the kind whose users are in a file and names none. -/
theorem origins_named_of_validate (h : validate ps = .ok ()) :
    ∃ cs, (contributions ps).2 = .ok cs ∧
      List.Forall₂ (fun p c => ∃ s, p.settings = .ok (some s) ∧ c = p.contribute s ∧
        (NamesOrigins p s ↔ ¬ s.OmitsUsers)) (ps.filter (·.kind?.isSome)) cs := by
  obtain ⟨cs, hcs⟩ := contributions_of_readable (readable_of_validate h)
  refine ⟨cs, hcs, ?_⟩
  have hchecked : ∀ p ∈ ps.filter (·.kind?.isSome), p.check = .ok () :=
    fun p hp => check_of_validate h p (List.mem_filter.mp hp).1
  have hall := (List.forall₂_and_left _ _).mpr ⟨hchecked, forall₂_contributions hcs⟩
  refine hall.imp ?_
  rintro p c ⟨hcheck, s, hs, rfl⟩
  exact ⟨s, hs, rfl, namesOrigins_iff (suffices_of_check hcheck hs)⟩

section

private def basicAuthWithFiles : IdentityProvider where
  kind := "BasicAuthPasswordIdentityProvider"
  mappingMethod := "claim"
  name := "basic"
  payload := Utf8.encode
    "\x7b\"url\":\"u\",\"ca\":\"/a\",\"certFile\":\"/c\",\"keyFile\":\"/k\"\x7d"
  challenge := false
  login := true

private def namelessHtpasswd : IdentityProvider where
  kind := "HTPasswdPasswordIdentityProvider"
  mappingMethod := "claim"
  name := "htpasswd"
  payload := Utf8.encode "\x7b\x7d"
  challenge := false
  login := true

theorem origins_named_basicAuth :
    validate [basicAuthWithFiles] = .ok () ∧
      NamesOrigins basicAuthWithFiles
        (.basicAuth { url := "u", ca := "/a", certFile := "/c", keyFile := "/k" }) := by
  have hok : validate [basicAuthWithFiles] = .ok () := by decide +kernel
  have hs : basicAuthWithFiles.settings = .ok (some (.basicAuth
      { url := "u", ca := "/a", certFile := "/c", keyFile := "/k" })) := by
    decide +kernel
  have hknown : [basicAuthWithFiles].filter (·.kind?.isSome) = [basicAuthWithFiles] := by
    decide +kernel
  obtain ⟨cs, -, hall⟩ := origins_named_of_validate hok
  rw [hknown] at hall
  cases hall with
  | cons hbasic _ =>
      obtain ⟨s, hread, -, hnames⟩ := hbasic
      rw [hs] at hread
      cases hread
      exact ⟨hok, hnames.mpr id⟩

theorem unnamed_htpasswd :
    ¬ ∀ ps, validate ps = .ok () → ∀ p ∈ ps, ∀ s, p.settings = .ok (some s) →
      NamesOrigins p s := by
  intro h
  have hok : validate [namelessHtpasswd] = .ok () := by decide +kernel
  have hs : namelessHtpasswd.settings = .ok (some (.htpasswd {})) := by decide +kernel
  exact namesOrigins_htpasswd_iff.mp
    (h [namelessHtpasswd] hok namelessHtpasswd (List.mem_singleton_self _) _ hs) rfl

end

end IdentityProvider

end ClusterMigration
