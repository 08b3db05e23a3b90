import ClusterMigration.Destination
import ClusterMigration.Proofs.IdentityProvider.Check
import ClusterMigration.Proofs.Storage.Disk

/-!
# Where the manifests of a package go

Secrets are named after their providers, and a name that the check lets through may hold
slashes. The file of such a secret lies wherever they lead. All other manifests stay in the
directory of the manifests, which is what `manifests_stay` says.
-/

namespace ClusterMigration

def Disk.system : System (StateM Disk) := { Disk.storage with heed := fun _ => pure () }

/-! ## Names of files -/

namespace Manifest

theorem isName_iff (middle : String) :
    Path.IsName (fileNameStart ++ middle ++ ".yaml") ↔ '/' ∉ middle.toList := by
  have hstart : '/' ∉ fileNameStart.toList := by decide
  have hlist : (fileNameStart ++ middle ++ ".yaml").toList =
      fileNameStart.toList ++ (middle.toList ++ ".yaml".toList) := by
    simp
  have hlength : 2 < (fileNameStart ++ middle ++ ".yaml").length := by
    rw [String.length_append, String.length_append]
    exact Nat.lt_add_left _ (by decide)
  constructor
  · intro h hmem
    refine h.no_slash ?_
    rw [hlist]
    simp [hmem]
  · intro h
    refine ⟨?_, ?_, ?_, ?_⟩
    · intro heq
      exact absurd (heq ▸ hlength) (by decide)
    · intro heq
      exact absurd (heq ▸ hlength) (by decide)
    · intro heq
      exact absurd (heq ▸ hlength) (by decide)
    · rw [hlist]
      simp [hstart, h]

theorem isName_secretFileName (name : String) :
    Path.IsName (secretFileName name) ↔ '/' ∉ name.toList := by
  have hname : secretFileName name = fileNameStart ++ ("secret-" ++ name) ++ ".yaml" := by
    simp [secretFileName, String.append_assoc]
  rw [hname, isName_iff]
  simp

theorem isName_configMapFileName (name : String) :
    Path.IsName (configMapFileName name) ↔ '/' ∉ name.toList := by
  have hname : configMapFileName name = fileNameStart ++ ("configmap-" ++ name) ++ ".yaml" := by
    simp [configMapFileName, String.append_assoc]
  rw [hname, isName_iff]
  simp

end Manifest

/-! ## Artifacts that are named after providers -/

namespace IdentityProvider

/-- The settings make secrets that bear the name of their provider. -/
def Settings.namesSecrets : Settings → Bool
  | gitHub _ | gitLab _ | google _ | openId _ => true
  | basicAuth s => !s.certFile.isEmpty
  | keystone s => !s.certFile.isEmpty
  | htpasswd _ | ldap _ | requestHeader _ => false

theorem slash_certificate (p : IdentityProvider) (purpose : Purpose) (certFile : String) :
    (∀ a ∈ (p.certificate purpose certFile).2, '/' ∉ a.name.toList) ↔
      ((!certFile.isEmpty) = true → '/' ∉ p.name.toList) := by
  by_cases h : certFile = "" <;> simp [certificate, certSecret, keySecret, h]

theorem slash_clientSecret (p : IdentityProvider) (source : StringSource) :
    (∀ a ∈ [p.clientSecret source], '/' ∉ a.name.toList) ↔ (true = true → '/' ∉ p.name.toList) := by
  simp [clientSecret]

theorem slash_secrets (p : IdentityProvider) (s : Settings) :
    (∀ a ∈ (p.contribute s).secrets, '/' ∉ a.name.toList) ↔
      (s.namesSecrets = true → '/' ∉ p.name.toList) := by
  cases s with
  | basicAuth s => exact slash_certificate p .basicAuth s.certFile
  | keystone s => exact slash_certificate p .keystone s.certFile
  | gitHub s => exact slash_clientSecret p s.clientSecret
  | gitLab s => exact slash_clientSecret p s.clientSecret
  | google s => exact slash_clientSecret p s.clientSecret
  | openId s => exact slash_clientSecret p s.clientSecret
  | htpasswd s =>
      simp [contribute, Htpasswd.contribute, contribution, htpasswdSecret, Settings.namesSecrets]
  | ldap s => simp [contribute, Ldap.contribute, contribution, Settings.namesSecrets]
  | requestHeader s =>
      simp [contribute, RequestHeader.contribute, contribution, Settings.namesSecrets]

theorem forall_mem_contributions {ps : List IdentityProvider} {cs : List Contribution}
    (h : (contributions ps).2 = .ok cs) {holds : Contribution → Prop} :
    (∀ c ∈ cs, holds c) ↔
      ∀ p ∈ ps, ∀ s, p.settings = .ok (some s) → holds (p.contribute s) := by
  induction ps generalizing cs with
  | nil =>
      cases h
      simp
  | cons p ps ih =>
      rw [List.forall_mem_cons]
      rcases settings_cases p with ⟨e, he⟩ | hunknown | ⟨s, hs⟩
      · rw [contributions_cons_of_error he] at h
        cases h
      · rw [contributions_cons_of_unknown hunknown] at h
        simp [ih h, settings_of_unknown hunknown]
      · rw [contributions_cons_of_settings hs] at h
        cases hrest : (contributions ps).2 with
        | error e =>
            rw [hrest] at h
            cases h
        | ok rest =>
            rw [hrest] at h
            cases h
            rw [List.forall_mem_cons, ih hrest, hs]
            simp

theorem no_slash_caBundle {name : String} (h : '/' ∉ name.toList) (path : String)
    (files : SideFiles) : ∀ a ∈ caBundle path name files, '/' ∉ a.name.toList := by
  by_cases hpath : path = "" <;> simp [caBundle, hpath, h]

theorem no_slash_configMaps (p : IdentityProvider) (s : Settings) :
    ∀ a ∈ (p.contribute s).configMaps, '/' ∉ a.name.toList := by
  cases s with
  | google s | htpasswd s => exact fun a ha => nomatch ha
  | _ => exact no_slash_caBundle (by decide) _ _

end IdentityProvider

/-! ## Manifests of a package -/

namespace OAuthPackage

open IdentityProvider

variable {ps : List IdentityProvider} {tokenConfig : Option TokenConfig} {templates : Templates}
  {o : OAuthPackage}

theorem no_slash_pages (t : Templates) : ∀ a ∈ t.secrets, '/' ∉ a.name.toList := by
  intro a ha
  obtain ⟨page, hpage, rfl⟩ := List.mem_map.mp ha
  simp only [Templates.pages, Templates.pages.page, List.mem_append, List.mem_map] at hpage
  rcases hpage with (⟨c, -, rfl⟩ | ⟨c, -, rfl⟩) | ⟨c, -, rfl⟩ <;> (dsimp only; decide)

theorem isName_manifests (h : (ofProviders ps tokenConfig templates).2 = .ok o) :
    (∀ x ∈ o.manifests, Path.IsName x.fileName) ↔
      ∀ p ∈ ps, ∀ s, p.settings = .ok (some s) → s.namesSecrets = true →
        '/' ∉ p.name.toList := by
  obtain ⟨cs, hcs, rfl⟩ := eq_assemble h
  have hsecrets : (∀ c ∈ cs, ∀ a ∈ c.secrets, '/' ∉ a.name.toList) ↔ _ :=
    forall_mem_contributions hcs
  have hmaps : ∀ c ∈ cs, ∀ a ∈ c.configMaps, '/' ∉ a.name.toList :=
    (forall_mem_contributions hcs).mpr fun p _ s _ => no_slash_configMaps p s
  simp only [slash_secrets] at hsecrets
  rw [← hsecrets]
  constructor
  · intro hall c hc a ha
    refine (Manifest.isName_secretFileName a.name).mp (hall (.ofSecret a) ?_)
    simp only [manifests, List.cons_append, List.mem_cons, List.mem_append]
    exact .inr (.inl (List.mem_map_of_mem
      (List.mem_append_left _ (List.mem_flatMap_of_mem hc ha))))
  · intro hall x hx
    simp only [manifests, assemble, List.cons_append, List.mem_cons, List.mem_append,
      List.mem_map, List.mem_flatMap] at hx
    rcases hx with rfl | ⟨a, ⟨c, hc, ha⟩ | ha, rfl⟩ | ⟨a, ⟨c, hc, ha⟩, rfl⟩
    · exact (Manifest.isName_iff "oauth").mpr (by decide)
    · exact (Manifest.isName_secretFileName a.name).mpr (hall c hc a ha)
    · exact (Manifest.isName_secretFileName a.name).mpr (no_slash_pages templates a ha)
    · exact (Manifest.isName_configMapFileName a.name).mpr (hmaps c hc a ha)

end OAuthPackage

/-! ## Delivery -/

namespace Destination

def manifestsPath (directory : String) : String := Path.join directory manifestsDirectory

theorem manifestsPath_ne_empty (directory : String) : manifestsPath directory ≠ "" :=
  Path.join_ne_empty (by decide) directory

theorem endsInSlash_manifestsPath (directory : String) :
    Path.endsInSlash (manifestsPath directory) = false :=
  Path.endsInSlash_join ⟨by decide, by decide, by decide, by decide⟩ directory

theorem manifestFile_eq {x : Manifest} (h : Path.IsName x.fileName) (directory : String) :
    manifestFile directory x = manifestsPath directory ++ "/" ++ x.fileName :=
  Path.join_eq_slash (Path.isAbsolute_of_isName h) (manifestsPath_ne_empty directory)
    (endsInSlash_manifestsPath directory)

def delivered (directory : String) (x : Manifest) (d : Disk) :
    Except DeliveryError Unit × Disk :=
  let after := ((deliver Disk.system directory (.manifest x)).run []).run d
  (after.1.1, after.2)

theorem run_write (file : String) (content : Bytes) (d : Disk) :
    (write Disk.system file content).run d =
      let after := ((Disk.storage (m := StateM Disk)).put file content).run d
      (after.1.mapError fun e => .notWritten file e.message, after.2) := by
  have hput : Disk.system.toStorage = Disk.storage := rfl
  rw [write, StateT.run_bind, hput]
  rcases ((Disk.storage (m := StateM Disk)).put file content).run d with ⟨result, d'⟩
  cases result <;> rfl

theorem delivered_eq (directory : String) (x : Manifest) (d : Disk) :
    delivered directory x d = (write Disk.system (manifestFile directory x) x.content).run d := by
  simp only [delivered, deliver, StateT.run_bind, StateT.run_monadLift]
  rcases (write Disk.system (manifestFile directory x) x.content).run d with ⟨result, d'⟩
  cases result <;> rfl

/-- The file of a manifest comes into the directory of the manifests, and nothing else is
touched. -/
theorem delivered_gains {x : Manifest} (h : Path.IsName x.fileName) (directory : String)
    (d : Disk) :
    let after := delivered directory x d
    Disk.Gains (manifestsPath directory) x.fileName x.content d after.2 ∧
      (after.1 = .ok () → ∃ m, after.2.locate (manifestsPath directory) = .ok m ∧
        Disk.entry? after.2 m = some .directory ∧
        Disk.entry? after.2 (m ++ [x.fileName]) = some (.file x.content)) := by
  have hput := Disk.put_name h (manifestsPath_ne_empty directory)
    (endsInSlash_manifestsPath directory) x.content d
  intro after
  have hafter : after = _ := delivered_eq directory x d
  rw [run_write, manifestFile_eq h] at hafter
  generalize ((Disk.storage (m := StateM Disk)).put
    (manifestsPath directory ++ "/" ++ x.fileName) x.content).run d = made at hput hafter
  obtain ⟨result, d'⟩ := made
  obtain ⟨hgains, hthere⟩ := hput
  rw [hafter]
  cases result with
  | error e => exact ⟨hgains, nofun⟩
  | ok _ => exact ⟨hgains, fun _ => hthere rfl⟩

/-- Providers that pass the check have a package. The files of its manifests are single
names exactly if the providers that name their secrets have no slash in their own names, and
such a file comes into the directory of the manifests. -/
theorem manifests_stay {ps : List IdentityProvider} (tokenConfig : Option TokenConfig)
    (templates : Templates) (h : IdentityProvider.validate ps = .ok ()) :
    ∃ o, (OAuthPackage.ofProviders ps tokenConfig templates).2 = .ok o ∧
      ((∀ x ∈ o.manifests, Path.IsName x.fileName) ↔
        ∀ p ∈ ps, ∀ s, p.settings = .ok (some s) → s.namesSecrets = true →
          '/' ∉ p.name.toList) ∧
      ∀ x ∈ o.manifests, Path.IsName x.fileName → ∀ directory d,
        let after := delivered directory x d
        Disk.Gains (manifestsPath directory) x.fileName x.content d after.2 ∧
          (after.1 = .ok () → ∃ m, after.2.locate (manifestsPath directory) = .ok m ∧
            Disk.entry? after.2 m = some .directory ∧
            Disk.entry? after.2 (m ++ [x.fileName]) = some (.file x.content)) := by
  obtain ⟨o, ho⟩ := OAuthPackage.exists_of_validate h
  exact ⟨o, ho, OAuthPackage.isName_manifests ho, fun _ _ hname => delivered_gains hname⟩

section

private def gitHubProvider : IdentityProvider where
  kind := "GitHubIdentityProvider"
  mappingMethod := "claim"
  name := "github"
  payload := Utf8.encode "\x7b\"clientID\":\"id\",\"clientSecret\":\"s\"\x7d"
  challenge := false
  login := false

theorem manifests_stay_gitHub :
    IdentityProvider.validate [gitHubProvider] = .ok () ∧
      ∃ o, (OAuthPackage.ofProviders [gitHubProvider] none {}).2 = .ok o ∧
        ∀ x ∈ o.manifests, Path.IsName x.fileName ∧
          Disk.Gains "out/manifests" x.fileName x.content {} (delivered "out" x {}).2 := by
  have hgitHub : IdentityProvider.validate [gitHubProvider] = .ok () := by decide +kernel
  obtain ⟨o, ho, hnames, hdelivered⟩ := manifests_stay none {} hgitHub
  have hall : ∀ x ∈ o.manifests, Path.IsName x.fileName := hnames.mpr fun p hp s _ _ => by
    obtain rfl := List.mem_singleton.mp hp
    decide
  have hpath : manifestsPath "out" = "out/manifests" := by decide
  refine ⟨hgitHub, o, ho, fun x hx => ⟨hall x hx, ?_⟩⟩
  rw [← hpath]
  exact (hdelivered x hx (hall x hx) "out" {}).1

/-- A provider whose name leads out of the directory of the manifests. -/
private def traversingProvider : IdentityProvider := { gitHubProvider with name := "/../../../x" }

private def traversingSecret : Secret := ⟨"/../../../x-secret", .literal, Utf8.encode "s"⟩

/-- The check lets the provider through, and the file of its secret lies elsewhere. -/
theorem manifest_strays :
    IdentityProvider.validate [traversingProvider] = .ok () ∧
      ∃ o, (OAuthPackage.ofProviders [traversingProvider] none {}).2 = .ok o ∧ ∃ x ∈ o.manifests,
        '/' ∈ x.fileName.toList ∧
        Disk.entry? (delivered "out" x {}).2 ["x-secret.yaml"] = some (.file x.content) := by
  have htraversing : IdentityProvider.validate [traversingProvider] = .ok () := by decide +kernel
  have hsettings : traversingProvider.settings =
      .ok (some (.gitHub { clientId := "id", clientSecret := { value := "s" } })) := by
    decide +kernel
  obtain ⟨o, ho⟩ : ∃ o, (OAuthPackage.ofProviders [traversingProvider] none {}).2 = .ok o :=
    OAuthPackage.exists_of_validate htraversing
  obtain ⟨cs, hcs, rfl⟩ := OAuthPackage.eq_assemble ho
  have hsecretFile :
      Manifest.ofSecret traversingSecret ∈ (OAuthPackage.assemble cs none {}).manifests := by
    rw [IdentityProvider.contributions_cons_of_settings hsettings] at hcs
    cases hcs
    have hsecret : traversingSecret = traversingProvider.clientSecret { value := "s" } := by
      decide +kernel
    simp [OAuthPackage.manifests, OAuthPackage.assemble, hsecret, IdentityProvider.contribute,
      IdentityProvider.GitHub.contribute, IdentityProvider.contribution]
  have hslash : '/' ∈ (Manifest.ofSecret traversingSecret).fileName.toList := by decide +kernel
  have hplace : Disk.entry? (delivered "out" (.ofSecret traversingSecret) {}).2 ["x-secret.yaml"] =
      some (.file (Manifest.ofSecret traversingSecret).content) := by decide +kernel
  exact ⟨htraversing, _, ho, .ofSecret traversingSecret, hsecretFile, hslash, hplace⟩

end

end Destination

end ClusterMigration
