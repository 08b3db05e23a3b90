import ClusterMigration.Proofs.Component.Origins
import ClusterMigration.Proofs.IdentityProvider.Check
import ClusterMigration.Proofs.Result
import ClusterMigration.Proofs.Text.Utf8

/-!
# Contents of artifacts

Every artifact holds what is found where the settings of its provider say, but for one
kind: a request header provider takes its authorities from `clientCA`, while the look that
names the files takes `ca` first.
-/

namespace ClusterMigration

namespace Component.OAuth

open IdentityProvider (Settings Kind Faithful Holds caBundle check_of_validate resolvedText)
open Gather (result_bind_eq_ok result_file_eq_ok)

variable {files : Files} {env : Environment} {p : IdentityProvider} {r : FileReferences}

/-! ## What is gathered for a provider -/

/-- The contents are what is found where the look says. -/
structure Fetched (files : Files) (env : Environment) (r : FileReferences) (f : SideFiles) :
    Prop where
  htpasswd : (Origin.file r.file).content files env = .ok f.htpasswd
  ca : (Origin.file r.authorities).content files env = .ok f.ca
  cert : (Origin.file r.certFile).content files env = .ok f.cert
  key : (Origin.file r.keyFile).content files env = .ok f.key
  clientSecret : (resolve env r.clientSecret).result files = .ok f.clientSecret
  bindPassword : (resolve env r.bindPassword).result files = .ok f.bindPassword

theorem content_of_fileIfNamed {path : String} {content : Bytes}
    (h : (fileIfNamed path).result files = .ok content) :
    (Origin.file path).content files env = .ok content := by
  rw [fileIfNamed] at h
  by_cases hpath : path = ""
  · rw [if_pos (by simpa using hpath)] at h
    cases h
    rw [Origin.content, if_pos hpath]
  · rw [if_neg (by simpa using hpath)] at h
    rw [Origin.content, if_neg hpath]
    exact result_file_eq_ok.mp h

theorem fetched_of_sideFiles {f : SideFiles} (h : (sideFiles env r).result files = .ok f) :
    Fetched files env r f := by
  rw [sideFiles] at h
  obtain ⟨htpasswd, hhtpasswd, h⟩ := result_bind_eq_ok.mp h
  obtain ⟨ca, hca, h⟩ := result_bind_eq_ok.mp h
  obtain ⟨cert, hcert, h⟩ := result_bind_eq_ok.mp h
  obtain ⟨key, hkey, h⟩ := result_bind_eq_ok.mp h
  obtain ⟨clientSecret, hsecret, h⟩ := result_bind_eq_ok.mp h
  obtain ⟨bindPassword, hpassword, h⟩ := result_bind_eq_ok.mp h
  cases h
  exact ⟨content_of_fileIfNamed hhtpasswd, content_of_fileIfNamed hca,
    content_of_fileIfNamed hcert, content_of_fileIfNamed hkey, hsecret, hpassword⟩

theorem text_of_resolve {source : Option StringSource} {resolved : Option String}
    (h : (resolve env source).result files = .ok resolved)
    (hplain : (source.getD {}).isEncrypted = false) :
    (source.getD {}).text files env = .ok (resolvedText resolved (source.getD {})) := by
  cases source with
  | none =>
      cases h
      rfl
  | some s =>
      rw [Option.getD_some] at hplain ⊢
      simp only [resolve, hplain, Bool.false_eq_true, if_false] at h
      unfold StringSource.text
      by_cases hvalue : s.value = ""
      · rw [if_neg (by simpa using hvalue)] at h ⊢
        by_cases hfile : s.file = ""
        · rw [if_neg (by simpa using hfile)] at h ⊢
          by_cases henv : s.env = ""
          · rw [if_neg (by simpa using henv)] at h ⊢
            cases h
            rw [resolvedText, Option.getD_none, hvalue]
          · rw [if_pos (by simpa using henv)] at h ⊢
            cases h
            rfl
        · rw [if_pos (by simpa using hfile)] at h ⊢
          obtain ⟨content, hcontent, h⟩ := result_bind_eq_ok.mp h
          cases h
          rw [result_file_eq_ok.mp hcontent]
          rfl
      · rw [if_pos (by simpa using hvalue)] at h ⊢
        cases h
        rfl

/-! ## What the artifacts of a provider hold -/

theorem holds_bundle_iff {path name : String} {f : SideFiles} :
    List.Forall₂ (fun named a => Holds files env named a.name a.content)
        (Settings.bundle name path) (caBundle path name f) ↔
      (path ≠ "" → files path = .ok f.ca) := by
  by_cases hpath : path = ""
  · simp [Settings.bundle, caBundle, hpath]
  · simp [Settings.bundle, caBundle, hpath, Holds, Origin.content]

theorem holds_pair {certFile keyFile : String} (purpose : Purpose)
    (hcert : (Origin.file certFile).content files env = .ok p.sideFiles.cert)
    (hkey : (Origin.file keyFile).content files env = .ok p.sideFiles.key) :
    List.Forall₂ (fun named a => Holds files env named a.name a.content)
      (Settings.pair p.name certFile keyFile) (p.certificate purpose certFile).2 := by
  by_cases h : certFile = ""
  · simp [Settings.pair, IdentityProvider.certificate, h]
  · simp only [Settings.pair, IdentityProvider.certificate, h, if_false,
      String.isEmpty_iff]
    exact .cons ⟨rfl, hcert⟩ (.cons ⟨rfl, hkey⟩ .nil)

theorem holds_clientSecret {source : StringSource}
    (h : source.text files env = .ok (resolvedText p.sideFiles.clientSecret source)) :
    List.Forall₂ (fun named a => Holds files env named a.name a.content)
      [(p.name ++ "-secret", Origin.text source)] [p.clientSecret source] := by
  refine .cons ⟨rfl, ?_⟩ .nil
  rw [Origin.content, h]
  rfl

/-- The settings take the authorities from `clientCA` while the look takes them from `ca`,
and the two files are not the same. -/
def Misled (files : Files) (r : FileReferences) : Settings → Prop
  | .requestHeader s => s.clientCa ≠ "" ∧ r.ca ≠ "" ∧ files r.ca ≠ files s.clientCa
  | _ => False

theorem files_of_fetched {f : SideFiles} (hfetched : Fetched files env r f) {path : String}
    (h : path = r.ca) (hpath : path ≠ "") : files path = .ok f.ca := by
  subst h
  have hca := hfetched.ca
  rw [FileReferences.authorities, if_neg (by simpa using hpath), Origin.content,
    if_neg hpath] at hca
  exact hca

theorem faithful_requestHeader_iff {s : IdentityProvider.RequestHeader}
    (hfetched : Fetched files env r p.sideFiles) (hca : s.clientCa = r.clientCa) :
    Faithful files env p (.requestHeader s) ↔ ¬ Misled files r (.requestHeader s) := by
  have hbundle : Faithful files env p (.requestHeader s) ↔
      (s.clientCa ≠ "" → files s.clientCa = .ok p.sideFiles.ca) :=
    ⟨fun h => holds_bundle_iff.mp h.configMaps,
      fun h => ⟨.nil, holds_bundle_iff.mpr h, fun _ hl => nomatch hl⟩⟩
  rw [hbundle, Misled]
  have hfound := hfetched.ca
  rw [FileReferences.authorities] at hfound
  by_cases hr : r.ca = ""
  · rw [if_pos (by simpa using hr), ← hca, Origin.content] at hfound
    refine iff_of_true (fun hne => ?_) (fun h => h.2.1 hr)
    rw [if_neg hne] at hfound
    exact hfound
  · rw [if_neg (by simpa using hr), Origin.content, if_neg hr] at hfound
    rw [hfound]
    constructor
    · rintro h ⟨hne, _, hdiffer⟩
      exact hdiffer (h hne).symm
    · intro h hne
      by_contra hdiffer
      exact h ⟨hne, hr, Ne.symm hdiffer⟩

/-- Where no source is encrypted, the artifacts of a provider hold what its settings name
unless it is misled. -/
theorem faithful_iff {s : Settings} (hfetched : Fetched files env r p.sideFiles)
    (hselects : r.Selects s) (hplain : ∀ source ∈ s.source?, source.isEncrypted = false) :
    Faithful files env p s ↔ ¬ Misled files r s := by
  have hsecret {source : StringSource} (h : source = r.clientSecret.getD {})
      (hsource : source.isEncrypted = false) :=
    holds_clientSecret (p := p) (h ▸ text_of_resolve hfetched.clientSecret (h ▸ hsource))
  cases s with
  | basicAuth s | keystone s =>
      obtain ⟨hca, hcert, hkey⟩ := hselects
      refine iff_of_true ⟨?_, holds_bundle_iff.mpr (files_of_fetched hfetched hca), ?_⟩ id
      · refine holds_pair _ ?_ ?_
        · rw [hcert]
          exact hfetched.cert
        · rw [hkey]
          exact hfetched.key
      · exact fun _ hl => nomatch hl
  | gitHub s | gitLab s | openId s =>
      obtain ⟨hca, hsource⟩ := hselects
      exact iff_of_true ⟨hsecret hsource (hplain _ rfl),
        holds_bundle_iff.mpr (files_of_fetched hfetched hca), fun _ hl => nomatch hl⟩ id
  | google s =>
      exact iff_of_true ⟨hsecret hselects (hplain _ rfl), .nil, fun _ hl => nomatch hl⟩ id
  | htpasswd s =>
      have hfile : s.file = r.file := hselects
      refine iff_of_true ⟨.cons ⟨rfl, ?_⟩ .nil, .nil, fun _ hl => nomatch hl⟩ id
      rw [hfile]
      exact hfetched.htpasswd
  | ldap s =>
      obtain ⟨hca, hsource⟩ := hselects
      have htext := text_of_resolve hfetched.bindPassword (hsource ▸ hplain _ rfl)
      rw [← hsource] at htext
      refine iff_of_true ⟨.nil, holds_bundle_iff.mpr (files_of_fetched hfetched hca), ?_⟩ id
      rintro _ ⟨⟩
      refine ⟨_, htext, ?_⟩
      simp [IdentityProvider.contribute, IdentityProvider.Ldap.contribute,
        IdentityProvider.contribution, List.lookup_append, Json.lookup_cons_eq]
  | requestHeader s => exact faithful_requestHeader_iff hfetched hselects

/-! ## Settings that passed the check -/

theorem not_broken_of_firstViolation? {rules : List IdentityProvider.Rule}
    {rule : IdentityProvider.Rule} (h : IdentityProvider.firstViolation? rules = none)
    (hrule : rule ∈ rules) : rule.broken = false := by
  rw [IdentityProvider.firstViolation?, Option.map_eq_none_iff, List.find?_eq_none] at h
  simpa using h rule hrule

theorem exists_rule_of_source {s : Settings} {source : StringSource}
    (h : source ∈ s.source?) : ∃ rule ∈ s.rules, rule.broken = source.isEncrypted := by
  cases s with
  | gitHub s | gitLab s | google s | openId s =>
      cases h
      refine ⟨⟨s.clientSecret.isEncrypted, .encryptedClientSecret⟩, ?_, rfl⟩
      simp [Settings.rules, IdentityProvider.clientRules]
  | ldap s =>
      cases h
      exact ⟨⟨s.bindPassword.isEncrypted, .encryptedBindPassword⟩, by simp [Settings.rules], rfl⟩
  | basicAuth | htpasswd | keystone | requestHeader => cases h

theorem settings_of_check (hkind : p.kind?.isSome = true) (h : p.check = .ok ()) :
    ∃ s, p.settings = .ok (some s) ∧ ∀ source ∈ s.source?, source.isEncrypted = false := by
  unfold IdentityProvider.check at h
  split at h
  · cases h
  · rename_i hnone
    rw [IdentityProvider.kind?_of_settings_none hnone] at hkind
    cases hkind
  · rename_i s hs
    split at h
    · rename_i hviolation
      refine ⟨s, hs, fun source hsource => ?_⟩
      obtain ⟨rule, hrule, hbroken⟩ := exists_rule_of_source hsource
      rw [← hbroken]
      exact not_broken_of_firstViolation? hviolation (List.mem_append_right _ hrule)
    · cases h

theorem validate_eq_ok {d : Data} :
    validate d = .ok () ↔ IdentityProvider.validate d.providers = .ok () := by
  unfold validate
  cases IdentityProvider.validate d.providers with
  | ok _ =>
      constructor <;> intro h <;> cases h <;> rfl
  | error e =>
      constructor <;> intro h <;> cases h

/-! ## The stanza as it is written and read again -/

theorem exists_members_of_kindOf {v : Json} (h : (Kind.ofSource? (kindOf v)).isSome = true) :
    ∃ ms, v = .object ms := by
  cases v with
  | object ms => exact ⟨ms, rfl⟩
  | null | bool | integer | float | string | array => cases h

theorem returns_of_settings {v : Json} {s : Settings}
    (hpayload : p.payload = Utf8.encode v.toCompact) (h : p.settings = .ok (some s)) :
    ∃ u k, Json.Returns v u ∧ Settings.read u k = .ok s := by
  unfold IdentityProvider.settings at h
  split at h
  · cases h
  · rename_i k _
    split at h
    · rename_i hread
      cases h
      unfold IdentityProvider.readPayload at hread
      split at hread
      · cases hread
      · rename_i u hparse
        rw [hpayload, Json.parseBytes?, Utf8.decode?_encode, Option.bind_some] at hparse
        refine ⟨u.dropNulls, k, Json.returns_of_parse? hparse, ?_⟩
        revert hread
        cases Settings.read u.dropNulls k with
        | ok s => exact fun h => by cases h; rfl
        | error e => exact fun h => nomatch h
    · cases h

/-! ## The whole component -/

theorem forall₂_of_providers {es : List ProviderEntry} {ps : List IdentityProvider}
    (h : (providers env es).result files = .ok ps) :
    List.Forall₂ (fun e p => (provider env e).result files = .ok p) es ps := by
  induction es generalizing ps with
  | nil =>
      cases h
      exact .nil
  | cons e es ih =>
      rw [providers] at h
      obtain ⟨p, hp, h⟩ := result_bind_eq_ok.mp h
      obtain ⟨rest, hrest, h⟩ := result_bind_eq_ok.mp h
      cases h
      exact .cons hp (ih hrest)

theorem fetched_of_provider {e : ProviderEntry} (h : (provider env e).result files = .ok p)
    (hkind : (Kind.ofSource? (kindOf e.provider.dropNulls)).isSome = true)
    (hlook : FileReferences.read e.provider.dropNulls = .ok r) :
    Fetched files env r p.sideFiles ∧ p.kind = kindOf e.provider.dropNulls ∧
      p.payload = Utf8.encode e.provider.dropNulls.toCompact := by
  simp only [provider, hkind, if_true] at h
  obtain ⟨f, hf, h⟩ := result_bind_eq_ok.mp h
  obtain ⟨_, _, h⟩ := result_bind_eq_ok.mp h
  cases h
  rw [FileReferences.readOrEmpty, hlook] at hf
  exact ⟨fetched_of_sideFiles hf, rfl, rfl⟩

def entries (c : MasterConfig) : List ProviderEntry :=
  match c.oauth with
  | none => []
  | some o => o.identityProviders

theorem entries_of_gather {path : String} {d : Data}
    (h : (gather env path).result files = .ok d) :
    ∃ content c, files path = .ok content ∧ MasterConfig.decode content = .ok c ∧
      List.Forall₂ (fun e p => (provider env e).result files = .ok p) (entries c)
        d.providers := by
  unfold gather at h
  obtain ⟨c, hc, h⟩ := result_bind_eq_ok.mp h
  unfold masterConfig at hc
  obtain ⟨content, hcontent, hc⟩ := result_bind_eq_ok.mp hc
  split at hc
  · rename_i hdecode
    cases hc
    refine ⟨content, c, result_file_eq_ok.mp hcontent, hdecode, ?_⟩
    unfold entries
    cases ho : c.oauth with
    | none =>
        rw [ho] at h
        cases h
        exact .nil
    | some o =>
        rw [ho] at h
        obtain ⟨ps, hps, h⟩ := result_bind_eq_ok.mp h
        obtain ⟨t, _, h⟩ := result_bind_eq_ok.mp h
        cases h
        exact forall₂_of_providers hps
  · cases hc

def extraction (d : Data) : Extraction where
  validate := validate d
  transform := (.transforming name :: (transform d).1, (transform d).2)

theorem extract_eq_ok {path : String} {x : Extraction} :
    (oauth env path).extract.result files = .ok x ↔
      ∃ d, (gather env path).result files = .ok d ∧ extraction d = x := by
  constructor
  · intro h
    obtain ⟨_, _, h⟩ := result_bind_eq_ok.mp h
    obtain ⟨d, hd, h⟩ := result_bind_eq_ok.mp h
    cases h
    exact ⟨d, hd, rfl⟩
  · rintro ⟨d, hd, rfl⟩
    exact result_bind_eq_ok.mpr ⟨(), rfl, result_bind_eq_ok.mpr ⟨d, hd, rfl⟩⟩

structure Holding (o : OAuthPackage) (c : IdentityProvider.Contribution) : Prop where
  fragment : c.fragment ∈ o.fragments
  secrets : c.secrets ⊆ o.secrets
  configMaps : c.configMaps ⊆ o.configMaps

theorem exists_of_forall₂ {α β : Type} {R : α → β → Prop} {as : List α} {bs : List β}
    (h : List.Forall₂ R as bs) {a : α} (ha : a ∈ as) : ∃ b ∈ bs, R a b := by
  induction h with
  | nil => cases ha
  | @cons a' b as bs hr _ ih =>
      rcases List.mem_cons.mp ha with rfl | ha
      · exact ⟨b, List.mem_cons_self .., hr⟩
      · obtain ⟨b', hb', hr'⟩ := ih ha
        exact ⟨b', List.mem_cons_of_mem _ hb', hr'⟩

theorem package_of_transform {d : Data} {outputs : List Output}
    (h : (transform d).2 = .ok outputs) :
    ∃ o : OAuthPackage, Output.manifests o.manifests ∈ outputs ∧
      ∀ p ∈ d.providers, ∀ s, p.settings = .ok (some s) → Holding o (p.contribute s) := by
  unfold transform at h
  split at h
  · cases h
  · rename_i notices o ho
    cases h
    refine ⟨o, List.mem_cons_self .., fun p hp s hs => ?_⟩
    obtain ⟨cs, hcs, rfl⟩ := OAuthPackage.eq_assemble (congrArg Prod.snd ho)
    have hall := IdentityProvider.forall₂_contributions hcs
    have hknown : p ∈ d.providers.filter (·.kind?.isSome) :=
      List.mem_filter.mpr ⟨hp, IdentityProvider.kind?_isSome_of_settings hs⟩
    obtain ⟨c, hc, s', hs', rfl⟩ := exists_of_forall₂ hall hknown
    rw [hs] at hs'
    cases hs'
    exact ⟨List.mem_map_of_mem hc,
      fun a ha => List.mem_append_left _ (List.mem_flatMap_of_mem hc ha),
      fun a ha => List.mem_flatMap_of_mem hc ha⟩

/-- For every entry of a known kind that the look can read, the settings can be read in full,
the package that is put out holds what the provider contributes, and `good` is true of it. -/
def EachProvider (files : Files) (env : Environment) (path : String) (outputs : List Output)
    (good : FileReferences → IdentityProvider → Settings → Prop) : Prop :=
  ∃ content c d o, files path = .ok content ∧ MasterConfig.decode content = .ok c ∧
    (gather env path).result files = .ok d ∧
    Output.manifests (OAuthPackage.manifests o) ∈ outputs ∧
    List.Forall₂ (fun e p => ∀ r,
        (Kind.ofSource? (kindOf e.provider.dropNulls)).isSome = true →
        FileReferences.read e.provider.dropNulls = .ok r →
        ∃ s, p.settings = .ok (some s) ∧ Holding o (p.contribute s) ∧ good r p s)
      (entries c) d.providers

/-- Where the component succeeds, the artifacts of every provider hold what its settings
name, unless it is a request header provider whose `ca` and `clientCA` name different
files. -/
theorem faithful_unless_misled {path : String} {x : Extraction} {outputs : List Output}
    (hextract : (oauth env path).extract.result files = .ok x) (hvalidate : x.validate = .ok ())
    (htransform : x.transform.2 = .ok outputs) :
    EachProvider files env path outputs fun r p s =>
      Faithful files env p s ↔ ¬ Misled files r s := by
  obtain ⟨d, hgather, rfl⟩ := extract_eq_ok.mp hextract
  obtain ⟨content, c, hcontent, hdecode, hentries⟩ := entries_of_gather hgather
  obtain ⟨o, ho, hholding⟩ := package_of_transform htransform
  refine ⟨content, c, d, o, hcontent, hdecode, hgather, ho, ?_⟩
  have hchecked : ∀ p ∈ d.providers, p.check = .ok () ∧
      ∀ s, p.settings = .ok (some s) → Holding o (p.contribute s) :=
    fun p hp => ⟨check_of_validate (validate_eq_ok.mp hvalidate) p hp, hholding p hp⟩
  have hall := (List.forall₂_and_left _ _).mpr ⟨hchecked, hentries.flip⟩
  refine (hall.imp ?_).flip
  rintro p e ⟨⟨hcheck, hholds⟩, he⟩ r hkind hlook
  obtain ⟨hfetched, hpkind, hpayload⟩ := fetched_of_provider he hkind hlook
  have hknown : p.kind?.isSome = true := by
    rw [IdentityProvider.kind?, hpkind]
    exact hkind
  obtain ⟨s, hs, hplain⟩ := settings_of_check hknown hcheck
  refine ⟨s, hs, hholds s hs, faithful_iff hfetched ?_ hplain⟩
  obtain ⟨ms, hms⟩ := exists_members_of_kindOf hkind
  obtain ⟨u, k, hreturns, hread⟩ := returns_of_settings hpayload hs
  rw [hms] at hlook hreturns
  exact FileReferences.selects_of_returns hlook hread hreturns

section

private def passes (d : Data) : Bool := (validate d).isOk && (transform d).2.isOk

private theorem exists_of_passes {path : String} {d : Data}
    (h : (gather env path).result files = .ok d) (hd : passes d = true) :
    ∃ x outputs, (oauth env path).extract.result files = .ok x ∧ x.validate = .ok () ∧
      x.transform.2 = .ok outputs := by
  rw [passes, Bool.and_eq_true] at hd
  obtain ⟨_, hvalidate⟩ := isOk_iff.mp hd.1
  obtain ⟨outputs, houtputs⟩ := isOk_iff.mp hd.2
  exact ⟨extraction d, outputs, extract_eq_ok.mpr ⟨d, h, rfl⟩, hvalidate, houtputs⟩

private def htpasswdMaster : Bytes := Utf8.encode
  "oauthConfig: \x7bidentityProviders: [\x7bname: htpasswd, mappingMethod: add, provider:
    \x7bkind: HTPasswdPasswordIdentityProvider, file: /users\x7d\x7d]\x7d"

/-- A stanza with files under both keys. -/
private def requestHeaderMaster : Bytes := Utf8.encode
  "oauthConfig: \x7bidentityProviders: [\x7bname: header, mappingMethod: add, provider:
    \x7bkind: RequestHeaderIdentityProvider, headers: [h], ca: /a, clientCA: /b\x7d\x7d]\x7d"

private def siteFiles : Files := fun path =>
  match path with
  | "/htpasswd" => .ok htpasswdMaster
  | "/requestHeader" => .ok requestHeaderMaster
  | "/users" => .ok [0]
  | "/a" => .ok [1]
  | "/b" => .ok [2]
  | _ => .error (.unreadable path "no such file")

private theorem htpasswd_passes :
    ∃ d, (gather (fun _ => none) "/htpasswd").result siteFiles = .ok d ∧ passes d = true := by
  have h : ((gather (fun _ => none) "/htpasswd").result siteFiles).toOption.any passes = true := by
    decide +kernel
  exact toOption_any_iff.mp h

theorem faithful_of_htpasswd :
    ∃ x outputs, (oauth (fun _ => none) "/htpasswd").extract.result siteFiles = .ok x ∧
      x.validate = .ok () ∧ x.transform.2 = .ok outputs ∧
      EachProvider siteFiles (fun _ => none) "/htpasswd" outputs fun r p s =>
        Faithful siteFiles (fun _ => none) p s ↔ ¬ Misled siteFiles r s := by
  obtain ⟨d, hd, hpasses⟩ := htpasswd_passes
  obtain ⟨x, outputs, hextract, hvalidate, htransform⟩ := exists_of_passes hd hpasses
  exact ⟨x, outputs, hextract, hvalidate, htransform,
    faithful_unless_misled hextract hvalidate htransform⟩

/-- The one entry is known and can be looked at, and its provider has the contents of `/a`
for the authorities that its settings name as `/b`. -/
private def swapped (c : MasterConfig) (d : Data) : Bool :=
  passes d && match entries c, d.providers with
  | [e], [p] =>
    (Kind.ofSource? (kindOf e.provider.dropNulls)).isSome &&
      (FileReferences.read e.provider.dropNulls).isOk && p.sideFiles.ca == [1] &&
      match p.settings with
      | .ok (some (.requestHeader s)) => s.clientCa == "/b"
      | _ => false
  | _, _ => false

private theorem requestHeader_swapped :
    ∃ c d, MasterConfig.decode requestHeaderMaster = .ok c ∧
      (gather (fun _ => none) "/requestHeader").result siteFiles = .ok d ∧ swapped c d = true := by
  have h : ((MasterConfig.decode requestHeaderMaster).toOption.any fun c =>
      ((gather (fun _ => none) "/requestHeader").result siteFiles).toOption.any (swapped c)) =
        true := by
    decide +kernel
  obtain ⟨c, hc, h⟩ := toOption_any_iff.mp h
  obtain ⟨d, hd, hswapped⟩ := toOption_any_iff.mp h
  exact ⟨c, d, hc, hd, hswapped⟩

/-- The artifacts of a request header provider need not hold what its settings name. -/
theorem requestHeader_not_faithful :
    ¬ ∀ (files : Files) (env : Environment) (path : String) (x : Extraction)
      (outputs : List Output), (oauth env path).extract.result files = .ok x →
      x.validate = .ok () → x.transform.2 = .ok outputs →
      EachProvider files env path outputs fun _ p s => Faithful files env p s := by
  intro h
  obtain ⟨c, d, hdecode, hgather, hswapped⟩ := requestHeader_swapped
  rw [swapped, Bool.and_eq_true] at hswapped
  obtain ⟨hpasses, hswapped⟩ := hswapped
  obtain ⟨x, outputs, hextract, hvalidate, htransform⟩ := exists_of_passes hgather hpasses
  obtain ⟨content, c', d', o, hcontent, hdecode', hgather', _, hall⟩ :=
    h _ _ _ _ _ hextract hvalidate htransform
  obtain rfl : requestHeaderMaster = content := Except.ok.inj hcontent
  obtain rfl : c = c' := Except.ok.inj (hdecode.symm.trans hdecode')
  obtain rfl : d = d' := Except.ok.inj (hgather.symm.trans hgather')
  split at hswapped
  · rename_i e p he hp
    rw [he, hp] at hall
    cases hall with
    | cons hrule _ =>
        simp only [Bool.and_eq_true, beq_iff_eq] at hswapped
        obtain ⟨⟨⟨hkind, hlook⟩, hca⟩, hsettings⟩ := hswapped
        obtain ⟨r, hr⟩ := isOk_iff.mp hlook
        obtain ⟨s, hs, _, hfaithful⟩ := hrule r hkind hr
        rw [hs] at hsettings
        cases s with
        | requestHeader s =>
            have hb : s.clientCa = "/b" := by simpa using hsettings
            have hfound := holds_bundle_iff.mp hfaithful.configMaps
            rw [hb, hca] at hfound
            cases hfound (by decide)
        | _ => cases hsettings
  · cases hswapped

end

end Component.OAuth

end ClusterMigration
