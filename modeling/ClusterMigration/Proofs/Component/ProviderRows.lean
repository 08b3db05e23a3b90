import ClusterMigration.Proofs.Component.Accounts
import ClusterMigration.Proofs.IdentityProvider.Batch
import ClusterMigration.Proofs.IdentityProvider.Documents
import ClusterMigration.Proofs.Result

/-!
# The report about OAuth and its resource

Which providers are translated is decided in one place and what is reported of them in another,
and so it is for token lifetimes and pages. The main statement, `rows_of_transform`, says that
the two agree: each provider has its row, those that are not dropped name the items of the
resource in order, and the other rows are about what else the resource holds.
-/

namespace ClusterMigration

/-! ## Pages -/

namespace Templates

def page? (t : Templates) (key : String) : Option Bytes :=
  if key = "login" then t.login
  else if key = "error" then t.error
  else if key = "providerSelection" then t.providerSelection
  else none

theorem lookup_members (t : Templates) (key : String) :
    t.members.lookup key = (t.pages.lookup key).map fun s => reference s.name := by
  rw [members]
  induction t.pages with
  | nil => rfl
  | cons entry pages ih =>
      rw [List.map_cons, Json.lookup_cons_eq, Json.lookup_cons_eq, ih]
      split <;> rfl

theorem content_lookup_pages (t : Templates) (key : String) :
    (t.pages.lookup key).map (·.content) = t.page? key := by
  have hpage (name other : String) (content : Option Bytes) :
      ((pages.page name other content).lookup key).map (·.content) =
        if key = name then content else none := by
    cases content <;> simp [pages.page, Json.lookup_cons_eq]
  simp only [pages, List.lookup_append, Option.map_or, hpage, page?]
  split_ifs <;> simp_all

theorem keys_members (t : Templates) :
    (t.members.map (·.1)).Sublist ["login", "error", "providerSelection"] := by
  have hpage (name other : String) (content : Option Bytes) :
      ((pages.page name other content).map (·.1)).Sublist [name] := by
    cases content with
    | none => exact List.nil_sublist _
    | some content => exact List.Sublist.refl _
  have hkeys : t.members.map (·.1) = t.pages.map (·.1) := by
    rw [members, List.map_map]
    rfl
  rw [hkeys, pages, List.map_append, List.map_append]
  exact ((hpage "login" _ t.login).append (hpage "error" _ t.error)).append
    (hpage "providerSelection" _ t.providerSelection)

end Templates

namespace Component.OAuth

open IdentityProvider (Contribution contributions)
open Report (Row)

def textOf (key : String) (item : Json) : Option String := (item.member? key).bind Json.text?

/-- Translated on its own, the provider leaves no item. -/
def Vanishes (p : IdentityProvider) : Prop :=
  ∃ o, (OAuthPackage.ofProviders [p] none {}).2 = .ok o ∧ o.fragments = []

/-- What the rows say of the providers is what became of them in the resource. -/
structure ProviderRows (ps : List IdentityProvider) (rows : List Row) (items : List Json) :
    Prop where
  each : List.Forall₂ (fun p row => row.name = p.name ∧ row.kind = p.kind) ps rows
  dropped : List.Forall₂ (fun p row => row.confidence = .unsupported ↔ Vanishes p) ps rows
  supported : ∀ row ∈ rows, row.supported = false ↔ row.confidence = .unsupported
  names : (rows.filter (·.supported)).map (fun row => some row.name) = items.map (textOf "name")
  part : List.Forall₂ (fun row item => row.confidence = .part ↔ textOf "type" item = some "LDAP")
    (rows.filter (·.supported)) items

def tokenRows : List Row :=
  [.carried "AccessTokenMaxAgeSeconds" "TokenConfig",
    .carried "AuthorizeTokenMaxAgeSeconds" "TokenConfig"]

def pageKeys : List (String × String) :=
  [("Login", "login"), ("Error", "error"), ("ProviderSelection", "providerSelection")]

def pageReference? (spec : Json) (key : String) : Option Json :=
  (spec.member? "templates").bind (·.member? key)

/-- The rows about pages are those of the pages that the resource refers to, and the contents of
these are put out with it as secrets. -/
structure PageRows (t : Templates) (spec : Json) (artifacts : List Manifest) (rows : List Row) :
    Prop where
  titles : rows = (pageKeys.filter fun page => (pageReference? spec page.2).isSome).map
    fun page => .carried page.1 "Templates"
  only : ∀ v, spec.member? "templates" = some v → HasOnly v (pageKeys.map (·.2))
  secrets : ∀ key v, pageReference? spec key = some v → ∃ s : Secret,
    v = reference s.name ∧ t.page? key = some s.content ∧ ∃ m ∈ artifacts, s.Carries m

/-- The manifest of a resource with its artifacts, and behind them a report that agrees with
the document in it. -/
def Agree (d : Data) (outputs : List Output) : Prop :=
  ∃ (document spec : Json) (artifacts : List Manifest) (providerRows pageRows : List Row)
    (items : List Json),
    outputs = [
      .manifests (⟨Manifest.oauthFileName, Utf8.encode (Yaml.render document)⟩ :: artifacts),
      .report ⟨name, providerRows
        ++ (if (spec.member? "tokenConfig").isSome then tokenRows else []) ++ pageRows⟩] ∧
    document.member? "kind" = some (.string "OAuth") ∧
    document.member? "spec" = some spec ∧
    spec.member? "identityProviders" = some (.array items) ∧
    ProviderRows d.providers providerRows items ∧
    PageRows d.templates spec artifacts pageRows

/-! ## Rows about providers -/

variable {p : IdentityProvider} {ps : List IdentityProvider}

theorem supported_providerRow (p : IdentityProvider) :
    (providerRow p).supported = p.kind?.isSome := by
  unfold providerRow
  split <;> simp_all [Row.carried, Row.dropped]

theorem part_providerRow_iff (p : IdentityProvider) :
    (providerRow p).confidence = .part ↔ p.kind? = some .ldap := by
  unfold providerRow
  split <;> simp_all [Row.carried, Row.dropped]

theorem unsupported_providerRow_iff (p : IdentityProvider) :
    (providerRow p).confidence = .unsupported ↔ p.kind? = none := by
  unfold providerRow
  split <;> simp_all [Row.carried, Row.dropped]

theorem fields_providerRow (p : IdentityProvider) :
    (providerRow p).name = p.name ∧ (providerRow p).kind = p.kind := by
  unfold providerRow
  split <;> exact ⟨rfl, rfl⟩

theorem vanishes_iff (h : ¬p.IsUndecodable) : Vanishes p ↔ p.kind? = none := by
  rcases IdentityProvider.settings_cases p with he | hunknown | ⟨s, hs⟩
  · exact absurd (IdentityProvider.isUndecodable_iff.mpr he) h
  · refine iff_of_true ⟨OAuthPackage.assemble [] none {}, ?_, rfl⟩ hunknown
    have hcs : (contributions [p]).2 = .ok [] := by
      rw [IdentityProvider.contributions_cons_of_unknown hunknown]
      rfl
    exact congrArg Prod.snd (OAuthPackage.ofProviders_of_ok hcs)
  · have hcs : (contributions [p]).2 = .ok [p.contribute s] := by
      rw [IdentityProvider.contributions_cons_of_settings hs]
      rfl
    refine iff_of_false ?_ (by simp [IdentityProvider.kind?_of_settings hs])
    rintro ⟨o, ho, hnone⟩
    rw [OAuthPackage.ofProviders_of_ok hcs] at ho
    cases ho
    cases hnone

theorem providerRows {cs : List Contribution} (h : (contributions ps).2 = .ok cs) :
    ProviderRows ps (ps.map providerRow) (cs.map fun c => c.fragment.toJson) := by
  have hpaired := IdentityProvider.forall₂_contributions h
  have hsupported : (ps.map providerRow).filter (·.supported) =
      (ps.filter (·.kind?.isSome)).map providerRow := by
    rw [List.filter_map]
    simp only [Function.comp_def, supported_providerRow]
  -- one that cannot be read would have kept all of them from being translated
  have hread : ∀ p ∈ ps, ¬p.IsUndecodable := by
    intro p hp hu
    obtain ⟨e, he⟩ := (IdentityProvider.contributions_error_iff ps).mpr ⟨p, hp, hu⟩
    rw [h] at he
    cases he
  have hcarries : List.Forall₂ (fun p c => c.fragment.Carries p) (ps.filter (·.kind?.isSome)) cs :=
    hpaired.imp fun p c ⟨s, hs, hc⟩ => hc ▸ IdentityProvider.carries_contribute hs
  constructor
  · exact List.forall₂_map_right_iff.mpr (List.forall₂_same.mpr fun p _ => fields_providerRow p)
  · refine List.forall₂_map_right_iff.mpr (List.forall₂_same.mpr fun p hp => ?_)
    rw [vanishes_iff (hread p hp), unsupported_providerRow_iff]
  · intro row hrow
    obtain ⟨p, -, rfl⟩ := List.mem_map.mp hrow
    exact isHonest_providerRow p
  · rw [hsupported, List.map_map, List.map_map, ← List.forall₂_eq_eq_eq, List.forall₂_map_left_iff,
      List.forall₂_map_right_iff]
    refine hcarries.imp fun p c hc => ?_
    simp only [Function.comp_apply, textOf, hc.name, (fields_providerRow p).1]
    rfl
  · rw [hsupported, List.forall₂_map_left_iff, List.forall₂_map_right_iff]
    refine hcarries.imp fun p c hc => ?_
    obtain ⟨k, hk, htype⟩ := hc.type
    rw [part_providerRow_iff, hk, textOf, htype]
    cases k <;> decide

/-! ## Rows about what else there is -/

variable {d : Data} {cs : List Contribution} {outputs : List Output}

theorem pageReference?_assemble (cs : List Contribution) (tokenConfig : Option TokenConfig)
    (t : Templates) (key : String) :
    pageReference? (OAuthPackage.assemble cs tokenConfig t).spec key =
      (t.pages.lookup key).map fun s => reference s.name := by
  rw [pageReference?, OAuthPackage.member?_templates]
  by_cases hpages : t.pages = []
  · rw [if_pos hpages, hpages]
    rfl
  · rw [if_neg hpages, Option.bind_some, Json.member?_object, Templates.lookup_members]

theorem pageRows (cs : List Contribution) (tokenConfig : Option TokenConfig) (t : Templates)
    {artifacts : List Manifest} (hsecrets : t.secrets.map .ofSecret ⊆ artifacts) :
    PageRows t (OAuthPackage.assemble cs tokenConfig t).spec artifacts
      (templateRow "Login" t.login ++ templateRow "Error" t.error
        ++ templateRow "ProviderSelection" t.providerSelection) where
  titles := by
    have hisSome (key : String) :
        (pageReference? (OAuthPackage.assemble cs tokenConfig t).spec key).isSome =
          (t.page? key).isSome := by
      rw [pageReference?_assemble, ← Templates.content_lookup_pages, Option.isSome_map,
        Option.isSome_map]
    simp only [hisSome]
    obtain ⟨login, error, selection⟩ := t
    cases login <;> cases error <;> cases selection <;> rfl
  only v hv := by
    rw [OAuthPackage.member?_templates] at hv
    split at hv
    · cases hv
    · cases hv
      exact ⟨_, rfl, t.keys_members⟩
  secrets key v hv := by
    rw [pageReference?_assemble, Option.map_eq_some_iff] at hv
    obtain ⟨s, hs, rfl⟩ := hv
    refine ⟨s, rfl, ?_, ?_⟩
    · rw [← Templates.content_lookup_pages, hs, Option.map_some]
    · obtain ⟨before, after, hpages, -⟩ := List.lookup_eq_some_iff.mp hs
      have hpage : (key, s) ∈ t.pages := by
        rw [hpages]
        exact List.mem_append_right _ (List.mem_cons_self ..)
      exact ⟨_, hsecrets (List.mem_map_of_mem (List.mem_map_of_mem hpage)), s.carries⟩

theorem tokenConfig_assemble (cs : List Contribution) (tokenConfig : Option TokenConfig)
    (t : Templates) :
    (OAuthPackage.assemble cs tokenConfig t).spec.member? "tokenConfig" =
      tokenConfig.map (·.toJson) := by
  cases tokenConfig <;> by_cases hpages : t.members = [] <;>
    simp [OAuthPackage.spec, OAuthPackage.assemble, hpages, Json.lookup_cons_eq]

theorem outputs_of_transform (h : (transform d).2 = .ok outputs) :
    ∃ cs, (contributions d.providers).2 = .ok cs ∧
      outputs = [.manifests (OAuthPackage.assemble cs d.tokenConfig d.templates).manifests,
        .report (report d)] := by
  unfold transform at h
  split at h
  · cases h
  · rename_i notices o ho
    obtain ⟨cs, hcs, rfl⟩ := OAuthPackage.eq_assemble (congrArg Prod.snd ho)
    cases h
    exact ⟨cs, hcs, rfl⟩

/-- Where there are outputs, the report about OAuth agrees with the resource. It has a row for
each provider, in order. The supported ones name the items of the resource in order, are partly
supported just for LDAP servers, and the others are those of the providers that vanish. Behind
them stand the rows about token lifetimes, if the resource has these, and one for each page that
the resource refers to, whose secret is among the manifests. -/
theorem rows_of_transform (h : (transform d).2 = .ok outputs) : Agree d outputs := by
  obtain ⟨cs, hcs, rfl⟩ := outputs_of_transform h
  let o := OAuthPackage.assemble cs d.tokenConfig d.templates
  have hsecrets : d.templates.secrets.map Manifest.ofSecret ⊆
      o.secrets.map Manifest.ofSecret ++ o.configMaps.map Manifest.ofConfigMap := by
    intro m hm
    have ho : o.secrets = cs.flatMap (·.secrets) ++ d.templates.secrets := rfl
    rw [ho, List.map_append]
    exact List.mem_append_left _ (List.mem_append_right _ hm)
  refine ⟨o.resource.document, o.resource.spec, _, _, _, _, ?_, rfl, rfl, ?_, providerRows hcs,
    pageRows cs d.tokenConfig d.templates hsecrets⟩
  · have htokens : (o.resource.spec.member? "tokenConfig").isSome = d.tokenConfig.isSome :=
      (congrArg Option.isSome (tokenConfig_assemble cs d.tokenConfig d.templates)).trans
        Option.isSome_map
    rw [htokens, report, rows, OAuthPackage.manifests]
    simp only [List.append_assoc, List.cons_append]
    rfl
  · simp [o, OAuthPackage.resource, OAuthPackage.spec, OAuthPackage.assemble, Function.comp_def]

section

private def ldapProvider : IdentityProvider where
  kind := "LDAPPasswordIdentityProvider"
  mappingMethod := "claim"
  name := "ldap"
  payload := Utf8.encode "\x7b\"url\":\"u\"\x7d"
  challenge := true
  login := true

private def futureProvider : IdentityProvider where
  kind := "FutureProvider"
  mappingMethod := "claim"
  name := "future"
  payload := []
  challenge := false
  login := false

private def htpasswdProvider : IdentityProvider where
  kind := "HTPasswdPasswordIdentityProvider"
  mappingMethod := "claim"
  name := "htpasswd"
  payload := Utf8.encode "\x7b\"file\":\"/users\"\x7d"
  challenge := true
  login := true

private def threeProviders : Data where
  providers := [ldapProvider, futureProvider, htpasswdProvider]
  tokenConfig := some { accessTokenMaxAgeSeconds := 60 }
  templates := { error := some [0x3C] }

theorem rows_of_threeProviders :
    ∃ outputs, (transform threeProviders).2 = .ok outputs ∧ Agree threeProviders outputs ∧
      (rows threeProviders).map (fun row => (row.name, row.confidence)) =
        [("ldap", .part), ("future", .unsupported), ("htpasswd", .complete),
          ("AccessTokenMaxAgeSeconds", .complete), ("AuthorizeTokenMaxAgeSeconds", .complete),
          ("Error", .complete)] := by
  have hok : (transform threeProviders).2.isOk = true := by decide +kernel
  obtain ⟨outputs, houtputs⟩ := isOk_iff.mp hok
  exact ⟨outputs, houtputs, rows_of_transform houtputs, by decide⟩

end

end Component.OAuth

end ClusterMigration
