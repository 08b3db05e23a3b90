import ClusterMigration.Proofs.Component.Noninterference
import ClusterMigration.Proofs.Json.NullFree

/-!
# Null members of stanzas

A member of a stanza that is null counts as absent, at whatever depth it stands. The look that
names the files and the reader of the settings go by one value, the stanza without its null
members, though the first has it at hand and the second reads it from a payload and leaves out
null members once more. The main statement is `null_counts_as_absent`.
-/

namespace ClusterMigration

/-- The same entry but for members of its stanza that are null. -/
structure ProviderEntry.SameButNulls (e₁ e₂ : ProviderEntry) : Prop where
  name : e₁.name = e₂.name
  challenge : e₁.challenge = e₂.challenge
  login : e₁.login = e₂.login
  mappingMethod : e₁.mappingMethod = e₂.mappingMethod
  provider : e₁.provider.SameButNulls e₂.provider

structure OAuthConfig.SameButNulls (c₁ c₂ : OAuthConfig) : Prop where
  identityProviders :
    List.Forall₂ ProviderEntry.SameButNulls c₁.identityProviders c₂.identityProviders
  tokenConfig : c₁.tokenConfig = c₂.tokenConfig
  templates : c₁.templates = c₂.templates

namespace Component.OAuth

open IdentityProvider (Kind Settings readPayload)

variable {env : Environment} {e e₁ e₂ : ProviderEntry}

/-! ## What is gathered -/

theorem provider_eq_of_sameButNulls (h : e₁.SameButNulls e₂) :
    provider env e₁ = provider env e₂ := by
  have hvalue : e₁.provider.dropNulls = e₂.provider.dropNulls :=
    Json.sameButNulls_iff.mp h.provider
  simp only [provider, hvalue, h.name, h.challenge, h.login, h.mappingMethod]

theorem providers_eq_of_sameButNulls {es₁ es₂ : List ProviderEntry}
    (h : List.Forall₂ ProviderEntry.SameButNulls es₁ es₂) :
    providers env es₁ = providers env es₂ := by
  induction h with
  | nil => rfl
  | cons hentry _ ih => rw [providers, providers, provider_eq_of_sameButNulls hentry, ih]

theorem gatherSection_eq_of_sameButNulls {c₁ c₂ : Option OAuthConfig}
    (h : Option.Rel OAuthConfig.SameButNulls c₁ c₂) :
    gatherSection env c₁ = gatherSection env c₂ := by
  cases h with
  | none => rfl
  | some h =>
      rw [gatherSection, gatherSection, providers_eq_of_sameButNulls h.identityProviders,
        h.tokenConfig, h.templates]

/-! ## What is read -/

/-- The kind and the files of a provider come from a look at this value, and its settings are
read from the same. -/
structure GoesBy (files : Files) (env : Environment) (w : Json) (p : IdentityProvider) :
    Prop where
  kind : p.kind = kindOf w
  look : Gather.result files
    (if (Kind.ofSource? (kindOf w)).isSome then sideFiles env (.readOrEmpty w) else pure {}) =
      .ok p.sideFiles
  value : (Json.parseBytes? p.payload).map Json.dropNulls = some w
  settings : ∀ k, readPayload p.payload k = (Settings.read w k).mapError .mismatch

theorem goesBy_of_provider {files : Files} {p : IdentityProvider}
    (hback : Json.parse? e.provider.dropNulls.toCompact = some e.provider.dropNulls)
    (h : (provider env e).result files = .ok p) :
    GoesBy files env e.provider.dropNulls p := by
  rw [provider_eq] at h
  obtain ⟨f, hfiles, h⟩ := Gather.result_bind_eq_ok.mp h
  cases h
  have hparse : Json.parseBytes? (gathered e f).payload = some e.provider.dropNulls := by
    rw [gathered, Json.parseBytes?, Utf8.decode?_encode, Option.bind_some, hback]
  refine ⟨rfl, hfiles, ?_, fun k => ?_⟩
  · rw [hparse, Option.map_some, Json.dropNulls_dropNulls]
  · simp only [readPayload, hparse, Json.dropNulls_dropNulls]

/-! ## The whole component -/

/-- Two runs on configurations that are the same but for null members, with files that agree
where the first run asks for them: they ask for the same and tell the same, and end with the
same check and the same outputs or fail alike. -/
theorem run_of_sameButNulls {files₁ files₂ : Files} {path : String} {content₁ content₂ : Bytes}
    {c₁ c₂ : MasterConfig} (h₁ : files₁ path = .ok content₁) (h₂ : files₂ path = .ok content₂)
    (hdecode₁ : MasterConfig.decode content₁ = .ok c₁)
    (hdecode₂ : MasterConfig.decode content₂ = .ok c₂)
    (hsame : Option.Rel OAuthConfig.SameButNulls c₁.oauth c₂.oauth)
    (hfiles : ∀ other ∈ (extractSection env c₁).asked files₁, files₂ other = files₁ other) :
    (oauth env path).extract.events files₂ = (oauth env path).extract.events files₁ ∧
      (oauth env path).extract.result files₂ = (oauth env path).extract.result files₁ := by
  obtain ⟨hevents₁, hresult₁⟩ := run_of_decode env h₁ hdecode₁
  obtain ⟨hevents₂, hresult₂⟩ := run_of_decode env h₂ hdecode₂
  have hsection : extractSection env c₂ = extractSection env c₁ := by
    rw [extractSection, extractSection, gatherSection_eq_of_sameButNulls hsame]
  obtain ⟨hevents, houtcome⟩ := Gather.run_of_asked hfiles
  have hresult : (extractSection env c₁).result files₂ = (extractSection env c₁).result files₁ :=
    congrArg Prod.snd houtcome
  rw [hevents₁, hresult₁, hevents₂, hresult₂, hsection, hevents, hresult]
  exact ⟨rfl, rfl⟩

/-- What is left of a value without its null members is the one value that it can be thinned to
and that has none, so nothing changes where there are none, nor when it is done again. If the
compact form of what is left of a stanza reads back as it was, the look at the stanza and the
settings in the payload go by that value. Null members make no difference to what is gathered
for an entry, nor to a whole run. -/
theorem null_counts_as_absent (env : Environment) :
    (∀ v w : Json, w = v.dropNulls ↔ v.Thins w ∧ w.NullFree) ∧
      (∀ v : Json, v.dropNulls = v ↔ v.NullFree) ∧
      (∀ v : Json, v.dropNulls.dropNulls = v.dropNulls) ∧
      (∀ (files : Files) (e : ProviderEntry) (p : IdentityProvider),
        Json.parse? e.provider.dropNulls.toCompact = some e.provider.dropNulls →
        (provider env e).result files = .ok p →
        GoesBy files env e.provider.dropNulls p) ∧
      (∀ e₁ e₂ : ProviderEntry, e₁.SameButNulls e₂ → provider env e₁ = provider env e₂) ∧
      ∀ (files₁ files₂ : Files) (path : String) (content₁ content₂ : Bytes)
        (c₁ c₂ : MasterConfig),
        files₁ path = .ok content₁ → files₂ path = .ok content₂ →
        MasterConfig.decode content₁ = .ok c₁ → MasterConfig.decode content₂ = .ok c₂ →
        Option.Rel OAuthConfig.SameButNulls c₁.oauth c₂.oauth →
        (∀ other ∈ (extractSection env c₁).asked files₁, files₂ other = files₁ other) →
        (oauth env path).extract.events files₂ = (oauth env path).extract.events files₁ ∧
          (oauth env path).extract.result files₂ = (oauth env path).extract.result files₁ :=
  ⟨fun _ _ => Json.eq_dropNulls_iff, fun _ => Json.dropNulls_eq_self_iff,
    Json.dropNulls_dropNulls, fun _ _ _ => goesBy_of_provider,
    fun _ _ => provider_eq_of_sameButNulls, fun _ _ _ _ _ _ _ => run_of_sameButNulls⟩

section

/-- The configuration of a provider with null members in its stanza and below, or with none. -/
private def gitHubMaster (nulls : Bool) : Bytes := Utf8.encode
  ("oauthConfig: \x7bidentityProviders: [\x7bname: github, mappingMethod: claim, provider:
    \x7bkind: GitHubIdentityProvider, ca: /ca, " ++ (if nulls then "hostname: null, " else "") ++
    "clientSecret: \x7b" ++ (if nulls then "env: null, " else "") ++ "value: s\x7d\x7d\x7d]\x7d")

private def stanza (nulls : Bool) : Json :=
  if nulls then
    .object [("ca", .string "/ca"),
      ("clientSecret", .object [("env", .null), ("value", .string "s")]),
      ("hostname", .null), ("kind", .string "GitHubIdentityProvider")]
  else
    .object [("ca", .string "/ca"), ("clientSecret", .object [("value", .string "s")]),
      ("kind", .string "GitHubIdentityProvider")]

private def gitHubEntry (nulls : Bool) : ProviderEntry where
  name := "github"
  mappingMethod := "claim"
  provider := stanza nulls

private def isGitHubEntry (nulls : Bool) (c : MasterConfig) : Bool :=
  match nulls, c.oauth with
  | true, some ⟨[⟨name, false, false, method, .object [(k₁, .string ca),
      (k₂, .object [(k₃, .null), (k₄, .string secret)]), (k₅, .null), (k₆, .string kind)]⟩],
      none, none⟩ =>
    [name, method, k₁, ca, k₂, k₃, k₄, secret, k₅, k₆, kind] == ["github", "claim", "ca", "/ca",
      "clientSecret", "env", "value", "s", "hostname", "kind", "GitHubIdentityProvider"]
  | false, some ⟨[⟨name, false, false, method, .object [(k₁, .string ca),
      (k₂, .object [(k₃, .string secret)]), (k₄, .string kind)]⟩], none, none⟩ =>
    [name, method, k₁, ca, k₂, k₃, secret, k₄, kind] == ["github", "claim", "ca", "/ca",
      "clientSecret", "value", "s", "kind", "GitHubIdentityProvider"]
  | _, _ => false

private theorem oauth_of_isGitHubEntry {nulls : Bool} {c : MasterConfig}
    (h : isGitHubEntry nulls c = true) : c.oauth = some ⟨[gitHubEntry nulls], none, none⟩ := by
  unfold isGitHubEntry at h
  split at h
  · rename_i hoauth
    simp only [beq_iff_eq, List.cons.injEq, and_true] at h
    obtain ⟨rfl, rfl, rfl, rfl, rfl, rfl, rfl, rfl, rfl, rfl, rfl⟩ := h
    exact hoauth
  · rename_i hoauth
    simp only [beq_iff_eq, List.cons.injEq, and_true] at h
    obtain ⟨rfl, rfl, rfl, rfl, rfl, rfl, rfl, rfl, rfl⟩ := h
    exact hoauth
  · cases h

private theorem exists_gitHubEntry (nulls : Bool)
    (h : (MasterConfig.decode (gitHubMaster nulls)).toOption.any (isGitHubEntry nulls) = true) :
    ∃ c, MasterConfig.decode (gitHubMaster nulls) = .ok c ∧
      c.oauth = some ⟨[gitHubEntry nulls], none, none⟩ := by
  obtain ⟨c, hc, hentry⟩ := toOption_any_iff.mp h
  exact ⟨c, hc, oauth_of_isGitHubEntry hentry⟩

private theorem sameButNulls_gitHubEntry : (gitHubEntry true).SameButNulls (gitHubEntry false) :=
  ⟨rfl, rfl, rfl, rfl, Json.sameButNulls_iff.mpr rfl⟩

private def masterAndCa (nulls : Bool) : Files := fun path =>
  if path = "/master" then .ok (gitHubMaster nulls)
  else if path = "/ca" then .ok [7]
  else .error (.unreadable path "no such file")

private theorem masterAndCa_ca (nulls : Bool) : masterAndCa nulls "/ca" = .ok [7] := by
  simp [masterAndCa]

/-- Null members of a stanza and of a source in it, on runs that read the file of the stanza. -/
theorem null_counts_as_absent_gitHub :
    provider (fun _ => none) (gitHubEntry true) = provider (fun _ => none) (gitHubEntry false) ∧
      (∃ p, (provider (fun _ => none) (gitHubEntry true)).result (masterAndCa true) = .ok p ∧
        GoesBy (masterAndCa true) (fun _ => none) (stanza false) p) ∧
      ((oauth (fun _ => none) "/master").extract.result (masterAndCa true)).isOk = true ∧
      (oauth (fun _ => none) "/master").extract.events (masterAndCa false) =
        (oauth (fun _ => none) "/master").extract.events (masterAndCa true) ∧
      (oauth (fun _ => none) "/master").extract.result (masterAndCa false) =
        (oauth (fun _ => none) "/master").extract.result (masterAndCa true) := by
  obtain ⟨-, -, -, hgoesBy, hprovider, hruns⟩ := null_counts_as_absent fun _ => none
  obtain ⟨c₁, hdecode₁, hc₁⟩ := exists_gitHubEntry true (by decide +kernel)
  obtain ⟨c₂, hdecode₂, hc₂⟩ := exists_gitHubEntry false (by decide +kernel)
  have hmaster₁ : masterAndCa true "/master" = .ok (gitHubMaster true) := if_pos rfl
  have hmaster₂ : masterAndCa false "/master" = .ok (gitHubMaster false) := if_pos rfl
  have hback : Json.parse? (stanza true).dropNulls.toCompact = some (stanza true).dropNulls := by
    rw [Json.parse?_toCompact]
    rfl
  have hasked : (extractSection (fun _ => none) c₁).asked (masterAndCa true) = ["/ca"] := by
    rw [extractSection, hc₁]
    decide +kernel
  refine ⟨hprovider _ _ sameButNulls_gitHubEntry,
    ⟨_, rfl, hgoesBy _ (gitHubEntry true) _ hback rfl⟩, ?_, ?_⟩
  · obtain ⟨-, hresult⟩ := run_of_decode (fun _ => none) hmaster₁ hdecode₁
    rw [hresult, extractSection, hc₁]
    decide +kernel
  · refine hruns _ _ _ _ _ _ _ hmaster₁ hmaster₂ hdecode₁ hdecode₂ ?_ ?_
    · rw [hc₁, hc₂]
      exact .some ⟨.cons sameButNulls_gitHubEntry .nil, rfl, rfl⟩
    · intro other hother
      rw [hasked] at hother
      rw [List.mem_singleton.mp hother, masterAndCa_ca, masterAndCa_ca]

end

end Component.OAuth

end ClusterMigration
