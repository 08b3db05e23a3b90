import ClusterMigration.Proofs.Component.Contents
import ClusterMigration.Proofs.Component.Lockstep
import ClusterMigration.Proofs.IdentityProvider.Alike

/-!
# Secrets stay in artifacts

What the OAuth component shows of itself does not depend on confidential texts: neither on
those that the master configuration gives itself, nor on the contents of files or on
variables. It asks for the same files, tells the same, passes or fails alike and puts out
the same but for what secrets and config maps hold and for bind passwords. The main
statement is `alike_of_concealed`.
-/

namespace ClusterMigration

open IdentityProvider (Alike Kind concealMember concealStanza unseen_concealStanza carries_other
  carries_confidential confidentialKeys)
open Json (conceal)

/-! ## Configurations -/

def ProviderEntry.concealed (e : ProviderEntry) : ProviderEntry :=
  { e with provider := concealStanza e.provider }

def OAuthConfig.concealed (c : OAuthConfig) : OAuthConfig :=
  { c with identityProviders := c.identityProviders.map (·.concealed) }

theorem ProviderEntry.fields_of_concealed {e₁ e₂ : ProviderEntry}
    (h : e₁.concealed = e₂.concealed) :
    e₁.name = e₂.name ∧ e₁.challenge = e₂.challenge ∧ e₁.login = e₂.login ∧
      e₁.mappingMethod = e₂.mappingMethod ∧
      concealStanza e₁.provider = concealStanza e₂.provider := by
  simpa [concealed] using h

theorem OAuthConfig.fields_of_concealed {c₁ c₂ : OAuthConfig}
    (h : c₁.concealed = c₂.concealed) :
    c₁.identityProviders.map (·.concealed) = c₂.identityProviders.map (·.concealed) ∧
      c₁.tokenConfig = c₂.tokenConfig ∧ c₁.templates = c₂.templates := by
  simpa [concealed] using h

theorem StringSource.fields_of_concealed {s t : StringSource} (h : s.concealed = t.concealed) :
    s.isEncrypted = t.isEncrypted ∧ s.value.isEmpty = t.value.isEmpty ∧ s.file = t.file ∧
      s.env = t.env := by
  have hencrypted := congrArg isEncrypted h
  have hvalue := congrArg (fun s => s.value.isEmpty) h
  have hfile := congrArg file h
  have henv := congrArg env h
  refine ⟨hencrypted, ?_, hfile, henv⟩
  simpa [concealed] using hvalue

namespace Component.OAuth

/-! ## The look at a stanza -/

def FileReferences.concealed (r : FileReferences) : FileReferences :=
  { r with
    clientSecret := r.clientSecret.map (·.concealed)
    bindPassword := r.bindPassword.map (·.concealed) }

theorem FileReferences.fields_of_concealed {r₁ r₂ : FileReferences}
    (h : r₁.concealed = r₂.concealed) :
    r₁.file = r₂.file ∧ r₁.ca = r₂.ca ∧ r₁.clientCa = r₂.clientCa ∧ r₁.certFile = r₂.certFile ∧
      r₁.keyFile = r₂.keyFile ∧
      r₁.clientSecret.map (·.concealed) = r₂.clientSecret.map (·.concealed) ∧
      r₁.bindPassword.map (·.concealed) = r₂.bindPassword.map (·.concealed) := by
  simpa [concealed] using h

theorem readSource_concealJson (v : Json) :
    FileReferences.readSource (StringSource.concealJson v) =
      (FileReferences.readSource v).map (Option.map (·.concealed)) := by
  cases v with
  | object ms =>
      have hread := StringSource.read_concealJson (.object ms)
      change (StringSource.read (StringSource.concealJson (.object ms))).map some =
        ((StringSource.read (.object ms)).map some).map _
      rw [hread]
      cases StringSource.read (.object ms) <;> rfl
  | _ => rfl

theorem readOrEmpty_concealStanza (ms : List (String × Json)) :
    FileReferences.readOrEmpty (concealStanza (.object ms)) =
      (FileReferences.readOrEmpty (.object ms)).concealed := by
  have hread : FileReferences.read (concealStanza (.object ms)) =
      (FileReferences.read (.object ms)).map FileReferences.concealed := by
    refine Json.readRecord_mapMembers "struct ProviderFiles" rfl ?_ ms
    simp only [FileReferences.fields, List.forall_mem_cons]
    exact ⟨carries_other (by decide) fun _ _ => rfl, carries_other (by decide) fun _ _ => rfl,
      carries_other (by decide) fun _ _ => rfl, carries_other (by decide) fun _ _ => rfl,
      carries_other (by decide) fun _ _ => rfl,
      carries_confidential (by decide) readSource_concealJson fun _ _ => rfl,
      carries_confidential (by decide) readSource_concealJson fun _ _ => rfl,
      List.forall_mem_nil _⟩
  rw [FileReferences.readOrEmpty, FileReferences.readOrEmpty, hread]
  cases FileReferences.read (.object ms) <;> rfl

theorem kindOf_concealStanza (v : Json) : kindOf (concealStanza v) = kindOf v := by
  have hkind : concealMember "kind" = id := if_neg (by decide)
  rw [kindOf, concealStanza, Json.member?_mapMembers, hkind, Option.map_id]
  rfl

/-- Stanzas that are the same once concealed name the same kind, and where it is known they
name the same files. -/
theorem look_of_concealStanza {v w : Json} (h : concealStanza v = concealStanza w) :
    kindOf v = kindOf w ∧
      ((Kind.ofSource? (kindOf v)).isSome = true → (∃ ms, v = .object ms) ∧
        (FileReferences.readOrEmpty v).concealed = (FileReferences.readOrEmpty w).concealed) := by
  have hkind : kindOf v = kindOf w := by
    rw [← kindOf_concealStanza v, h, kindOf_concealStanza]
  refine ⟨hkind, fun hknown => ?_⟩
  obtain ⟨ms, rfl⟩ := exists_members_of_kindOf hknown
  obtain ⟨ns, rfl⟩ := exists_members_of_kindOf (hkind ▸ hknown)
  refine ⟨⟨ms, rfl⟩, ?_⟩
  rw [← readOrEmpty_concealStanza, h, readOrEmpty_concealStanza]

/-! ## Gathering in lockstep -/

open Gather (Lockstep lockstep_file lockstep_tell)

abbrev Any {α β : Type} (_ : α) (_ : β) : Prop := True

variable {env₁ env₂ : Environment}

theorem lockstep_fileIfNamed {path₁ path₂ : String} (h : path₁ = path₂) :
    Lockstep Any (fileIfNamed path₁) (fileIfNamed path₂) := by
  subst h
  unfold fileIfNamed
  split
  · exact .pure trivial
  · exact lockstep_file path₁

theorem lockstep_resolve {s₁ s₂ : Option StringSource}
    (h : s₁.map (·.concealed) = s₂.map (·.concealed)) :
    Lockstep Any (resolve env₁ s₁) (resolve env₂ s₂) := by
  cases s₁ with
  | none =>
      cases s₂ with
      | none => exact .pure trivial
      | some s₂ => cases h
  | some s₁ =>
      cases s₂ with
      | none => cases h
      | some s₂ =>
          obtain ⟨hencrypted, hvalue, hfile, henv⟩ :=
            StringSource.fields_of_concealed (Option.some.inj h)
          simp only [resolve, hencrypted, hvalue, hfile, henv]
          -- which of the four places counts is the same in both runs
          split_ifs
          · exact .pure trivial
          · exact .pure trivial
          · exact (lockstep_file s₂.file).bind fun _ _ _ => .pure trivial
          · exact .pure trivial
          · exact .pure trivial

theorem lockstep_sideFiles {r₁ r₂ : FileReferences} (h : r₁.concealed = r₂.concealed) :
    Lockstep Any (sideFiles env₁ r₁) (sideFiles env₂ r₂) := by
  obtain ⟨hfile, hca, hclientCa, hcert, hkey, hsecret, hpassword⟩ :=
    FileReferences.fields_of_concealed h
  have hauthorities : r₁.authorities = r₂.authorities := by
    rw [FileReferences.authorities, FileReferences.authorities, hca, hclientCa]
  refine (lockstep_fileIfNamed hfile).bind fun _ _ _ => ?_
  refine (lockstep_fileIfNamed hauthorities).bind fun _ _ _ => ?_
  refine (lockstep_fileIfNamed hcert).bind fun _ _ _ => ?_
  refine (lockstep_fileIfNamed hkey).bind fun _ _ _ => ?_
  refine (lockstep_resolve hsecret).bind fun _ _ _ => ?_
  exact (lockstep_resolve hpassword).bind fun _ _ _ => .pure trivial

def gathered (e : ProviderEntry) (files : SideFiles) : IdentityProvider where
  kind := kindOf e.provider.dropNulls
  mappingMethod := e.mappingMethod
  name := e.name
  payload := Utf8.encode e.provider.dropNulls.toCompact
  sideFiles := files
  challenge := e.challenge
  login := e.login

def filesOf (env : Environment) (e : ProviderEntry) : Gather SideFiles :=
  if (Kind.ofSource? (kindOf e.provider.dropNulls)).isSome then
    sideFiles env (.readOrEmpty e.provider.dropNulls)
  else pure {}

theorem provider_eq (env : Environment) (e : ProviderEntry) :
    provider env e = filesOf env e >>= fun files =>
      Gather.tell (.extractedProvider (kindOf e.provider.dropNulls) e.name) >>= fun _ =>
        pure (gathered e files) := by
  simp only [provider, filesOf]
  split <;> rfl

theorem lockstep_provider {e₁ e₂ : ProviderEntry} (h : e₁.concealed = e₂.concealed) :
    Lockstep Alike (provider env₁ e₁) (provider env₂ e₂) := by
  obtain ⟨hname, hchallenge, hlogin, hmethod, hsettings⟩ := ProviderEntry.fields_of_concealed h
  have hstanza : concealStanza e₁.provider.dropNulls = concealStanza e₂.provider.dropNulls := by
    rw [← unseen_concealStanza.dropNulls, hsettings, unseen_concealStanza.dropNulls]
  obtain ⟨hkind, hlook⟩ := look_of_concealStanza hstanza
  -- an unknown kind asks for nothing in either run, whatever its stanza names
  have hfiles : Lockstep Any (filesOf env₁ e₁) (filesOf env₂ e₂) := by
    unfold filesOf
    by_cases hknown : (Kind.ofSource? (kindOf e₁.provider.dropNulls)).isSome = true
    · rw [if_pos hknown, if_pos (hkind ▸ hknown)]
      exact lockstep_sideFiles (hlook hknown).2
    · rw [if_neg hknown, if_neg (hkind ▸ hknown)]
      exact .pure trivial
  have halike (f₁ f₂ : SideFiles) : Alike (gathered e₁ f₁) (gathered e₂ f₂) := by
    refine IdentityProvider.alike_of_payload ?_ (fun hknown => (hlook hknown).1) rfl rfl hstanza
    simp only [IdentityProvider.bare, gathered, hkind, hname, hmethod, hchallenge, hlogin]
  rw [provider_eq, provider_eq, hkind, hname]
  refine hfiles.bind fun f₁ f₂ _ => ?_
  exact (lockstep_tell _).bind fun _ _ _ => .pure (halike f₁ f₂)

theorem lockstep_providers {es₁ es₂ : List ProviderEntry}
    (h : es₁.map (·.concealed) = es₂.map (·.concealed)) :
    Lockstep (List.Forall₂ Alike) (providers env₁ es₁) (providers env₂ es₂) := by
  induction es₁ generalizing es₂ with
  | nil =>
      cases es₂ with
      | nil => exact .pure .nil
      | cons e₂ es₂ => cases h
  | cons e₁ es₁ ih =>
      cases es₂ with
      | nil => cases h
      | cons e₂ es₂ =>
          obtain ⟨hentry, hentries⟩ := List.cons.inj h
          refine (lockstep_provider hentry).bind fun _ _ hp => ?_
          exact (ih hentries).bind fun _ _ hps => .pure (.cons hp hps)

theorem lockstep_pageIfNamed (path : String) :
    Lockstep (fun a b => a.map (fun _ => ([] : Bytes)) = b.map fun _ => [])
      (pageIfNamed path) (pageIfNamed path) := by
  unfold pageIfNamed
  split
  · exact .pure rfl
  · exact (lockstep_file path).bind fun _ _ _ => .pure rfl

theorem lockstep_templates (t : Option TemplatePaths) :
    Lockstep (fun a b => a.concealed = b.concealed) (templates t) (templates t) := by
  cases t with
  | none => exact .pure rfl
  | some t =>
      refine (lockstep_pageIfNamed t.login).bind fun _ _ hlogin => ?_
      refine (lockstep_pageIfNamed t.error).bind fun _ _ herror => ?_
      refine (lockstep_pageIfNamed t.providerSelection).bind fun _ _ hselection => .pure ?_
      simp only [Templates.concealed, hlogin, herror, hselection]

/-! ## What is gathered -/

/-- The same, apart from confidential texts and contents of files. -/
structure Data.Alike (d₁ d₂ : Data) : Prop where
  providers : List.Forall₂ IdentityProvider.Alike d₁.providers d₂.providers
  tokenConfig : d₁.tokenConfig = d₂.tokenConfig
  templates : d₁.templates.concealed = d₂.templates.concealed

def gatherSection (env : Environment) : Option OAuthConfig → Gather Data
  | none => pure {}
  | some c => do
    return {
      providers := ← providers env c.identityProviders
      tokenConfig := c.tokenConfig
      templates := ← templates c.templates }

theorem gather_eq (env : Environment) (path : String) :
    gather env path = masterConfig path >>= fun c => gatherSection env c.oauth := by
  refine congrArg (masterConfig path >>= ·) (funext fun c => ?_)
  cases c.oauth <;> rfl

theorem lockstep_gatherSection {c₁ c₂ : Option OAuthConfig}
    (h : c₁.map (·.concealed) = c₂.map (·.concealed)) :
    Lockstep Data.Alike (gatherSection env₁ c₁) (gatherSection env₂ c₂) := by
  cases c₁ with
  | none =>
      cases c₂ with
      | none => exact .pure ⟨.nil, rfl, rfl⟩
      | some c₂ => cases h
  | some c₁ =>
      cases c₂ with
      | none => cases h
      | some c₂ =>
          obtain ⟨hentries, htokens, htemplates⟩ :=
            OAuthConfig.fields_of_concealed (Option.some.inj h)
          refine (lockstep_providers hentries).bind fun _ _ hps => ?_
          rw [htemplates]
          exact (lockstep_templates c₂.templates).bind fun _ _ ht => .pure ⟨hps, htokens, ht⟩

/-! ## What is put out -/

variable {d₁ d₂ : Data}

theorem providerRow_alike {p q : IdentityProvider} (h : Alike p q) :
    providerRow p = providerRow q := by
  obtain ⟨hkind, _, hname, _⟩ := IdentityProvider.fields_of_bare h.bare
  have hk : p.kind? = q.kind? := congrArg Kind.ofSource? hkind
  rw [providerRow, providerRow, hkind, hname, hk]

theorem Data.Alike.report (h : d₁.Alike d₂) : report d₁ = report d₂ := by
  have hproviders : d₁.providers.map providerRow = d₂.providers.map providerRow := by
    rw [← List.forall₂_eq_eq_eq, List.forall₂_map_left_iff, List.forall₂_map_right_iff]
    exact h.providers.imp fun _ _ => providerRow_alike
  have hpage (name : String) (page : Option Bytes) :
      templateRow name page = templateRow name (page.map fun _ => []) := by
    cases page <;> rfl
  -- a row for a page only says that there is one
  have hrows (d : Data) : rows d = d.providers.map providerRow
      ++ (if d.tokenConfig.isSome then
        [.carried "AccessTokenMaxAgeSeconds" "TokenConfig",
          .carried "AuthorizeTokenMaxAgeSeconds" "TokenConfig"]
        else [])
      ++ templateRow "Login" d.templates.concealed.login
      ++ templateRow "Error" d.templates.concealed.error
      ++ templateRow "ProviderSelection" d.templates.concealed.providerSelection := by
    rw [rows, hpage "Login", hpage "Error", hpage "ProviderSelection"]
    rfl
  rw [OAuth.report, OAuth.report, hrows, hrows, hproviders, h.tokenConfig, h.templates]

theorem Data.Alike.validate (h : d₁.Alike d₂) : validate d₁ = validate d₂ := by
  rw [OAuth.validate, OAuth.validate, IdentityProvider.validate_alike h.providers]

/-- The same report and a package that is the same but for what its artifacts hold and for
bind passwords, in files of the same names. -/
def SameOutputs (outputs₁ outputs₂ : List Output) : Prop :=
  ∃ (o₁ o₂ : OAuthPackage) (r : Report),
    outputs₁ = [.manifests o₁.manifests, .report r] ∧
    outputs₂ = [.manifests o₂.manifests, .report r] ∧
    o₁.concealed = o₂.concealed ∧
    o₁.manifests.map (·.fileName) = o₂.manifests.map (·.fileName)

theorem Data.Alike.transform (h : d₁.Alike d₂) :
    (transform d₁).1 = (transform d₂).1 ∧ Both SameOutputs (transform d₁).2 (transform d₂).2 := by
  obtain ⟨hnotices, hresult⟩ :=
    OAuthPackage.ofProviders_alike h.providers h.templates d₁.tokenConfig
  rw [OAuth.transform, OAuth.transform, ← h.tokenConfig, h.report]
  revert hnotices hresult
  generalize OAuthPackage.ofProviders d₁.providers d₁.tokenConfig d₁.templates = x₁
  generalize OAuthPackage.ofProviders d₂.providers d₁.tokenConfig d₂.templates = x₂
  obtain ⟨notices₁, result₁⟩ := x₁
  obtain ⟨notices₂, result₂⟩ := x₂
  rintro rfl hresult
  cases Both.of_map_eq hresult with
  | error e => exact ⟨rfl, .error _⟩
  | @ok o₁ o₂ hpackage =>
      refine ⟨rfl, .ok ⟨o₁, o₂, _, rfl, rfl, hpackage, ?_⟩⟩
      rw [← OAuthPackage.fileNames_concealed, hpackage, OAuthPackage.fileNames_concealed]

/-- The check says the same, the same is told on the way, and the outputs are the same or
there are none for the same reason. -/
structure SameExtraction (x₁ x₂ : Extraction) : Prop where
  validate : x₁.validate = x₂.validate
  notices : x₁.transform.1 = x₂.transform.1
  outputs : Both SameOutputs x₁.transform.2 x₂.transform.2

theorem Data.Alike.extraction (h : d₁.Alike d₂) :
    SameExtraction (extraction d₁) (extraction d₂) := by
  obtain ⟨hnotices, houtputs⟩ := h.transform
  exact ⟨h.validate, congrArg (List.cons (Notice.transforming name)) hnotices, houtputs⟩

/-! ## The whole component -/

def extractSection (env : Environment) (c : MasterConfig) : Gather Extraction :=
  gatherSection env c.oauth >>= fun d => pure (extraction d)

variable {files : Files} {path : String} {content : Bytes} {c : MasterConfig}

theorem run_masterConfig (hcontent : files path = .ok content)
    (hdecode : MasterConfig.decode content = .ok c) :
    (masterConfig path).events files = [.asked path] ∧
      (masterConfig path).result files = .ok c := by
  have hfile : (Gather.file path).events files = [.asked path] := by
    rw [Gather.file, Gather.events, hcontent]
    rfl
  rw [masterConfig, Gather.events_bind, Gather.result_bind,
    Gather.result_file_eq_ok.mpr hcontent, hfile]
  simp only [hdecode]
  exact ⟨rfl, rfl⟩

theorem run_of_decode (env : Environment) (hcontent : files path = .ok content)
    (hdecode : MasterConfig.decode content = .ok c) :
    (oauth env path).extract.events files =
        [.told (.extracting name), .asked path] ++ (extractSection env c).events files ∧
      (oauth env path).extract.result files = (extractSection env c).result files := by
  obtain ⟨hevents, hresult⟩ := run_masterConfig hcontent hdecode
  have hextract : (oauth env path).extract = Gather.tell (.extracting name) >>= fun _ =>
      gather env path >>= fun d => pure (extraction d) := rfl
  rw [hextract, gather_eq, extractSection]
  simp only [Gather.events_bind, Gather.result_bind, Gather.result_tell, hevents, hresult]
  exact ⟨rfl, trivial⟩

/-- Two runs on configurations that are the same once confidential texts are concealed, with
files that can be had in both or fail alike, and with any variables: they ask for the same
files and tell the same, they fail alike when data is gathered and checked and when it is
transformed, and put out the same report and the same package but for what its artifacts hold
and for bind passwords. -/
theorem alike_of_concealed {files₁ files₂ : Files} {path : String} {content₁ content₂ : Bytes}
    {c₁ c₂ : MasterConfig} (env₁ env₂ : Environment) (hfiles : files₁.FailAlike files₂)
    (h₁ : files₁ path = .ok content₁) (h₂ : files₂ path = .ok content₂)
    (hdecode₁ : MasterConfig.decode content₁ = .ok c₁)
    (hdecode₂ : MasterConfig.decode content₂ = .ok c₂)
    (hconfig : c₁.oauth.map (·.concealed) = c₂.oauth.map (·.concealed)) :
    (oauth env₁ path).extract.events files₁ = (oauth env₂ path).extract.events files₂ ∧
      Both SameExtraction ((oauth env₁ path).extract.result files₁)
        ((oauth env₂ path).extract.result files₂) := by
  obtain ⟨hevents₁, hresult₁⟩ := run_of_decode env₁ h₁ hdecode₁
  obtain ⟨hevents₂, hresult₂⟩ := run_of_decode env₂ h₂ hdecode₂
  -- the configurations differ, so the runs are in lockstep only from there on
  have hsection : Lockstep SameExtraction (extractSection env₁ c₁) (extractSection env₂ c₂) :=
    (lockstep_gatherSection hconfig).bind fun _ _ h => .pure h.extraction
  obtain ⟨hevents, hresult⟩ := hsection.run hfiles
  rw [hevents₁, hevents₂, hresult₁, hresult₂, hevents]
  exact ⟨rfl, hresult⟩

section

private def inlineMaster (secret : String) : Bytes := Utf8.encode
  ("oauthConfig: \x7bidentityProviders: [\x7bname: github, mappingMethod: add, provider:
    \x7bkind: GitHubIdentityProvider, ca: /ca, clientSecret: " ++ secret ++ "\x7d\x7d]\x7d")

private def gitHubConfig (secret : String) : OAuthConfig where
  identityProviders := [{
    name := "github"
    mappingMethod := "add"
    provider := .object [("ca", .string "/ca"), ("clientSecret", .string secret),
      ("kind", .string "GitHubIdentityProvider")] }]

private theorem concealed_gitHubConfig (secret : String) :
    (gitHubConfig secret).concealed = gitHubConfig (conceal secret) := by
  simp [gitHubConfig, OAuthConfig.concealed, ProviderEntry.concealed, concealStanza,
    Json.mapMembers, concealMember, confidentialKeys, StringSource.concealJson, Json.concealText]

private def isGitHubConfig (secret : String) (c : MasterConfig) : Bool :=
  match c.oauth with
  | some ⟨[⟨name, false, false, method,
      .object [(k₁, .string ca), (k₂, .string s), (k₃, .string kind)]⟩], none, none⟩ =>
    name == "github" && method == "add" && k₁ == "ca" && ca == "/ca" && k₂ == "clientSecret" &&
      s == secret && k₃ == "kind" && kind == "GitHubIdentityProvider"
  | _ => false

private theorem oauth_of_isGitHubConfig {secret : String} {c : MasterConfig}
    (h : isGitHubConfig secret c = true) : c.oauth = some (gitHubConfig secret) := by
  unfold isGitHubConfig at h
  split at h
  · rename_i hoauth
    simp only [Bool.and_eq_true, beq_iff_eq] at h
    obtain ⟨⟨⟨⟨⟨⟨⟨rfl, rfl⟩, rfl⟩, rfl⟩, rfl⟩, rfl⟩, rfl⟩, rfl⟩ := h
    exact hoauth
  · cases h

private theorem exists_gitHubConfig (secret : String)
    (h : (MasterConfig.decode (inlineMaster secret)).toOption.any (isGitHubConfig secret) = true) :
    ∃ c, MasterConfig.decode (inlineMaster secret) = .ok c ∧
      c.oauth = some (gitHubConfig secret) := by
  obtain ⟨c, hc, hconfig⟩ := toOption_any_iff.mp h
  exact ⟨c, hc, oauth_of_isGitHubConfig hconfig⟩

private def secretFiles (secret : String) (ca : Bytes) : Files := fun path =>
  if path = "/master" then .ok (inlineMaster secret)
  else if path = "/ca" then .ok ca
  else .error (.unreadable path "no such file")

private theorem secretFiles_failAlike (secret₁ secret₂ : String) (ca₁ ca₂ : Bytes) :
    (secretFiles secret₁ ca₁).FailAlike (secretFiles secret₂ ca₂) := by
  intro path
  unfold secretFiles
  split_ifs <;> simp only [Except.map]

/-- Another client secret, another file and other variables, on a run that gathers a provider
and its file. -/
theorem alike_of_other_secret :
    (oauth (fun _ => none) "/master").extract.events (secretFiles "a" [0]) =
        [.told (.extracting "OAuth"), .asked "/master", .asked "/ca",
          .told (.extractedProvider "GitHubIdentityProvider" "github")] ∧
      ((oauth (fun _ => none) "/master").extract.result (secretFiles "a" [0])).isOk = true ∧
      (oauth (fun _ => none) "/master").extract.events (secretFiles "a" [0]) =
        (oauth (fun _ => some "x") "/master").extract.events (secretFiles "b" [1, 2]) ∧
      Both SameExtraction
        ((oauth (fun _ => none) "/master").extract.result (secretFiles "a" [0]))
        ((oauth (fun _ => some "x") "/master").extract.result (secretFiles "b" [1, 2])) := by
  obtain ⟨c₁, hdecode₁, hc₁⟩ := exists_gitHubConfig "a" (by decide +kernel)
  obtain ⟨c₂, hdecode₂, hc₂⟩ := exists_gitHubConfig "b" (by decide +kernel)
  have hmaster₁ : secretFiles "a" [0] "/master" = .ok (inlineMaster "a") := if_pos rfl
  have hmaster₂ : secretFiles "b" [1, 2] "/master" = .ok (inlineMaster "b") := if_pos rfl
  obtain ⟨hevents, hresult⟩ := run_of_decode (fun _ => none) hmaster₁ hdecode₁
  refine ⟨?_, ?_, ?_⟩
  · rw [hevents, extractSection, hc₁]
    decide +kernel
  · rw [hresult, extractSection, hc₁]
    decide +kernel
  · refine alike_of_concealed _ _ (secretFiles_failAlike "a" "b" [0] [1, 2]) hmaster₁ hmaster₂
      hdecode₁ hdecode₂ ?_
    have hconceal : conceal "a" = conceal "b" := by decide
    rw [hc₁, hc₂, Option.map_some, Option.map_some, concealed_gitHubConfig,
      concealed_gitHubConfig, hconceal]

end

end Component.OAuth

end ClusterMigration
