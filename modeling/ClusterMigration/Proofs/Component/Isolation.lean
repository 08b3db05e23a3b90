import ClusterMigration.Component.Image
import ClusterMigration.Component.OAuth
import ClusterMigration.Component.Project
import ClusterMigration.Component.Scheduler
import ClusterMigration.Component.Sdn
import ClusterMigration.Proofs.Component.Gather
import ClusterMigration.Proofs.Yaml.Sections

/-!
# Sections and the components that go by them

Five components share the master configuration, and each goes by one of its sections.
The document is read as a whole, so a section that cannot be read stops all five. Where
the other sections can be read, what they hold makes no difference to a component.
-/

namespace ClusterMigration

open Yaml

/-! ## Readers of the sections -/

theorem providerEntry_fields_congruent : FieldsCongruent ProviderEntry.fields where
  values := by
    simp only [ProviderEntry.fields, List.forall_mem_cons]
    exact ⟨readTextAs_congruent _, readFlag_congruent, readFlag_congruent, readTextAs_congruent _,
      readJson_congruent, nofun⟩
  apart := by simp [ProviderEntry.fields, RecordField.Apart, Yaml.field]

theorem tokenConfig_fields_congruent : FieldsCongruent TokenConfig.fields where
  values := by
    simp only [TokenConfig.fields, List.forall_mem_cons]
    exact ⟨readInteger_congruent _ _, readInteger_congruent _ _, nofun⟩
  apart := by simp [TokenConfig.fields, RecordField.Apart, Yaml.field]

theorem templatePaths_fields_congruent : FieldsCongruent TemplatePaths.fields where
  values := by
    simp only [TemplatePaths.fields, List.forall_mem_cons]
    exact ⟨readTextAs_congruent _, readTextAs_congruent _, readTextAs_congruent _, nofun⟩
  apart := by simp [TemplatePaths.fields, RecordField.Apart, Yaml.field]

theorem oauthConfig_fields_congruent : FieldsCongruent OAuthConfig.fields where
  values := by
    simp only [OAuthConfig.fields, List.forall_mem_cons]
    exact ⟨readList_congruent (readRecord_congruent _ providerEntry_fields_congruent _),
      readOptional_congruent (readRecord_congruent _ tokenConfig_fields_congruent _),
      readOptional_congruent (readRecord_congruent _ templatePaths_fields_congruent _), nofun⟩
  apart := by simp [OAuthConfig.fields, RecordField.Apart, Yaml.field]

theorem clusterNetwork_fields_congruent : FieldsCongruent ClusterNetwork.fields where
  values := by
    simp only [ClusterNetwork.fields, List.forall_mem_cons]
    exact ⟨readTextAs_congruent _, readNatural_congruent _ _, nofun⟩
  apart := by simp [ClusterNetwork.fields, RecordField.Apart, Yaml.field]

theorem networkConfig_fields_congruent : FieldsCongruent NetworkConfig.fields where
  values := by
    simp only [NetworkConfig.fields, List.forall_mem_cons]
    exact ⟨readList_congruent (readRecord_congruent _ clusterNetwork_fields_congruent _),
      readTextAs_congruent _, readNatural_congruent _ _, readTextAs_congruent _,
      readTextAs_congruent _, nofun⟩
  apart := by simp [NetworkConfig.fields, RecordField.Apart, Yaml.field]

theorem registryLocation_fields_congruent : FieldsCongruent RegistryLocation.fields where
  values := by
    simp only [RegistryLocation.fields, List.forall_mem_cons]
    exact ⟨readTextAs_congruent _, readFlag_congruent, nofun⟩
  apart := by simp [RegistryLocation.fields, RecordField.Apart, Yaml.field]

theorem imagePolicy_fields_congruent : FieldsCongruent ImagePolicy.fields where
  values := by
    simp only [ImagePolicy.fields, List.forall_mem_cons]
    exact ⟨readList_congruent (readRecord_congruent _ registryLocation_fields_congruent _),
      readTextAs_congruent _, readTextAs_congruent _, readTextAs_congruent _, readFlag_congruent,
      readInteger_congruent _ _, readInteger_congruent _ _, readInteger_congruent _ _, nofun⟩
  apart := by simp [ImagePolicy.fields, RecordField.Apart, Yaml.field]

theorem securityAllocator_fields_congruent : FieldsCongruent SecurityAllocator.fields where
  values := by
    simp only [SecurityAllocator.fields, List.forall_mem_cons]
    exact ⟨readTextAs_congruent _, readTextAs_congruent _, readInteger_congruent _ _, nofun⟩
  apart := by simp [SecurityAllocator.fields, RecordField.Apart, Yaml.field]

theorem projectConfig_fields_congruent : FieldsCongruent ProjectConfig.fields where
  values := by
    simp only [ProjectConfig.fields, List.forall_mem_cons]
    exact ⟨readTextAs_congruent _, readTextAs_congruent _, readTextAs_congruent _,
      readOptional_congruent (readRecord_congruent _ securityAllocator_fields_congruent _), nofun⟩
  apart := by simp [ProjectConfig.fields, RecordField.Apart, Yaml.field]

namespace MasterConfig

inductive Section where
  | oauth
  | network
  | imagePolicy
  | project
  deriving DecidableEq, Repr

namespace Section

def key : Section → String
  | oauth => "oauthConfig"
  | network => "networkConfig"
  | imagePolicy => "imagePolicyConfig"
  | project => "projectConfig"

abbrev Content : Section → Type
  | oauth => Option OAuthConfig
  | network => Option NetworkConfig
  | imagePolicy => Option ImagePolicy
  | project => Option ProjectConfig

def of : (s : Section) → MasterConfig → s.Content
  | oauth => MasterConfig.oauth
  | network => MasterConfig.network
  | imagePolicy => MasterConfig.imagePolicy
  | project => MasterConfig.project

def set : (s : Section) → s.Content → MasterConfig → MasterConfig
  | oauth => fun v c => { c with oauth := v }
  | network => fun v c => { c with network := v }
  | imagePolicy => fun v c => { c with imagePolicy := v }
  | project => fun v c => { c with project := v }

def reader : (s : Section) → Reader s.Content
  | oauth => readOptional (readRecord "struct OAuthConfig" OAuthConfig.fields {})
  | network => readOptional (readRecord "struct NetworkConfig" NetworkConfig.fields {})
  | imagePolicy => readOptional (readRecord "struct ImagePolicyConfig" ImagePolicy.fields {})
  | project => readOptional (readRecord "struct ProjectConfig" ProjectConfig.fields {})

def field (s : Section) : RecordField MasterConfig := Yaml.field s.key s.reader s.set

theorem fields_eq :
    MasterConfig.fields = [oauth, network, imagePolicy, project].map Section.field := rfl

theorem reader_congruent : ∀ s : Section, s.reader.Congruent
  | oauth => readOptional_congruent (readRecord_congruent _ oauthConfig_fields_congruent _)
  | network => readOptional_congruent (readRecord_congruent _ networkConfig_fields_congruent _)
  | imagePolicy => readOptional_congruent (readRecord_congruent _ imagePolicy_fields_congruent _)
  | project => readOptional_congruent (readRecord_congruent _ projectConfig_fields_congruent _)

theorem of_set (s : Section) (v : s.Content) (c : MasterConfig) : s.of (s.set v c) = v := by
  cases s <;> rfl

theorem of_set_of_ne {s t : Section} (h : t ≠ s) (v : t.Content) (c : MasterConfig) :
    s.of (t.set v c) = s.of c := by
  cases s <;> cases t <;> first | rfl | exact absurd rfl h

theorem find?_key (s : Section) :
    MasterConfig.fields.find? (·.name == s.key) = some s.field := by
  cases s <;> rfl

theorem elsewhere (s : Section) :
    ∀ f ∈ MasterConfig.fields, f.name ≠ s.key → Elsewhere s.of f := by
  intro f hf hne
  rw [fields_eq] at hf
  obtain ⟨t, -, rfl⟩ := List.mem_map.mp hf
  have hts : t ≠ s := by
    rintro rfl
    exact hne rfl
  exact ⟨t.reader_congruent, of_set_of_ne hts⟩

/-- The other sections of a document can be read. -/
abbrev Separable (s : Section) (d : Document) : Prop :=
  Yaml.Separable "struct MasterConfig" MasterConfig.fields {} s.key d

/-- Two documents hold the same in a section. -/
def Same (s : Section) (ordered : Bool) (d₁ d₂ : Document) : Prop :=
  SameMembers ordered d₁ d₂ (d₁.under s.key) (d₂.under s.key)

theorem matches_of (s : Section) {ordered : Bool} {d₁ d₂ : Document} (h₁ : s.Separable d₁)
    (h₂ : s.Separable d₂) (hsame : s.Same ordered d₁ d₂) :
    Matches ordered ((ofDocument d₁).map s.of) ((ofDocument d₂).map s.of) :=
  h₁.matches_part h₂ s.reader_congruent s.of_set s.find?_key s.elsewhere hsame

end Section

end MasterConfig

/-! ## Components -/

namespace Gather

variable {α : Type}

/-- The file that is asked for first. -/
def first? : Gather α → Option String
  | done _ => none
  | fail _ => none
  | fetch path _ => some path
  | note _ next => next.first?

/-- What is left to do when the first file is given. -/
def supply (content : Bytes) : Gather α → Gather α
  | done a => done a
  | fail e => fail e
  | fetch _ next => next content
  | note n next => note n (next.supply content)

theorem perform_supply {m : Type → Type} [Monad m] [LawfulMonad m]
    {files : String → m (Except FetchError Bytes)} (heed : Notice → m Unit) {path : String}
    {content : Bytes} (hfile : files path = pure (.ok content)) {g : Gather α}
    (hg : g.first? = some path) :
    g.perform files heed = (g.supply content).perform files heed := by
  induction g with
  | done a => cases hg
  | fail e => cases hg
  | fetch p next _ =>
      cases hg
      simp only [perform, supply, hfile, pure_bind]
  | note n next ih => simp only [perform, supply, ih hg]

end Gather

namespace Component

open MasterConfig (Section)

/-- The components that go by a section. -/
def ofSection (env : Environment) (masterConfigFile : String) : Section → List Component
  | .oauth => [oauth env masterConfigFile]
  | .network => [sdn masterConfigFile]
  | .imagePolicy => [image masterConfigFile]
  | .project => [project masterConfigFile, scheduler masterConfigFile]

/-- The component reads the master configuration and uses nothing of it but a section. -/
def GoesBy (s : Section) (masterConfigFile : String) (c : Component) : Prop :=
  ∃ rest : s.Content → Gather Extraction,
    c.extract = .note (.extracting c.name) (.fetch masterConfigFile fun content =>
      match (MasterConfig.decode content).map s.of with
      | .ok v => rest v
      | .error e => .fail (.undecodable e.message))

theorem announced_goesBy (s : Section) {α : Type} (name masterConfigFile : String)
    (rest : s.Content → Gather α) (validate : α → Except Failure Unit)
    (transform : α → List Notice × Except Failure (List Output)) :
    GoesBy s masterConfigFile
      (announced name (masterConfig masterConfigFile >>= fun c => rest (s.of c))
        validate transform) := by
  refine ⟨fun v => rest v >>= fun data => pure {
      validate := validate data
      transform := (.transforming name :: (transform data).1, (transform data).2) }, ?_⟩
  simp only [announced, masterConfig, Bind.bind, Gather.tell, Gather.file, Gather.bind]
  refine congrArg (Gather.note _) (congrArg (Gather.fetch _) (funext fun content => ?_))
  cases MasterConfig.decode content <;> rfl

theorem goesBy_of_mem_ofSection {env : Environment} {masterConfigFile : String} {s : Section}
    {c : Component} (hc : c ∈ ofSection env masterConfigFile s) :
    GoesBy s masterConfigFile c := by
  cases s with
  | oauth =>
      cases List.mem_singleton.mp hc
      exact announced_goesBy .oauth OAuth.name masterConfigFile
        (fun
          | none => pure {}
          | some o => do
            return {
              providers := ← OAuth.providers env o.identityProviders
              tokenConfig := o.tokenConfig
              templates := ← OAuth.templates o.templates })
        OAuth.validate OAuth.transform
  | network =>
      cases List.mem_singleton.mp hc
      exact announced_goesBy .network Sdn.name masterConfigFile (fun n => pure (n.getD {}))
        Sdn.validate Sdn.transform
  | imagePolicy =>
      cases List.mem_singleton.mp hc
      exact announced_goesBy .imagePolicy Image.name masterConfigFile (fun p => pure (p.getD {}))
        Image.validate Image.transform
  | project =>
      simp only [ofSection, List.mem_cons, List.not_mem_nil, or_false] at hc
      rcases hc with rfl | rfl
      · exact announced_goesBy .project Project.name masterConfigFile pure
          Project.validate Project.transform
      · exact announced_goesBy .project Scheduler.name masterConfigFile
          (fun p => pure ((p.map (·.defaultNodeSelector)).getD ""))
          Scheduler.validate Scheduler.transform

theorem GoesBy.first? {s : Section} {masterConfigFile : String} {c : Component}
    (h : GoesBy s masterConfigFile c) : c.extract.first? = some masterConfigFile := by
  obtain ⟨rest, hrest⟩ := h
  rw [hrest]
  rfl

theorem GoesBy.supply_eq {s : Section} {masterConfigFile : String} {c : Component}
    (h : GoesBy s masterConfigFile c) {content₁ content₂ : Bytes}
    {config₁ config₂ : MasterConfig} (h₁ : MasterConfig.decode content₁ = .ok config₁)
    (h₂ : MasterConfig.decode content₂ = .ok config₂) (hof : s.of config₁ = s.of config₂) :
    c.extract.supply content₁ = c.extract.supply content₂ := by
  obtain ⟨rest, hrest⟩ := h
  rw [hrest]
  simp only [Gather.supply, h₁, h₂, Except.map, hof]

theorem GoesBy.supply_of_error {s : Section} {masterConfigFile : String} {c : Component}
    (h : GoesBy s masterConfigFile c) {content : Bytes} {e : ReadError}
    (herror : MasterConfig.decode content = .error e) :
    c.extract.supply content =
      .note (.extracting c.name) (.fail (.undecodable e.message)) := by
  obtain ⟨rest, hrest⟩ := h
  rw [hrest]
  simp only [Gather.supply, herror, Except.map]

/-- A component does the same for two documents that hold the same in its section, whatever
they hold in other sections, as long as these can be read. It fails for a document that
cannot be read, whatever its section holds. If the fault is in its own section, it fails for
both documents, with the same complaint where the members are in one order. -/
theorem ofSection_isolated (env : Environment) (masterConfigFile : String) (s : Section)
    (c : Component) (hc : c ∈ ofSection env masterConfigFile s) :
    c.extract.first? = some masterConfigFile ∧
      (∀ (ordered : Bool) (content₁ content₂ : Bytes), s.Separable (.ofBytes content₁) →
        s.Separable (.ofBytes content₂) →
        s.Same ordered (.ofBytes content₁) (.ofBytes content₂) →
        (∃ config₁ config₂, MasterConfig.decode content₁ = .ok config₁ ∧
            MasterConfig.decode content₂ = .ok config₂ ∧
            c.extract.supply content₁ = c.extract.supply content₂) ∨
          ∃ e₁ e₂, MasterConfig.decode content₁ = .error e₁ ∧
            MasterConfig.decode content₂ = .error e₂ ∧ (ordered = true → e₁ = e₂)) ∧
      ∀ (content : Bytes) (e : ReadError), MasterConfig.decode content = .error e →
        c.extract.supply content =
          .note (.extracting c.name) (.fail (.undecodable e.message)) := by
  have h := goesBy_of_mem_ofSection hc
  refine ⟨h.first?, fun ordered content₁ content₂ h₁ h₂ hsame => ?_,
    fun _ _ herror => h.supply_of_error herror⟩
  have hmatches : Matches ordered ((MasterConfig.decode content₁).map s.of)
      ((MasterConfig.decode content₂).map s.of) := s.matches_of h₁ h₂ hsame
  cases hd₁ : MasterConfig.decode content₁ with
  | error e₁ =>
      cases hd₂ : MasterConfig.decode content₂ with
      | error e₂ =>
          rw [hd₁, hd₂] at hmatches
          cases hmatches with
          | error he => exact .inr ⟨e₁, e₂, rfl, rfl, he⟩
      | ok config₂ => rw [hd₁, hd₂] at hmatches; cases hmatches
  | ok config₁ =>
      cases hd₂ : MasterConfig.decode content₂ with
      | error e₂ => rw [hd₁, hd₂] at hmatches; cases hmatches
      | ok config₂ =>
          rw [hd₁, hd₂] at hmatches
          refine .inl ⟨config₁, config₂, rfl, rfl, h.supply_eq hd₁ hd₂ ?_⟩
          simp only [Except.map] at hmatches
          generalize s.of config₁ = v₁ at hmatches ⊢
          generalize s.of config₂ = v₂ at hmatches ⊢
          cases hmatches with
          | ok => rfl

section

private def oauthAlone : Bytes := Utf8.encode
  "oauthConfig: \x7btemplates: \x7blogin: l, error: e\x7d\x7d\n"

/-- The same for OAuth, with quotes and in another order, below another section. -/
private def oauthBelowNetwork : Bytes := Utf8.encode <|
  "networkConfig: \x7bhostSubnetLength: 9\x7d # one range\n" ++
  "oauthConfig:\n  templates:\n    error: \"e\"\n    login: 'l'\n"

private def malformedNetwork : Bytes := oauthAlone ++ Utf8.encode "networkConfig: 5\n"

private def path : String := "/etc/origin/master/master-config.yaml"

private def blank : Files := fun _ => .ok []

private theorem isWellFormedMapping_oauthAlone :
    (Document.ofBytes oauthAlone).isWellFormedMapping = true := by decide +kernel

private theorem separable_oauthAlone : Section.Separable .oauth (.ofBytes oauthAlone) :=
  .of_isOk isWellFormedMapping_oauthAlone (by decide +kernel) (by decide +kernel)

private theorem separable_oauthBelowNetwork :
    Section.Separable .oauth (.ofBytes oauthBelowNetwork) :=
  .of_isOk (by decide +kernel) (by decide +kernel) (by decide +kernel)

private theorem same_oauthBelowNetwork :
    Section.Same .oauth false (.ofBytes oauthAlone) (.ofBytes oauthBelowNetwork) :=
  sameMembers_of_agree _ _ (by decide +kernel) (by decide +kernel)

private theorem same_malformedNetwork :
    Section.Same .oauth false (.ofBytes oauthAlone) (.ofBytes malformedNetwork) :=
  sameMembers_of_agree _ _ (by decide +kernel) (by decide +kernel)

private theorem isOk_oauthAlone :
    (((oauth (fun _ => none) path).extract.supply oauthAlone).result blank).isOk = true := by
  decide +kernel

private theorem decode_malformedNetwork :
    MasterConfig.decode malformedNetwork =
      .error (.mismatch "networkConfig" (.wrongType (.integer 5) "struct NetworkConfig")) := by
  have h : (MasterConfig.decode malformedNetwork).map (fun _ => ()) =
      .error (.mismatch "networkConfig" (.wrongType (.integer 5) "struct NetworkConfig")) := by
    decide +kernel
  cases hd : MasterConfig.decode malformedNetwork with
  | ok c => rw [hd] at h; cases h
  | error e =>
      rw [hd] at h
      cases h
      rfl

theorem oauth_isolated_from_network :
    let c := oauth (fun _ => none) path
    let e := ReadError.mismatch "networkConfig"
      (.wrongType (.integer 5) "struct NetworkConfig")
    c ∈ ofSection (fun _ => none) path .oauth ∧
      Section.Separable .oauth (.ofBytes oauthAlone) ∧
      Section.Separable .oauth (.ofBytes oauthBelowNetwork) ∧
      Section.Same .oauth false (.ofBytes oauthAlone) (.ofBytes oauthBelowNetwork) ∧
      MasterConfig.decode malformedNetwork = .error e ∧
      c.extract.first? = some path ∧
      c.extract.supply oauthAlone = c.extract.supply oauthBelowNetwork ∧
      ((c.extract.supply oauthAlone).result blank).isOk = true ∧
      c.extract.supply malformedNetwork =
        .note (.extracting "OAuth") (.fail (.undecodable e.message)) := by
  have hc : oauth (fun _ => none) path ∈ ofSection (fun _ => none) path .oauth :=
    List.mem_singleton_self _
  obtain ⟨hfirst, hisolated, hstopped⟩ := ofSection_isolated _ path .oauth _ hc
  have hsupply : (oauth (fun _ => none) path).extract.supply oauthAlone =
      (oauth (fun _ => none) path).extract.supply oauthBelowNetwork := by
    rcases hisolated false _ _ separable_oauthAlone separable_oauthBelowNetwork
      same_oauthBelowNetwork with ⟨_, _, _, _, h⟩ | ⟨e, _, herror, _⟩
    · exact h
    · have hok := isOk_oauthAlone
      rw [hstopped _ _ herror] at hok
      cases hok
  exact ⟨hc, separable_oauthAlone, separable_oauthBelowNetwork, same_oauthBelowNetwork,
    decode_malformedNetwork, hfirst, hsupply, isOk_oauthAlone,
    hstopped _ _ decode_malformedNetwork⟩

/-- What another section holds does make a difference where it cannot be read. -/
theorem oauth_not_isolated_from_malformed :
    ¬ ∀ (env : Environment) (masterConfigFile : String) (s : Section) (c : Component),
      c ∈ ofSection env masterConfigFile s → ∀ content₁ content₂ : Bytes,
        (Document.ofBytes content₁).isWellFormedMapping = true →
        (Document.ofBytes content₂).isWellFormedMapping = true →
        s.Same false (.ofBytes content₁) (.ofBytes content₂) →
        c.extract.supply content₁ = c.extract.supply content₂ := by
  intro h
  have hc : oauth (fun _ => none) path ∈ ofSection (fun _ => none) path .oauth :=
    List.mem_singleton_self _
  have heq := h _ _ .oauth _ hc oauthAlone malformedNetwork isWellFormedMapping_oauthAlone
    (by decide +kernel) same_malformedNetwork
  rw [(goesBy_of_mem_ofSection hc).supply_of_error decode_malformedNetwork] at heq
  have halone := isOk_oauthAlone
  rw [heq] at halone
  cases halone

end

end Component

end ClusterMigration
