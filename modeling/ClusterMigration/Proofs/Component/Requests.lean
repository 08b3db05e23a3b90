import ClusterMigration.Proofs.Component.Noninterference
import ClusterMigration.Proofs.Component.Visits
import ClusterMigration.Proofs.IdentityProvider.Demands

/-!
# Requests for files

Once it has the master configuration, the OAuth component asks for the same paths whatever is in
the files: for those that the look finds in the stanzas of known kinds, and for the pages. The
main statement, `requests_of_extract`, says which these are, that a refusal is all that can go
wrong, and that providers of unknown kinds make no difference.
-/

namespace ClusterMigration

namespace Component.OAuth

open Gather (Asks Follows asks_file visit_bind visit_fetch visit_pure)
open IdentityProvider (Kind)

/-! ## What the component asks for -/

def named (path : String) : List String := if path = "" then [] else [path]

/-- The file of a source that is not encrypted and does not give the text itself. -/
def requestsOfSource : Option StringSource → List String
  | none => []
  | some s => if s.keyFile = "" ∧ s.value = "" then named s.file else []

def FileReferences.requests (r : FileReferences) : List String :=
  named r.file ++ named (if r.ca = "" then r.clientCa else r.ca) ++ named r.certFile
    ++ named r.keyFile ++ requestsOfSource r.clientSecret ++ requestsOfSource r.bindPassword

/-- What the look at the stanza finds, nothing if it cannot be read. -/
def requestsOfEntry (e : ProviderEntry) : List String :=
  match FileReferences.read e.provider.dropNulls with
  | .ok r => r.requests
  | .error _ => []

def requestsOfPages : Option TemplatePaths → List String
  | none => []
  | some t => named t.login ++ named t.error ++ named t.providerSelection

def isKnown (e : ProviderEntry) : Bool :=
  (Kind.ofSource? (kindOf e.provider.dropNulls)).isSome

/-- The files that are needed besides the master configuration, in order. -/
def requests (o : OAuthConfig) : List String :=
  (o.identityProviders.filter isKnown).flatMap requestsOfEntry ++ requestsOfPages o.templates

theorem asks_fileIfNamed (path : String) : Asks (fileIfNamed path) (named path) := by
  unfold fileIfNamed named
  by_cases h : path = ""
  · rw [if_pos h, if_pos (by simpa using h)]
    exact .pure []
  · rw [if_neg h, if_neg (by simpa using h)]
    exact asks_file path

theorem asks_resolve (env : Environment) (source : Option StringSource) :
    Asks (resolve env source) (requestsOfSource source) := by
  cases source with
  | none => exact .pure none
  | some s =>
      simp only [resolve, requestsOfSource, named, StringSource.isEncrypted, Bool.not_eq_true',
        String.isEmpty_eq_false_iff]
      by_cases hkey : s.keyFile = ""
      · by_cases hvalue : s.value = ""
        · by_cases hfile : s.file = ""
          · simp only [hkey, hvalue, hfile, ne_eq, not_true_eq_false, if_false, and_self, if_true]
            split <;> exact .pure _
          · simp only [hkey, hvalue, hfile, ne_eq, not_true_eq_false, not_false_eq_true, if_false,
              and_self, if_true]
            exact (asks_file s.file).map fun _ => .pure _
        · simp only [hkey, hvalue, ne_eq, not_true_eq_false, not_false_eq_true, if_false,
            and_false, if_true]
          exact .pure _
      · simp only [hkey, ne_eq, not_false_eq_true, false_and, if_false, if_true]
        exact .pure _

theorem asks_sideFiles (env : Environment) (r : FileReferences) :
    Asks (sideFiles env r) r.requests := by
  have hauthorities : r.authorities = if r.ca = "" then r.clientCa else r.ca := by
    simp only [FileReferences.authorities, String.isEmpty_iff]
  simp only [FileReferences.requests, List.append_assoc, ← hauthorities]
  refine (asks_fileIfNamed r.file).bind fun _ => ?_
  refine (asks_fileIfNamed r.authorities).bind fun _ => ?_
  refine (asks_fileIfNamed r.certFile).bind fun _ => ?_
  refine (asks_fileIfNamed r.keyFile).bind fun _ => ?_
  refine (asks_resolve env r.clientSecret).bind fun _ => ?_
  exact (asks_resolve env r.bindPassword).map fun _ => .pure _

theorem asks_filesOf (env : Environment) (e : ProviderEntry) :
    Asks (filesOf env e) (if isKnown e then requestsOfEntry e else []) := by
  unfold filesOf isKnown
  split
  · rw [FileReferences.readOrEmpty, requestsOfEntry]
    cases FileReferences.read e.provider.dropNulls with
    | ok r => exact asks_sideFiles env r
    | error _ => exact asks_sideFiles env {}
  · exact .pure _

theorem asks_providers (env : Environment) (es : List ProviderEntry) :
    Asks (providers env es) ((es.filter isKnown).flatMap requestsOfEntry) := by
  induction es with
  | nil => exact .pure []
  | cons e es ih =>
      have hprovider : Asks (provider env e) (if isKnown e then requestsOfEntry e else []) := by
        rw [provider_eq]
        exact (asks_filesOf env e).map fun _ => .note _ (.pure _)
      have hplan : ((e :: es).filter isKnown).flatMap requestsOfEntry =
          (if isKnown e then requestsOfEntry e else [])
            ++ (es.filter isKnown).flatMap requestsOfEntry := by
        rw [List.filter_cons]
        split <;> simp
      rw [hplan]
      exact hprovider.bind fun _ => ih.map fun _ => .pure _

theorem asks_pageIfNamed (path : String) : Asks (pageIfNamed path) (named path) := by
  unfold pageIfNamed named
  by_cases h : path = ""
  · rw [if_pos h, if_pos (by simpa using h)]
    exact .pure none
  · rw [if_neg h, if_neg (by simpa using h)]
    exact (asks_file path).map fun _ => .pure _

theorem asks_templates (t : Option TemplatePaths) : Asks (templates t) (requestsOfPages t) := by
  cases t with
  | none => exact .pure _
  | some t =>
      simp only [requestsOfPages, List.append_assoc]
      refine (asks_pageIfNamed t.login).bind fun _ => ?_
      refine (asks_pageIfNamed t.error).bind fun _ => ?_
      exact (asks_pageIfNamed t.providerSelection).map fun _ => .pure _

theorem gatherSection_getD (env : Environment) (section? : Option OAuthConfig) :
    gatherSection env section? = gatherSection env (some (section?.getD {})) := by
  cases section? <;> rfl

theorem asks_gatherSection (env : Environment) (o : OAuthConfig) :
    Asks (gatherSection env (some o)) (requests o) :=
  (asks_providers env o.identityProviders).bind fun _ =>
    (asks_templates o.templates).map fun _ => .pure _

/-! ## Providers of unknown kinds -/

/-- The section without the providers of unknown kinds. -/
def knownOnly (o : OAuthConfig) : OAuthConfig :=
  { o with identityProviders := o.identityProviders.filter isKnown }

def Data.knownOnly (d : Data) : Data :=
  { d with providers := d.providers.filter (·.kind?.isSome) }

theorem requests_knownOnly (o : OAuthConfig) : requests (knownOnly o) = requests o := by
  have hfilter : (o.identityProviders.filter isKnown).filter isKnown =
      o.identityProviders.filter isKnown := by
    rw [List.filter_filter]
    simp only [Bool.and_self]
  exact congrArg (·.flatMap requestsOfEntry ++ requestsOfPages o.templates) hfilter

variable {env : Environment} {archive : Archive} {asked : List String}

theorem visit_provider (e : ProviderEntry) :
    (provider env e).visit archive asked =
      (((filesOf env e).visit archive asked).1.map (gathered e),
        ((filesOf env e).visit archive asked).2) := by
  rw [provider_eq, visit_bind]
  rcases (filesOf env e).visit archive asked with ⟨x, asked⟩
  cases x <;> rfl

theorem visit_unknown {e : ProviderEntry} (h : isKnown e = false) :
    (provider env e).visit archive asked = (.ok (gathered e {}), asked) := by
  rw [visit_provider, filesOf, if_neg (by simpa [isKnown] using h)]
  rfl

theorem visit_providers_known (es : List ProviderEntry) :
    (providers env (es.filter isKnown)).visit archive asked =
      (((providers env es).visit archive asked).1.map (·.filter (·.kind?.isSome)),
        ((providers env es).visit archive asked).2) := by
  induction es generalizing asked with
  | nil => rfl
  | cons e es ih =>
      have hkind (files : SideFiles) : (gathered e files).kind?.isSome = isKnown e := rfl
      cases hknown : isKnown e with
      | false =>
          -- only one of the two runs visits this provider, and it asks for nothing
          rw [List.filter_cons_of_neg (by simp [hknown]), ih, providers, visit_bind,
            visit_unknown hknown]
          simp only [visit_bind]
          rcases (providers env es).visit archive asked with ⟨x, asked⟩
          cases x with
          | error e => rfl
          | ok ps =>
            simp only [visit_pure, Except.map]
            rw [List.filter_cons_of_neg (by simp [hkind, hknown])]
      | true =>
          rw [List.filter_cons_of_pos hknown, providers, providers, visit_bind, visit_bind,
            visit_provider]
          rcases (filesOf env e).visit archive asked with ⟨x, asked⟩
          cases x with
          | error e => rfl
          | ok files =>
            simp only [Except.map, visit_bind, ih]
            rcases (providers env es).visit archive asked with ⟨x, asked⟩
            cases x with
            | error e => rfl
            | ok ps =>
              simp only [visit_pure]
              rw [List.filter_cons_of_pos (by simp [hkind, hknown])]

theorem visit_gatherSection_known (env : Environment) (archive : Archive) (asked : List String)
    (o : OAuthConfig) :
    (gatherSection env (some (knownOnly o))).visit archive asked =
      (((gatherSection env (some o)).visit archive asked).1.map Data.knownOnly,
        ((gatherSection env (some o)).visit archive asked).2) := by
  simp only [gatherSection, knownOnly, visit_bind, visit_providers_known]
  rcases (providers env o.identityProviders).visit archive asked with ⟨x, asked⟩
  cases x with
  | error e => rfl
  | ok ps =>
    simp only [Except.map]
    rcases (templates o.templates).visit archive asked with ⟨x, asked⟩
    cases x <;> rfl

def manifestsIn (outputs : List Output) : List Manifest :=
  outputs.flatMap fun
    | .manifests ms => ms
    | .report _ => []

theorem validate_knownOnly (d : Data) : validate d.knownOnly = validate d :=
  congrArg (Except.mapError Failure.provider) (IdentityProvider.validate_filter_known d.providers)

theorem manifests_knownOnly (d : Data) :
    (transform d.knownOnly).2.map manifestsIn = (transform d).2.map manifestsIn := by
  have hpackage :=
    (OAuthPackage.ofProviders_filter_known d.providers d.tokenConfig d.templates).1
  have hmanifests (d : Data) : (transform d).2.map manifestsIn =
      ((OAuthPackage.ofProviders d.providers d.tokenConfig d.templates).2.map
        OAuthPackage.manifests).mapError .provider := by
    rw [transform]
    rcases OAuthPackage.ofProviders d.providers d.tokenConfig d.templates with ⟨notices, x⟩
    cases x with
    | error e => rfl
    | ok o => simp [manifestsIn, Except.map, Except.mapError]
  rw [hmanifests, hmanifests]
  exact congrArg (fun x => (x.map OAuthPackage.manifests).mapError Failure.provider) hpackage

/-! ## The whole component -/

/-- The check says the same, and the same manifests are put out or there are none for the same
reason. -/
structure SameManifests (x₁ x₂ : Extraction) : Prop where
  validate : x₁.validate = x₂.validate
  manifests : x₁.transform.2.map manifestsIn = x₂.transform.2.map manifestsIn

theorem sameManifests_knownOnly {d₁ d₂ : Data} (h : d₁.knownOnly = d₂.knownOnly) :
    SameManifests (extraction d₁) (extraction d₂) := by
  constructor
  · change OAuth.validate d₁ = OAuth.validate d₂
    rw [← validate_knownOnly d₁, h, validate_knownOnly]
  · change (OAuth.transform d₁).2.map manifestsIn = (OAuth.transform d₂).2.map manifestsIn
    rw [← manifests_knownOnly d₁, h, manifests_knownOnly]

variable {path : String} {c : MasterConfig}

theorem visit_extract
    (hdecode : ∀ content, archive [] path = .ok content → MasterConfig.decode content = .ok c) :
    (oauth env path).extract.visit archive [] =
      match archive [] path with
      | .ok _ =>
        (((gatherSection env (some (c.oauth.getD {}))).visit archive [path]).1.map extraction,
          ((gatherSection env (some (c.oauth.getD {}))).visit archive [path]).2)
      | .error e => (.error (.fetch e), [path]) := by
  have hextract : (oauth env path).extract = Gather.tell (.extracting name) >>= fun _ =>
      gather env path >>= fun d => pure (extraction d) := rfl
  have hmaster : (masterConfig path).visit archive [] =
      match archive [] path with
      | .ok _ => (.ok c, [path])
      | .error e => (.error (.fetch e), [path]) := by
    rw [masterConfig, Gather.file, visit_bind, visit_fetch]
    cases hcontent : archive [] path with
    | error e => rfl
    | ok content =>
      simp only [Gather.visit_done, hdecode content hcontent]
      rfl
  rw [hextract, visit_bind, gather_eq]
  change (masterConfig path >>= _ >>= _).visit archive [] = _
  rw [visit_bind, visit_bind, hmaster, ← gatherSection_getD]
  cases archive [] path with
  | error e => rfl
  | ok content =>
    dsimp only
    rcases (gatherSection env c.oauth).visit archive [path] with ⟨x, asked⟩
    cases x <;> rfl

/-- Two sections that are the same but for providers of unknown kinds are gathered alike. -/
theorem visit_gatherSection_congr (env : Environment) (asked : List String)
    {archive' : Archive} {o o' : OAuthConfig} (hknown : knownOnly o = knownOnly o')
    (hsame : ∀ before other, archive (asked ++ before) other = archive' (asked ++ before) other) :
    let visited := (gatherSection env (some o)).visit archive asked
    let visited' := (gatherSection env (some o')).visit archive' asked
    visited'.2 = visited.2 ∧
      Both (fun d d' => d.knownOnly = d'.knownOnly) visited.1 visited'.1 := by
  have h := visit_gatherSection_known env archive asked o
  rw [hknown, Gather.visit_congr _ hsame, visit_gatherSection_known] at h
  obtain ⟨hresult, hasked⟩ := Prod.mk.inj h
  exact ⟨hasked, Both.of_map_eq hresult.symm⟩

theorem follows_extract (env : Environment)
    (hdecode : ∀ content, archive [] path = .ok content → MasterConfig.decode content = .ok c) :
    Follows archive [] (path :: requests (c.oauth.getD {}))
      ((oauth env path).extract.visit archive []) := by
  have hsection := (asks_gatherSection env (c.oauth.getD {})).follows archive [path]
  rw [visit_extract hdecode]
  cases hpath : archive [] path with
  | error e => exact .refused hpath
  | ok content => exact .cons hpath hsection.map

/-- Whatever is answered, the paths asked for are the one of the master configuration and then
those that it says, up to the first that is refused, and a refusal is the only failure. With
providers of unknown kinds added or left out anywhere, the same is asked for, and as long as
the same is answered the check says the same and the manifests are the same. -/
theorem requests_of_extract (env : Environment) {archive : Archive} {path : String}
    {c : MasterConfig}
    (hdecode : ∀ content, archive [] path = .ok content → MasterConfig.decode content = .ok c) :
    let plan := path :: requests (c.oauth.getD {})
    let visited := (oauth env path).extract.visit archive []
    Follows archive [] plan visited ∧
    (∀ failure, visited.1 = .error failure ↔
      ∃ before p e, archive.Refuses [] plan before p e ∧ failure = .fetch e) ∧
    ∀ (archive' : Archive) (c' : MasterConfig),
      (∀ content, archive' [] path = .ok content → MasterConfig.decode content = .ok c') →
      knownOnly (c.oauth.getD {}) = knownOnly (c'.oauth.getD {}) →
      archive.SameAfter path archive' →
      let visited' := (oauth env path).extract.visit archive' []
      path :: requests (c'.oauth.getD {}) = plan ∧ visited'.2 = visited.2 ∧
        Both SameManifests visited.1 visited'.1 := by
  intro plan visited
  have hfollows : Follows archive [] plan visited := follows_extract env hdecode
  refine ⟨hfollows, fun failure => hfollows.error_iff, ?_⟩
  intro archive' c' hdecode' hknown hsame visited'
  refine ⟨?_, ?_⟩
  · change _ = path :: requests (c.oauth.getD {})
    rw [← requests_knownOnly, ← hknown, requests_knownOnly]
  · have hsection := visit_gatherSection_congr env [path] hknown hsame.rest
    have hfirst := Both.of_map_eq hsame.first
    simp only [visited, visited', visit_extract hdecode, visit_extract hdecode']
    generalize archive [] path = x at hfirst ⊢
    generalize archive' [] path = y at hfirst ⊢
    cases hfirst with
    | error e => exact ⟨rfl, .error _⟩
    | ok _ => exact ⟨hsection.1, hsection.2.map fun _ _ => sameManifests_knownOnly⟩

section

private def gitHubWithLogin : OAuthConfig where
  identityProviders := [{
    name := "github"
    provider := .object [("ca", .string "/ca"),
      ("clientSecret", .object [("file", .string "/secret")]),
      ("kind", .string "GitHubIdentityProvider")] }]
  templates := some { login := "/login" }

private def masterAfter (more : String) : Bytes := Utf8.encode
  ("oauthConfig: \x7bidentityProviders: [" ++ more ++ "\x7bname: github, provider: \x7bkind:
    GitHubIdentityProvider, ca: /ca, clientSecret: \x7bfile: /secret\x7d\x7d\x7d],
    templates: \x7blogin: /login\x7d\x7d")

private def unknownEntry : String :=
  "\x7bprovider: \x7bkind: Future, file: /users\x7d\x7d, "

private def isGitHubWithLogin : OAuthConfig → Bool
  | ⟨[⟨name, false, false, method, .object [(k₁, .string ca), (k₂, .object [(k₃, .string file)]),
      (k₄, .string kind)]⟩], none, some t⟩ =>
    name == "github" && method == "" && k₁ == "ca" && ca == "/ca" && k₂ == "clientSecret" &&
      k₃ == "file" && file == "/secret" && k₄ == "kind" && kind == "GitHubIdentityProvider" &&
      t == { login := "/login" }
  | _ => false

private theorem eq_gitHubWithLogin {o : OAuthConfig} (h : isGitHubWithLogin o = true) :
    o = gitHubWithLogin := by
  unfold isGitHubWithLogin at h
  split at h
  · simp only [Bool.and_eq_true, beq_iff_eq] at h
    obtain ⟨⟨⟨⟨⟨⟨⟨⟨⟨rfl, rfl⟩, rfl⟩, rfl⟩, rfl⟩, rfl⟩, rfl⟩, rfl⟩, rfl⟩, rfl⟩ := h
    rfl
  · cases h

private theorem exists_gitHubWithLogin (more : String)
    (h : (MasterConfig.decode (masterAfter more)).toOption.any
      (fun c => isGitHubWithLogin (knownOnly (c.oauth.getD {}))) = true) :
    ∃ c, MasterConfig.decode (masterAfter more) = .ok c ∧
      knownOnly (c.oauth.getD {}) = gitHubWithLogin := by
  obtain ⟨c, hc, hconfig⟩ := toOption_any_iff.mp h
  exact ⟨c, hc, eq_gitHubWithLogin hconfig⟩

private def once (master : Bytes) : Archive := fun asked path =>
  if path ∈ asked ∨ path = "/users" then .error (.unreadable path "not again")
  else if path = "/master" then .ok master
  else .ok [0]

/-- A provider of an unknown kind whose file would be refused. -/
theorem requests_beside_unknown :
    ((oauth (fun _ => none) "/master").extract.visit (once (masterAfter "")) []).2 =
        ["/master", "/ca", "/secret", "/login"] ∧
      ((oauth (fun _ => none) "/master").extract.visit (once (masterAfter "")) []).1.isOk = true ∧
      ((oauth (fun _ => none) "/master").extract.visit (once (masterAfter unknownEntry)) []).2 =
        ["/master", "/ca", "/secret", "/login"] ∧
      Both SameManifests
        ((oauth (fun _ => none) "/master").extract.visit (once (masterAfter "")) []).1
        ((oauth (fun _ => none) "/master").extract.visit (once (masterAfter unknownEntry))
          []).1 := by
  -- the host refuses what the provider of the unknown kind names
  obtain ⟨c, hdecode, hc⟩ := exists_gitHubWithLogin "" (by decide +kernel)
  obtain ⟨c', hdecode', hc'⟩ := exists_gitHubWithLogin unknownEntry (by decide +kernel)
  have hgrants : (once (masterAfter "")).Grants [] ["/master", "/ca", "/secret", "/login"] := by
    have hmaster : once (masterAfter "") [] "/master" = .ok (masterAfter "") := by simp [once]
    have hca : once (masterAfter "") ["/master"] "/ca" = .ok [0] := by simp [once]
    have hsecret : once (masterAfter "") ["/master", "/ca"] "/secret" = .ok [0] := by simp [once]
    have hlogin : once (masterAfter "") ["/master", "/ca", "/secret"] "/login" = .ok [0] := by
      simp [once]
    refine (Archive.grants_cons_iff hmaster).mpr ?_
    refine (Archive.grants_cons_iff hca).mpr ?_
    refine (Archive.grants_cons_iff hsecret).mpr ?_
    exact (Archive.grants_cons_iff hlogin).mpr Archive.grants_nil
  have hrequests : requests (c.oauth.getD {}) = ["/ca", "/secret", "/login"] := by
    rw [← requests_knownOnly, hc]
    decide +kernel
  have hread {more : String} {c : MasterConfig}
      (hdecode : MasterConfig.decode (masterAfter more) = .ok c) :
      ∀ content, once (masterAfter more) [] "/master" = .ok content →
        MasterConfig.decode content = .ok c := by
    intro content hcontent
    have hmaster : masterAfter more = content := by simpa [once] using hcontent
    rw [← hmaster, hdecode]
  have hsame : (once (masterAfter "")).SameAfter "/master" (once (masterAfter unknownEntry)) := by
    refine ⟨by simp [once, Except.map], fun before other => ?_⟩
    by_cases h : other ∈ "/master" :: before ∨ other = "/users"
    · rw [once, once, if_pos h, if_pos h]
    · have hother : other ≠ "/master" := fun heq => h (.inl (heq ▸ List.mem_cons_self ..))
      rw [once, once, if_neg h, if_neg h, if_neg hother, if_neg hother]
  obtain ⟨hfollows, -, hothers⟩ := requests_of_extract (fun _ => none) (hread hdecode)
  rw [hrequests] at hfollows
  obtain ⟨hasked, x, hx⟩ := hfollows.of_grants hgrants
  obtain ⟨-, hasked', hboth⟩ := hothers (once (masterAfter unknownEntry)) c' (hread hdecode')
    (hc.trans hc'.symm) hsame
  exact ⟨hasked, isOk_iff.mpr ⟨x, hx⟩, hasked'.trans hasked, hboth⟩

end

end Component.OAuth

end ClusterMigration
