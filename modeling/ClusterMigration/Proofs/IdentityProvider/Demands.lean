import ClusterMigration.Proofs.IdentityProvider.Check
import Mathlib.Tactic.Tauto

/-!
# What the check demands

What the settings of each kind have to be, what each violation means, and in which order the
violations are looked for. The main statement, `validate_decides`, says that a list of providers
passes the check just if every provider of a known kind is as demanded, and that otherwise the
error is the first one of the first provider that is not.
-/

namespace ClusterMigration

def StringSource.IsGiven (s : StringSource) : Prop := s.value ≠ "" ∨ s.env ≠ "" ∨ s.file ≠ ""

namespace IdentityProvider

structure IsClient (clientId : String) (clientSecret : StringSource) : Prop where
  isPlain : clientSecret.keyFile = ""
  isNamed : clientId ≠ ""
  isGiven : clientSecret.IsGiven

def HasKey (certFile keyFile : String) : Prop := certFile ≠ "" → keyFile ≠ ""

/-- What is demanded of the settings of each kind. -/
def Settings.Suffices : Settings → Prop
  | basicAuth s => s.url ≠ "" ∧ HasKey s.certFile s.keyFile
  | gitHub s => IsClient s.clientId s.clientSecret
  | gitLab s => s.url ≠ "" ∧ IsClient s.clientId s.clientSecret
  | google s => IsClient s.clientId s.clientSecret
  | htpasswd _ => True
  | keystone s => s.domainName ≠ "" ∧ s.url ≠ "" ∧ HasKey s.certFile s.keyFile
  | ldap s =>
    s.attributes.id ≠ [] ∧ s.attributes.email ≠ [] ∧ s.attributes.name ≠ [] ∧
      s.attributes.preferredUsername ≠ [] ∧ s.url ≠ "" ∧ s.bindPassword.keyFile = ""
  | openId s =>
    IsClient s.clientId s.clientSecret ∧
      (s.claims.id ≠ [] ∨ s.claims.preferredUsername ≠ [] ∨ s.claims.name ≠ [] ∨
        s.claims.email ≠ []) ∧
      s.urls.authorize ≠ "" ∧ s.urls.token ≠ ""
  | requestHeader s => s.headers ≠ []

/-- A provider of a known kind has settings that suffice, a name and a mapping method that
the new cluster knows. Nothing is demanded of a provider of an unknown kind. -/
def IsAcceptable (p : IdentityProvider) : Prop :=
  ∀ k, p.kind? = some k → ∃ s, readPayload p.payload k = .ok s ∧ p.name ≠ "" ∧
    p.mappingMethod ∈ ["claim", "lookup", "generate", "add"] ∧ s.Suffices

/-! ## Violations -/

namespace Settings

def url? : Settings → Option String
  | basicAuth s => some s.url
  | gitLab s => some s.url
  | keystone s => some s.url
  | ldap s => some s.url
  | _ => none

def certificate? : Settings → Option (String × String)
  | basicAuth s => some (s.certFile, s.keyFile)
  | keystone s => some (s.certFile, s.keyFile)
  | _ => none

def client? : Settings → Option (String × StringSource)
  | gitHub s => some (s.clientId, s.clientSecret)
  | gitLab s => some (s.clientId, s.clientSecret)
  | google s => some (s.clientId, s.clientSecret)
  | openId s => some (s.clientId, s.clientSecret)
  | _ => none

end Settings

/-- What each violation means. -/
def Breaks (p : IdentityProvider) (s : Settings) : Violation → Prop
  | .emptyName => p.name = ""
  | .invalidMappingMethod => p.mappingMethod ∉ ["claim", "lookup", "generate", "add"]
  | .emptyClientId => ∃ secret, s.client? = some ("", secret)
  | .emptyClientSecret => ∃ id secret, s.client? = some (id, secret) ∧ ¬ secret.IsGiven
  | .encryptedClientSecret => ∃ id secret, s.client? = some (id, secret) ∧ secret.keyFile ≠ ""
  | .emptyUrl => s.url? = some ""
  | .missingKeyFile => ∃ certFile, certFile ≠ "" ∧ s.certificate? = some (certFile, "")
  | .emptyDomainName => ∃ k, s = .keystone k ∧ k.domainName = ""
  | .emptyIdAttribute => ∃ l, s = .ldap l ∧ l.attributes.id = []
  | .emptyEmailAttribute => ∃ l, s = .ldap l ∧ l.attributes.email = []
  | .emptyNameAttribute => ∃ l, s = .ldap l ∧ l.attributes.name = []
  | .emptyPreferredUsernameAttribute => ∃ l, s = .ldap l ∧ l.attributes.preferredUsername = []
  | .encryptedBindPassword => ∃ l, s = .ldap l ∧ l.bindPassword.keyFile ≠ ""
  | .emptyClaims => ∃ o, s = .openId o ∧ o.claims = {}
  | .emptyAuthorizeUrl => ∃ o, s = .openId o ∧ o.urls.authorize = ""
  | .emptyTokenUrl => ∃ o, s = .openId o ∧ o.urls.token = ""
  | .emptyHeaders => ∃ h, s = .requestHeader h ∧ h.headers = []

def clientOrder : List Violation := [.encryptedClientSecret, .emptyClientId, .emptyClientSecret]

def Kind.order : Kind → List Violation
  | basicAuth => [.emptyUrl, .missingKeyFile]
  | gitHub => clientOrder
  | gitLab => .emptyUrl :: clientOrder
  | google => clientOrder
  | htpasswd => []
  | keystone => [.emptyDomainName, .emptyUrl, .missingKeyFile]
  | ldap => [.emptyIdAttribute, .emptyEmailAttribute, .emptyNameAttribute,
      .emptyPreferredUsernameAttribute, .emptyUrl, .encryptedBindPassword]
  | openId => clientOrder ++ [.emptyClaims, .emptyAuthorizeUrl, .emptyTokenUrl]
  | requestHeader => [.emptyHeaders]

/-- The name and the mapping method come before the settings. -/
def order (k : Kind) : List Violation := [.emptyName, .invalidMappingMethod] ++ k.order

/-- The errors that a provider of a known kind is refused with: its settings cannot be read, or
they can and this is the first violation. -/
inductive Refused (p : IdentityProvider) : ProviderError → Prop
  | undecodable {k : Kind} {e : PayloadError} (hkind : p.kind? = some k)
      (hpayload : readPayload p.payload k = .error e) :
      Refused p (.undecodable p.name p.kind e.message)
  | invalid {k : Kind} {s : Settings} {earlier later : List Violation} {v : Violation}
      (hkind : p.kind? = some k) (hpayload : readPayload p.payload k = .ok s)
      (horder : order k = earlier ++ v :: later) (hearlier : ∀ w ∈ earlier, ¬ p.Breaks s w)
      (hbreaks : p.Breaks s v) : Refused p (.invalid v)

variable {p : IdentityProvider} {ps qs : List IdentityProvider} {s : Settings} {v : Violation}
  {e : ProviderError} {rules : List Rule}

/-! ## Rules and violations -/

theorem firstViolation?_eq_some_iff {holds : Violation → Prop}
    (h : ∀ r ∈ rules, r.broken = true ↔ holds r.violation) :
    firstViolation? rules = some v ↔ ∃ earlier later,
      rules.map (·.violation) = earlier ++ v :: later ∧ (∀ w ∈ earlier, ¬ holds w) ∧
        holds v := by
  induction rules with
  | nil => simp [firstViolation?]
  | cons r rules ih =>
      obtain ⟨hr, hrules⟩ := List.forall_mem_cons.mp h
      cases hbroken : r.broken with
      | true =>
          have hfirst : firstViolation? (r :: rules) = some r.violation := by
            simp [firstViolation?, hbroken]
          rw [hfirst, Option.some.injEq, List.map_cons]
          constructor
          · rintro rfl
            exact ⟨[], _, rfl, fun _ hw => (nomatch hw), hr.mp hbroken⟩
          · rintro ⟨earlier, later, heq, hearlier, -⟩
            cases earlier with
            | nil => exact (List.cons.inj heq).1
            | cons w earlier =>
                obtain ⟨rfl, -⟩ := List.cons.inj heq
                exact absurd (hr.mp hbroken) (hearlier _ (List.mem_cons_self ..))
      | false =>
          have hnot : ¬ holds r.violation := fun hh => by simp [hr.mpr hh] at hbroken
          have hfirst : firstViolation? (r :: rules) = firstViolation? rules := by
            simp [firstViolation?, hbroken]
          rw [hfirst, ih hrules, List.map_cons]
          constructor
          · rintro ⟨earlier, later, heq, hearlier, hv⟩
            exact ⟨r.violation :: earlier, later, by rw [heq]; rfl,
              List.forall_mem_cons.mpr ⟨hnot, hearlier⟩, hv⟩
          · rintro ⟨earlier, later, heq, hearlier, hv⟩
            cases earlier with
            | nil =>
                obtain ⟨rfl, -⟩ := List.cons.inj heq
                exact absurd hv hnot
            | cons w earlier =>
                exact ⟨earlier, later, (List.cons.inj heq).2,
                  (List.forall_mem_cons.mp hearlier).2, hv⟩

theorem not_isGiven_iff (c : StringSource) : c.isEmpty = true ↔ ¬ c.IsGiven := by
  simp [StringSource.isEmpty, StringSource.IsGiven, and_assoc]

theorem claims_isEmpty_iff (c : OpenIdClaims) : c.isEmpty = true ↔ c = {} := by
  obtain ⟨id, preferredUsername, name, email⟩ := c
  simp [OpenIdClaims.isEmpty, and_assoc]

theorem broken_iff_breaks (p : IdentityProvider) (s : Settings) :
    ∀ r ∈ p.rules s, r.broken = true ↔ p.Breaks s r.violation := by
  have hcommon : ∀ r ∈ commonRules p.name p.mappingMethod,
      r.broken = true ↔ p.Breaks s r.violation := by
    simp [commonRules, Breaks, mappingMethods]
  refine List.forall_mem_append.mpr ⟨hcommon, ?_⟩
  cases s <;>
    simp [Settings.rules, clientRules, certificateRule, Breaks, Settings.url?, Settings.client?,
      Settings.certificate?, StringSource.isEncrypted, not_isGiven_iff, claims_isEmpty_iff]

theorem violations_rules (p : IdentityProvider) (s : Settings) :
    (p.rules s).map (·.violation) = order s.kind := by
  cases s <;> rfl

theorem firstViolation?_rules_eq_some_iff :
    firstViolation? (p.rules s) = some v ↔ ∃ earlier later,
      order s.kind = earlier ++ v :: later ∧ (∀ w ∈ earlier, ¬ p.Breaks s w) ∧
        p.Breaks s v := by
  rw [← violations_rules p s]
  exact firstViolation?_eq_some_iff (broken_iff_breaks p s)

theorem firstViolation?_rules_eq_none_iff :
    firstViolation? (p.rules s) = none ↔ ∀ v ∈ order s.kind, ¬ p.Breaks s v := by
  rw [← violations_rules p s, firstViolation?, Option.map_eq_none_iff, List.find?_eq_none,
    List.forall_mem_map]
  exact forall₂_congr fun r hr => not_congr (broken_iff_breaks p s r hr)

theorem isClient_iff {clientId : String} {clientSecret : StringSource} :
    IsClient clientId clientSecret ↔
      clientSecret.keyFile = "" ∧ clientId ≠ "" ∧ clientSecret.IsGiven :=
  ⟨fun h => ⟨h.isPlain, h.isNamed, h.isGiven⟩, fun h => ⟨h.1, h.2.1, h.2.2⟩⟩

theorem suffices_iff :
    (∀ v ∈ order s.kind, ¬ p.Breaks s v) ↔
      p.name ≠ "" ∧ p.mappingMethod ∈ ["claim", "lookup", "generate", "add"] ∧ s.Suffices := by
  rw [order, List.forall_mem_append]
  have hcommon : (∀ v ∈ [Violation.emptyName, .invalidMappingMethod], ¬ p.Breaks s v) ↔
      p.name ≠ "" ∧ p.mappingMethod ∈ ["claim", "lookup", "generate", "add"] := by
    rw [List.forall_mem_cons, List.forall_mem_singleton]
    exact and_congr_right' not_not
  rw [hcommon, and_assoc]
  refine and_congr_right' (and_congr_right' ?_)
  cases s with
  | openId s =>
      have hclaims : s.claims ≠ {} ↔ s.claims.id ≠ [] ∨ s.claims.preferredUsername ≠ [] ∨
          s.claims.name ≠ [] ∨ s.claims.email ≠ [] := by
        obtain ⟨id, preferredUsername, name, email⟩ := s.claims
        simp only [ne_eq, OpenIdClaims.mk.injEq]
        tauto
      simp [Settings.kind, Kind.order, clientOrder, Breaks, Settings.client?, Settings.Suffices,
        isClient_iff, and_assoc, ← hclaims]
  | _ =>
      simp [Settings.kind, Kind.order, clientOrder, Breaks, Settings.url?, Settings.client?,
        Settings.certificate?, Settings.Suffices, HasKey, isClient_iff]

/-! ## The check of one provider -/

theorem check_eq_ok_iff : p.check = .ok () ↔ p.IsAcceptable := by
  unfold check IsAcceptable settings
  cases hk : p.kind? with
  | none => simp
  | some k =>
      cases hread : readPayload p.payload k with
      | error e => simp [hread]
      | ok s =>
          simp only [Option.some.injEq, forall_eq', hread, Except.ok.injEq, exists_eq_left']
          rw [← suffices_iff, ← firstViolation?_rules_eq_none_iff]
          cases firstViolation? (p.rules s) <;> simp

theorem settings_of_readPayload {k : Kind} (hk : p.kind? = some k)
    (h : readPayload p.payload k = .ok s) : p.settings = .ok (some s) := by
  simp only [settings, hk, h]

theorem readPayload_of_settings (h : p.settings = .ok (some s)) :
    readPayload p.payload s.kind = .ok s := by
  have hk := kind?_of_settings h
  cases hread : readPayload p.payload s.kind with
  | error e =>
      rw [settings_of_readPayload_error hk hread] at h
      cases h
  | ok t =>
      rw [settings_of_readPayload hk hread] at h
      cases h
      rfl

theorem check_of_settings (h : p.settings = .ok (some s)) :
    p.check = match firstViolation? (p.rules s) with
      | none => .ok ()
      | some v => .error (.invalid v) := by
  cases hviolation : firstViolation? (p.rules s) <;> simp only [check, h, hviolation]

theorem check_eq_error_iff : p.check = .error e ↔ p.Refused e := by
  constructor
  · intro h
    rcases settings_cases p with ⟨e', he'⟩ | hunknown | ⟨s, hs⟩
    · rw [check_of_settings_error he'] at h
      cases h
      obtain ⟨k, e, hk, he⟩ := isUndecodable_of_settings he'
      rw [settings_of_readPayload_error hk he] at he'
      cases he'
      exact .undecodable hk he
    · simp [check, settings_of_unknown hunknown] at h
    · have hk := kind?_of_settings hs
      rw [check_of_settings hs] at h
      split at h
      · cases h
      · rename_i v hv
        cases h
        obtain ⟨earlier, later, horder, hearlier, hbreaks⟩ :=
          firstViolation?_rules_eq_some_iff.mp hv
        exact .invalid hk (readPayload_of_settings hs) horder hearlier hbreaks
  · rintro (⟨hk, he⟩ | ⟨hk, hread, horder, hearlier, hbreaks⟩)
    · exact check_of_settings_error (settings_of_readPayload_error hk he)
    · have hs := settings_of_readPayload hk hread
      obtain rfl := Option.some.inj (hk.symm.trans (kind?_of_settings hs))
      rw [check_of_settings hs,
        firstViolation?_rules_eq_some_iff.mpr ⟨_, _, horder, hearlier, hbreaks⟩]

/-! ## The check of a list -/

theorem validate_eq_ok_iff : validate ps = .ok () ↔ ∀ p ∈ ps, p.IsAcceptable := by
  simp only [← check_eq_ok_iff]
  refine ⟨check_of_validate, fun h => ?_⟩
  induction ps with
  | nil => rfl
  | cons p ps ih =>
      obtain ⟨hp, hps⟩ := List.forall_mem_cons.mp h
      simp only [validate, hp, ih hps]

theorem validate_eq_error_iff : validate ps = .error e ↔
    ∃ before p after, ps = before ++ p :: after ∧ (∀ b ∈ before, b.IsAcceptable) ∧
      p.Refused e := by
  constructor
  · intro h
    rcases exists_first_failing ps with hall | ⟨before, p, after, e', rfl, hbefore, hp⟩
    · have hok := validate_eq_ok_iff.mpr fun p hp => check_eq_ok_iff.mp (hall p hp)
      rw [hok] at h
      cases h
    · rw [validate_of_first hbefore hp] at h
      cases h
      exact ⟨before, p, after, rfl, fun b hb => check_eq_ok_iff.mp (hbefore b hb),
        check_eq_error_iff.mp hp⟩
  · rintro ⟨before, p, after, rfl, hbefore, hp⟩
    exact validate_of_first (fun b hb => check_eq_ok_iff.mpr (hbefore b hb))
      (check_eq_error_iff.mpr hp)

theorem validate_filter_known (ps : List IdentityProvider) :
    validate (ps.filter (·.kind?.isSome)) = validate ps := by
  induction ps with
  | nil => rfl
  | cons p ps ih =>
      cases hk : p.kind? with
      | none =>
          have hcheck : p.check = .ok () := by simp only [check, settings_of_unknown hk]
          rw [List.filter_cons_of_neg (by simp [hk]), ih]
          simp only [validate, hcheck]
      | some k =>
          rw [List.filter_cons_of_pos (by simp [hk])]
          simp only [validate, ih]

/-- A list passes the check just if every provider of a known kind can be read and is as
demanded. Otherwise the error is the first one of the first provider that is not: that its
settings cannot be read, or else the first violation. Providers of unknown kinds make no
difference, and neither does the order where the list passes. -/
theorem validate_decides (ps : List IdentityProvider) :
    (validate ps = .ok () ↔ ∀ p ∈ ps, p.IsAcceptable) ∧
    (∀ e, validate ps = .error e ↔
      ∃ before p after, ps = before ++ p :: after ∧ (∀ b ∈ before, b.IsAcceptable) ∧
        p.Refused e) ∧
    validate (ps.filter (·.kind?.isSome)) = validate ps ∧
    ∀ qs, ps.Perm qs → (validate ps = .ok () ↔ validate qs = .ok ()) := by
  refine ⟨validate_eq_ok_iff, fun e => validate_eq_error_iff, validate_filter_known ps, ?_⟩
  intro qs hperm
  rw [validate_eq_ok_iff, validate_eq_ok_iff]
  exact forall_congr' fun p => imp_congr_left hperm.mem_iff

section

private def htpasswd : IdentityProvider where
  kind := "HTPasswdPasswordIdentityProvider"
  mappingMethod := "claim"
  name := "htpasswd"
  payload := Utf8.encode "\x7b\x7d"
  challenge := false
  login := true

/-- Has neither a plain secret nor a name as a client, nor says where the secret is. -/
private def encrypted : IdentityProvider where
  kind := "GitLabIdentityProvider"
  mappingMethod := "add"
  name := "gitlab"
  payload := Utf8.encode "\x7b\"url\":\"u\",\"clientSecret\":\x7b\"keyFile\":\"/k\"\x7d\x7d"
  challenge := false
  login := true

theorem decides_encrypted_secret :
    [htpasswd, encrypted].Perm [encrypted, htpasswd] ∧
      (validate [htpasswd, encrypted] = .ok () ↔ validate [encrypted, htpasswd] = .ok ()) ∧
      ∃ before p after, [htpasswd, encrypted] = before ++ p :: after ∧
        (∀ b ∈ before, b.IsAcceptable) ∧ p.Refused (.invalid .encryptedClientSecret) := by
  have hswap : [htpasswd, encrypted].Perm [encrypted, htpasswd] := .swap ..
  have herror : validate [htpasswd, encrypted] = .error (.invalid .encryptedClientSecret) := by
    decide +kernel
  obtain ⟨-, herrors, -, hperm⟩ := validate_decides [htpasswd, encrypted]
  exact ⟨hswap, hperm _ hswap, (herrors _).mp herror⟩

end

end IdentityProvider

end ClusterMigration
