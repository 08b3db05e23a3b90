import ClusterMigration.Proofs.Component.Origins
import ClusterMigration.Proofs.IdentityProvider.Demands
import ClusterMigration.Proofs.Json.ReadBack
import ClusterMigration.Proofs.Json.Tidy
import ClusterMigration.Proofs.Text.Utf8

/-!
# What is retained of settings

Almost all settings of a provider can be read back from its entry of the OAuth resource, and
where a setting cannot, the entry or the artifacts still say whether it was given, or what it
stood for. The main statement is `contribute_same_iff`.
-/

namespace ClusterMigration

namespace IdentityProvider

open Json (IsTidy readOr canonical_textMap canonical_texts counted counted_append counted_cons
  counted_singleton readFlag readText readTextMap readTexts textAt textMap textsAt)

namespace Settings

/-- The settings that the new cluster is told as they are. Of the files of authorities and of
certificates it is told only whether there are any, and of a source only the text that it stands
for. Where keys and users are kept, the claim for the identity, and whether identities are those
of Keystone, it is not told at all. -/
def carried : Settings → Settings
  | basicAuth s => basicAuth { s with ca := "", certFile := "", keyFile := "" }
  | gitHub s => gitHub { s with ca := "", clientSecret := {} }
  | gitLab s => gitLab { s with ca := "", clientSecret := {} }
  | google s => google { s with clientSecret := {} }
  | htpasswd s => htpasswd { s with file := "" }
  | keystone s => keystone
      { s with ca := "", certFile := "", keyFile := "", useKeystoneIdentity := false }
  | ldap s => ldap { s with ca := "", bindPassword := {} }
  | openId s => openId
      { s with ca := "", clientSecret := {}, claims := { s.claims with id := [] } }
  | requestHeader s => requestHeader { s with clientCa := "" }

/-- The settings of a kind, as its stanza in the new cluster tells them. -/
def told (stanza : Json) : Kind → Settings
  | .basicAuth => basicAuth { url := textAt "url" stanza }
  | .gitHub => gitHub {
      clientId := textAt "clientID" stanza
      organizations := textsAt "organizations" stanza
      teams := textsAt "teams" stanza
      hostname := textAt "hostname" stanza }
  | .gitLab => gitLab { url := textAt "url" stanza, clientId := textAt "clientID" stanza }
  | .google => google {
      clientId := textAt "clientID" stanza
      hostedDomain := textAt "hostedDomain" stanza }
  | .htpasswd => htpasswd {}
  | .keystone => keystone {
      domainName := textAt "domainName" stanza
      url := textAt "url" stanza }
  | .ldap =>
    let attributes := (stanza.member? "attributes").getD .null
    ldap {
      url := textAt "url" stanza
      bindDn := textAt "bindDN" stanza
      insecure := readOr readFlag false (stanza.member? "insecure")
      attributes := {
        id := textsAt "id" attributes
        email := textsAt "email" attributes
        name := textsAt "name" attributes
        preferredUsername := textsAt "preferredUsername" attributes } }
  | .openId =>
    let claims := (stanza.member? "claims").getD .null
    let urls := (stanza.member? "urls").getD .null
    openId {
      clientId := textAt "clientID" stanza
      extraScopes := textsAt "extraScopes" stanza
      extraAuthorizeParameters :=
        readOr readTextMap [] (stanza.member? "extraAuthorizeParameters")
      urls := {
        authorize := textAt "authorize" urls
        token := textAt "token" urls
        userInfo := textAt "userInfo" urls }
      claims := {
        preferredUsername := textsAt "preferredUsername" claims
        name := textsAt "name" claims
        email := textsAt "email" claims } }
  | .requestHeader => requestHeader {
      challengeUrl := textAt "challengeURL" stanza
      loginUrl := textAt "loginURL" stanza
      clientCommonNames := textsAt "clientCommonNames" stanza
      headers := textsAt "headers" stanza
      emailHeaders := textsAt "emailHeaders" stanza
      nameHeaders := textsAt "nameHeaders" stanza
      preferredUsernameHeaders := textsAt "preferredUsernameHeaders" stanza }

def authorities : Settings → String
  | basicAuth s => s.ca
  | gitHub s => s.ca
  | gitLab s => s.ca
  | google _ => ""
  | htpasswd _ => ""
  | keystone s => s.ca
  | ldap s => s.ca
  | openId s => s.ca
  | requestHeader s => s.clientCa

def certFile : Settings → String
  | basicAuth s => s.certFile
  | keystone s => s.certFile
  | _ => ""

end Settings

def confidential? (p : IdentityProvider) : Settings → Option String
  | .gitHub s => some (resolvedText p.sideFiles.clientSecret s.clientSecret)
  | .gitLab s => some (resolvedText p.sideFiles.clientSecret s.clientSecret)
  | .google s => some (resolvedText p.sideFiles.clientSecret s.clientSecret)
  | .ldap s => some (resolvedText p.sideFiles.bindPassword s.bindPassword)
  | .openId s => some (resolvedText p.sideFiles.clientSecret s.clientSecret)
  | _ => none

/-- The keys of the parameters stand in order, so none stands twice. -/
def OpenId.InOrder (o : OpenId) : Prop :=
  (o.extraAuthorizeParameters.map Prod.fst).Pairwise (· < ·)

/-- The same value for the entry, whatever the order of its members, and the same artifacts. -/
structure Contribution.Same (c d : Contribution) : Prop where
  fragment : c.fragment.toJson.canonical = d.fragment.toJson.canonical
  secrets : c.secrets = d.secrets
  configMaps : c.configMaps = d.configMaps

/-- Two providers agree on all that the new cluster needs of their settings. -/
structure Agree (p q : IdentityProvider) (s t : Settings) : Prop where
  name : p.name = q.name
  challenge : p.challenge = q.challenge
  login : p.login = q.login
  mappingMethod : p.mappingMethod = q.mappingMethod
  carried : s.carried = t.carried
  authorities : s.authorities = "" ↔ t.authorities = ""
  certFile : s.certFile = "" ↔ t.certFile = ""
  confidential : p.confidential? s = q.confidential? t

structure AgreeOnFiles (p q : IdentityProvider) (s : Settings) : Prop where
  authorities : s.authorities ≠ "" → p.sideFiles.ca = q.sideFiles.ca
  cert : s.certFile ≠ "" → p.sideFiles.cert = q.sideFiles.cert
  key : s.certFile ≠ "" → p.sideFiles.key = q.sideFiles.key
  users : s.kind = .htpasswd → p.sideFiles.htpasswd = q.sideFiles.htpasswd

/-! ## What a stanza gives under a key -/

section

variable (k key : String)

@[simp] theorem counted_textMember (text : String) :
    counted k (textMember key text) = if k = key then some (.string text) else none :=
  counted_singleton

@[simp] theorem counted_flagMember (flag : Bool) :
    counted k (flagMember key flag) = if k = key then some (.bool flag) else none :=
  counted_singleton

@[simp] theorem counted_textsMember (texts : List String) :
    counted k (textsMember key texts) =
      if k = key then some (.array (texts.map .string)) else none := by
  rw [textsMember, counted_singleton, canonical_texts]

@[simp] theorem counted_secretMember (a : Secret) :
    counted k (secretMember key a) = if k = key then some (reference a.name).canonical else none :=
  counted_singleton

@[simp] theorem counted_textMember? (text : String) :
    counted k (textMember? key text) =
      if k = key then (if text = "" then none else some (.string text)) else none := by
  by_cases htext : text = "" <;> simp [textMember?, htext]

@[simp] theorem counted_textsMember? (texts : List String) :
    counted k (textsMember? key texts) =
      if k = key then (if texts = [] then none else some (.array (texts.map .string)))
      else none := by
  by_cases htexts : texts = [] <;> simp [textsMember?, htexts]

@[simp] theorem counted_textMapMember? (texts : List (String × String)) :
    counted k (textMapMember? key texts) =
      if k = key then (if texts = [] then none else some (textMap texts).canonical)
      else none := by
  by_cases htexts : texts = []
  · simp [textMapMember?, htexts]
  · simp [textMapMember?, htexts, counted_singleton, textMap]

@[simp] theorem counted_caMember (path name : String) (files : SideFiles) :
    counted k (caMember (caBundle path name files)) =
      if k = "ca" then (if path = "" then none else some (reference name).canonical)
      else none := by
  by_cases hpath : path = "" <;> simp [caMember, caBundle, hpath, counted_singleton]

@[simp] theorem counted_certificate (p : IdentityProvider) (purpose : Purpose)
    (certFile : String) :
    counted k (p.certificate purpose certFile).1 =
      if certFile = "" then none
      else if k = "tlsClientKey" then some (reference (p.keySecret purpose).name).canonical
      else if k = "tlsClientCert" then some (reference (p.certSecret purpose).name).canonical
      else none := by
  by_cases hcert : certFile = ""
  · simp [certificate, hcert]
  · by_cases hkey : k = "tlsClientKey" <;>
      simp [certificate, hcert, counted_append, hkey]

end

variable {p q : IdentityProvider} {s t : Settings}

/-- The settings that are carried over can be read back from the stanza. -/
theorem told_contribute (p : IdentityProvider)
    (horder : ∀ o, s = .openId o → o.InOrder) :
    Settings.told (Json.object (p.contribute s).fragment.stanza).canonical s.kind = s.carried := by
  cases s with
  | basicAuth s =>
      simp [Settings.told, Settings.kind, contribute, BasicAuth.contribute, contribution,
        Settings.carried, textAt, counted_append]
  | gitHub s =>
      simp [Settings.told, Settings.kind, contribute, GitHub.contribute, contribution,
        Settings.carried, textAt, textsAt, counted_append]
  | gitLab s =>
      simp [Settings.told, Settings.kind, contribute, GitLab.contribute, contribution,
        Settings.carried, textAt, counted_append]
  | google s =>
      simp [Settings.told, Settings.kind, contribute, Google.contribute, contribution,
        Settings.carried, textAt, counted_append]
  | htpasswd s => rfl
  | keystone s =>
      simp [Settings.told, Settings.kind, contribute, Keystone.contribute, contribution,
        Settings.carried, textAt, counted_append]
  | ldap s =>
      simp [Settings.told, Settings.kind, contribute, Ldap.contribute, contribution,
        Settings.carried, textAt, textsAt, counted_append, counted_cons, LdapAttributes.members]
  | openId s =>
      -- canonical form sorts the parameters, which is the order that they are in
      simp [Settings.told, Settings.kind, contribute, OpenId.contribute, contribution,
        Settings.carried, textAt, textsAt, counted_append, counted_cons, OpenIdClaims.members,
        OpenIdUrls.members, canonical_textMap (horder s rfl)]
  | requestHeader s =>
      simp [Settings.told, Settings.kind, contribute, RequestHeader.contribute, contribution,
        Settings.carried, textAt, textsAt, counted_append]

/-! ## What an entry tells -/

theorem fragment_contribute (p : IdentityProvider) (s : Settings) :
    (p.contribute s).fragment = ⟨p.name, p.challenge, p.login, p.mappingMethod, s.kind,
      (p.contribute s).fragment.stanza⟩ := by
  cases s <;> rfl

theorem Kind.type_injective : Function.Injective Kind.type := by
  intro k l h
  cases k <;> cases l <;> first | rfl | exact absurd h (by decide)

theorem Fragment.member?_canonical (f : Fragment) :
    f.toJson.canonical.member? "name" = some (.string f.name) ∧
    f.toJson.canonical.member? "challenge" = some (.bool f.challenge) ∧
    f.toJson.canonical.member? "login" = some (.bool f.login) ∧
    f.toJson.canonical.member? "mappingMethod" = some (.string f.mappingMethod) ∧
    f.toJson.canonical.member? "type" = some (.string f.kind.type) ∧
    f.toJson.canonical.member? f.kind.stanzaKey = some (Json.object f.stanza).canonical := by
  obtain ⟨name, challenge, login, mappingMethod, kind, stanza⟩ := f
  cases kind <;>
    simp [Fragment.toJson, Kind.stanzaKey, Kind.type, counted_cons]

theorem Fragment.eq_of_canonical {f g : Fragment}
    (h : f.toJson.canonical = g.toJson.canonical) :
    f.name = g.name ∧ f.challenge = g.challenge ∧ f.login = g.login ∧
      f.mappingMethod = g.mappingMethod ∧ f.kind = g.kind ∧
      (Json.object f.stanza).canonical = (Json.object g.stanza).canonical := by
  obtain ⟨hname, hchallenge, hlogin, hmethod, htype, hstanza⟩ := f.member?_canonical
  obtain ⟨hname', hchallenge', hlogin', hmethod', htype', hstanza'⟩ := g.member?_canonical
  rw [h] at hname hchallenge hlogin hmethod htype hstanza
  have hkind : f.kind = g.kind := by
    apply Kind.type_injective
    exact Json.string.inj (Option.some.inj (htype.symm.trans htype'))
  rw [hkind] at hstanza
  refine ⟨?_, ?_, ?_, ?_, hkind, ?_⟩
  · exact Json.string.inj (Option.some.inj (hname.symm.trans hname'))
  · exact Json.bool.inj (Option.some.inj (hchallenge.symm.trans hchallenge'))
  · exact Json.bool.inj (Option.some.inj (hlogin.symm.trans hlogin'))
  · exact Json.string.inj (Option.some.inj (hmethod.symm.trans hmethod'))
  · exact Option.some.inj (hstanza.symm.trans hstanza')

theorem textAt_bindPassword (p : IdentityProvider) (s : Ldap) :
    textAt "bindPassword" (Json.object (s.contribute p).fragment.stanza).canonical =
      resolvedText p.sideFiles.bindPassword s.bindPassword := by
  simp [textAt, Ldap.contribute, contribution, counted_append, counted_cons]

/-! ## Artifacts -/

theorem caBundle_eq_iff {a b name : String} {f g : SideFiles} :
    caBundle a name f = caBundle b name g ↔
      (a = "" ↔ b = "") ∧ (a ≠ "" → f.ca = g.ca) := by
  by_cases ha : a = "" <;> by_cases hb : b = "" <;> simp [caBundle, ha, hb]

theorem certificate_eq_iff {a b : String} {purpose : Purpose} (hname : p.name = q.name) :
    (p.certificate purpose a).2 = (q.certificate purpose b).2 ↔
      (a = "" ↔ b = "") ∧ (a ≠ "" → p.sideFiles.cert = q.sideFiles.cert) ∧
        (a ≠ "" → p.sideFiles.key = q.sideFiles.key) := by
  by_cases ha : a = "" <;> by_cases hb : b = "" <;>
    simp [certificate, certSecret, keySecret, ha, hb, hname]

theorem clientSecret_eq_iff {a b : StringSource} (hname : p.name = q.name) :
    p.clientSecret a = q.clientSecret b ↔
      resolvedText p.sideFiles.clientSecret a = resolvedText q.sideFiles.clientSecret b := by
  simp [clientSecret, hname, Utf8.encode_injective.eq_iff]

theorem htpasswdSecret_eq_iff :
    p.htpasswdSecret = q.htpasswdSecret ↔ p.sideFiles.htpasswd = q.sideFiles.htpasswd := by
  simp [htpasswdSecret]

inductive SameKind : Settings → Settings → Prop
  | basicAuth (s t : BasicAuth) : SameKind (.basicAuth s) (.basicAuth t)
  | gitHub (s t : GitHub) : SameKind (.gitHub s) (.gitHub t)
  | gitLab (s t : GitLab) : SameKind (.gitLab s) (.gitLab t)
  | google (s t : Google) : SameKind (.google s) (.google t)
  | htpasswd (s t : Htpasswd) : SameKind (.htpasswd s) (.htpasswd t)
  | keystone (s t : Keystone) : SameKind (.keystone s) (.keystone t)
  | ldap (s t : Ldap) : SameKind (.ldap s) (.ldap t)
  | openId (s t : OpenId) : SameKind (.openId s) (.openId t)
  | requestHeader (s t : RequestHeader) : SameKind (.requestHeader s) (.requestHeader t)

theorem sameKind_of_kind_eq (h : s.kind = t.kind) : SameKind s t := by
  cases s <;> cases t <;> first | constructor | cases h

/-- The secrets of two providers of one kind. The bind password is in none of them. -/
theorem secrets_eq_iff (hname : p.name = q.name) (hkind : s.kind = t.kind) :
    (p.contribute s).secrets = (q.contribute t).secrets ↔
      (s.certFile = "" ↔ t.certFile = "") ∧
      (s.certFile ≠ "" → p.sideFiles.cert = q.sideFiles.cert) ∧
      (s.certFile ≠ "" → p.sideFiles.key = q.sideFiles.key) ∧
      (s.kind ≠ .ldap → p.confidential? s = q.confidential? t) ∧
      (s.kind = .htpasswd → p.sideFiles.htpasswd = q.sideFiles.htpasswd) := by
  cases sameKind_of_kind_eq hkind with
  | basicAuth s t =>
      simp [contribute, BasicAuth.contribute, contribution, certificate_eq_iff hname,
        Settings.certFile, Settings.kind, confidential?]
  | gitHub s t =>
      simp [contribute, GitHub.contribute, contribution, clientSecret_eq_iff hname,
        Settings.certFile, Settings.kind, confidential?]
  | gitLab s t =>
      simp [contribute, GitLab.contribute, contribution, clientSecret_eq_iff hname,
        Settings.certFile, Settings.kind, confidential?]
  | google s t =>
      simp [contribute, Google.contribute, contribution, clientSecret_eq_iff hname,
        Settings.certFile, Settings.kind, confidential?]
  | htpasswd s t =>
      simp [contribute, Htpasswd.contribute, contribution, htpasswdSecret_eq_iff,
        Settings.certFile, Settings.kind, confidential?]
  | keystone s t =>
      simp [contribute, Keystone.contribute, contribution, certificate_eq_iff hname,
        Settings.certFile, Settings.kind, confidential?]
  | ldap s t =>
      simp [contribute, Ldap.contribute, contribution, Settings.certFile, Settings.kind]
  | openId s t =>
      simp [contribute, OpenId.contribute, contribution, clientSecret_eq_iff hname,
        Settings.certFile, Settings.kind, confidential?]
  | requestHeader s t =>
      simp [contribute, RequestHeader.contribute, contribution, Settings.certFile, Settings.kind,
        confidential?]

theorem configMaps_eq_iff (hkind : s.kind = t.kind) :
    (p.contribute s).configMaps = (q.contribute t).configMaps ↔
      (s.authorities = "" ↔ t.authorities = "") ∧
      (s.authorities ≠ "" → p.sideFiles.ca = q.sideFiles.ca) := by
  cases sameKind_of_kind_eq hkind with
  | google s t => simp [contribute, Google.contribute, contribution, Settings.authorities]
  | htpasswd s t => simp [contribute, Htpasswd.contribute, contribution, Settings.authorities]
  | _ => exact caBundle_eq_iff

/-! ## Entries -/

theorem caMember_congr {a b name : String} {f g : SideFiles} (h : a = "" ↔ b = "") :
    caMember (caBundle a name f) = caMember (caBundle b name g) := by
  by_cases ha : a = ""
  · simp [caBundle, ha, h.mp ha]
  · simp [caBundle, caMember, ha, mt h.mpr ha]

theorem certificate_congr {a b : String} {purpose : Purpose} (hname : p.name = q.name)
    (h : a = "" ↔ b = "") : (p.certificate purpose a).1 = (q.certificate purpose b).1 := by
  by_cases ha : a = ""
  · simp [certificate, ha, h.mp ha]
  · simp [certificate, secretMember, certSecret, keySecret, hname, ha, mt h.mpr ha]

theorem secretMember_congr {a b : StringSource} {key : String} (hname : p.name = q.name) :
    secretMember key (p.clientSecret a) = secretMember key (q.clientSecret b) := by
  simp [secretMember, clientSecret, hname]

theorem Settings.kind_carried (s : Settings) : s.carried.kind = s.kind := by
  cases s <;> rfl

theorem Agree.fragment_eq (h : Agree p q s t) :
    (p.contribute s).fragment = (q.contribute t).fragment := by
  obtain ⟨hname, hchallenge, hlogin, hmethod, hcarried, hca, hcert, hconfidential⟩ := h
  have hkind : s.kind = t.kind := by
    rw [← s.kind_carried, hcarried, t.kind_carried]
  rw [fragment_contribute p s, fragment_contribute q t, hname, hchallenge, hlogin, hmethod, hkind]
  congr 1
  have hmaps (name : String) :
      caMember (caBundle s.authorities name p.sideFiles) =
        caMember (caBundle t.authorities name q.sideFiles) := caMember_congr hca
  have htls (purpose : Purpose) :
      (p.certificate purpose s.certFile).1 = (q.certificate purpose t.certFile).1 :=
    certificate_congr hname hcert
  have hsecret (a b : StringSource) :
      secretMember "clientSecret" (p.clientSecret a) =
        secretMember "clientSecret" (q.clientSecret b) := secretMember_congr hname
  cases sameKind_of_kind_eq hkind with
  | basicAuth s t =>
      simp only [Settings.carried, Settings.basicAuth.injEq, BasicAuth.mk.injEq] at hcarried
      simp only [Settings.authorities, Settings.certFile] at hmaps htls
      simp only [contribute, BasicAuth.contribute, contribution, hcarried.1, hmaps, htls]
  | gitHub s t =>
      simp only [Settings.carried, Settings.gitHub.injEq, GitHub.mk.injEq] at hcarried
      obtain ⟨hid, -, horganizations, hteams, hhostname, -⟩ := hcarried
      simp only [Settings.authorities] at hmaps
      simp only [contribute, GitHub.contribute, contribution, hid, horganizations, hteams,
        hhostname, hmaps, hsecret s.clientSecret t.clientSecret]
  | gitLab s t =>
      simp only [Settings.carried, Settings.gitLab.injEq, GitLab.mk.injEq] at hcarried
      obtain ⟨hurl, hid, -, -⟩ := hcarried
      simp only [Settings.authorities] at hmaps
      simp only [contribute, GitLab.contribute, contribution, hurl, hid, hmaps,
        hsecret s.clientSecret t.clientSecret]
  | google s t =>
      simp only [Settings.carried, Settings.google.injEq, Google.mk.injEq] at hcarried
      obtain ⟨hid, -, hdomain⟩ := hcarried
      simp only [contribute, Google.contribute, contribution, hid, hdomain,
        hsecret s.clientSecret t.clientSecret]
  | htpasswd s t => rfl
  | keystone s t =>
      simp only [Settings.carried, Settings.keystone.injEq, Keystone.mk.injEq] at hcarried
      obtain ⟨hdomain, hurl, -⟩ := hcarried
      simp only [Settings.authorities, Settings.certFile] at hmaps htls
      simp only [contribute, Keystone.contribute, contribution, hdomain, hurl, hmaps, htls]
  | ldap s t =>
      simp only [Settings.carried, Settings.ldap.injEq, Ldap.mk.injEq] at hcarried
      obtain ⟨hurl, hdn, -, hinsecure, -, hattributes⟩ := hcarried
      have hpassword := Option.some.inj hconfidential
      simp only [Settings.authorities] at hmaps
      simp only [contribute, Ldap.contribute, contribution, hurl, hdn, hinsecure, hattributes,
        hmaps, hpassword]
  | openId s t =>
      simp only [Settings.carried, Settings.openId.injEq, OpenId.mk.injEq,
        OpenIdClaims.mk.injEq] at hcarried
      obtain ⟨-, hid, -, hscopes, hparameters, hurls, -, huser, hclaim, hemail⟩ := hcarried
      simp only [Settings.authorities] at hmaps
      simp only [contribute, OpenId.contribute, contribution, OpenIdClaims.members, hid, hscopes,
        hparameters, hurls, huser, hclaim, hemail, hmaps, hsecret s.clientSecret t.clientSecret]
  | requestHeader s t =>
      simp only [Settings.carried, Settings.requestHeader.injEq, RequestHeader.mk.injEq]
        at hcarried
      obtain ⟨hchallenge, hlogin, -, hnames, hheaders, hemail, hname, huser⟩ := hcarried
      simp only [Settings.authorities] at hmaps
      simp only [contribute, RequestHeader.contribute, contribution, hchallenge, hlogin, hnames,
        hheaders, hemail, hname, huser, hmaps]

/-! ## Settings that come from payloads -/

theorem OpenId.inOrder_of_read {v : Json} {o : OpenId} (hv : IsTidy v)
    (h : OpenId.read v = .ok o) : o.InOrder := by
  have helsewhere {α : Type} {name : String} {value : Json → Except Mismatch α}
      {set : α → OpenId → OpenId}
      (hset : ∀ a o, (set a o).extraAuthorizeParameters = o.extraAuthorizeParameters) :
      (Json.field name value set).Preserves OpenId.InOrder := by
    refine Json.preserves_field fun v a o _ _ ho => ?_
    rw [OpenId.InOrder, hset]
    exact ho
  refine Json.of_readRecord (P := OpenId.InOrder) ?_ hv h List.Pairwise.nil
  simp only [OpenId.fields, List.forall_mem_cons]
  refine ⟨helsewhere fun _ _ => rfl, helsewhere fun _ _ => rfl, helsewhere fun _ _ => rfl,
    helsewhere fun _ _ => rfl, ?_, helsewhere fun _ _ => rfl, helsewhere fun _ _ => rfl,
    fun _ hf => absurd hf List.not_mem_nil⟩
  refine Json.preserves_field fun v texts o hv htexts _ => ?_
  obtain rfl := Json.readTextMap_eq_ok_iff.mp htexts
  have hkeys := hv.keys
  rwa [Json.KeysSorted, List.map_map] at hkeys

theorem isTidy_of_parse? {text : String} {v : Json} (h : Json.parse? text = some v) :
    IsTidy v.dropNulls := by
  unfold Json.parse? at h
  split at h
  · cases h
    exact ⟨_, rfl⟩
  · cases h

theorem exists_read_of_readPayload {payload : Bytes} {k : Kind}
    (h : readPayload payload k = .ok s) : ∃ v, IsTidy v ∧ Settings.read v k = .ok s := by
  unfold readPayload at h
  split at h
  · cases h
  · rename_i v hparse
    obtain ⟨text, -, hparse⟩ := Option.bind_eq_some_iff.mp hparse
    refine ⟨v.dropNulls, isTidy_of_parse? hparse, ?_⟩
    cases hread : Settings.read v.dropNulls k with
    | error e =>
        rw [hread] at h
        cases h
    | ok t =>
        rw [hread] at h
        cases h
        rfl

theorem inOrder_of_settings {o : OpenId} (h : p.settings = .ok (some (.openId o))) :
    o.InOrder := by
  obtain ⟨v, hv, hread⟩ := exists_read_of_readPayload (readPayload_of_settings h)
  obtain ⟨o', ho', heq⟩ := Json.map_eq_ok.mp hread
  cases heq
  exact OpenId.inOrder_of_read hv ho'

/-- Two providers contribute the same just if they agree on all settings that are carried over,
on which others are given, and on what is found there. Settings that the new cluster takes no
notice of make no difference. -/
theorem contribute_same_iff (hp : p.settings = .ok (some s)) (hq : q.settings = .ok (some t)) :
    (p.contribute s).Same (q.contribute t) ↔ Agree p q s t ∧ AgreeOnFiles p q s := by
  constructor
  · intro h
    have hfragment := Fragment.eq_of_canonical h.fragment
    rw [fragment_contribute p s, fragment_contribute q t] at hfragment
    obtain ⟨hname, hchallenge, hlogin, hmethod, hkind, hstanza⟩ := hfragment
    change p.name = q.name at hname
    change s.kind = t.kind at hkind
    have hcarried : s.carried = t.carried := by
      rw [← told_contribute p fun o ho => inOrder_of_settings (ho ▸ hp),
        ← told_contribute q fun o ho => inOrder_of_settings (ho ▸ hq), hstanza, hkind]
    obtain ⟨hcert, hcertFile, hkeyFile, hsecret, husers⟩ :=
      (secrets_eq_iff hname hkind).mp h.secrets
    obtain ⟨hca, hcaFile⟩ := (configMaps_eq_iff hkind).mp h.configMaps
    have hconfidential : p.confidential? s = q.confidential? t := by
      by_cases hldap : s.kind = .ldap
      · -- the bind password is told in the entry
        cases sameKind_of_kind_eq hkind with
        | ldap s t =>
            refine congrArg some ?_
            rw [← textAt_bindPassword, ← textAt_bindPassword]
            exact congrArg (textAt "bindPassword") hstanza
        | _ => cases hldap
      · exact hsecret hldap
    exact ⟨⟨hname, hchallenge, hlogin, hmethod, hcarried, hca, hcert, hconfidential⟩,
      ⟨hcaFile, hcertFile, hkeyFile, husers⟩⟩
  · rintro ⟨h, hfiles⟩
    have hkind : s.kind = t.kind := by
      rw [← s.kind_carried, h.carried, t.kind_carried]
    refine ⟨by rw [h.fragment_eq], ?_, ?_⟩
    · exact (secrets_eq_iff h.name hkind).mpr
        ⟨h.certFile, hfiles.cert, hfiles.key, fun _ => h.confidential, hfiles.users⟩
    · exact (configMaps_eq_iff hkind).mpr ⟨h.authorities, hfiles.authorities⟩

section

private def inlineOpenId : IdentityProvider where
  kind := "OpenIDIdentityProvider"
  mappingMethod := "claim"
  name := "openid"
  payload := Utf8.encode (
    "\x7b\"ca\":\"/a\",\"clientSecret\":\"s\",\"claims\":\x7b\"id\":[\"sub\"]\x7d," ++
    "\"extraAuthorizeParameters\":\x7b\"y\":\"2\",\"x\":\"1\"\x7d\x7d")
  challenge := false
  login := true

/-- Says what `inlineOpenId` says in other words, but for the claim for the identity. -/
private def filedOpenId : IdentityProvider where
  kind := "OpenIDIdentityProvider"
  mappingMethod := "claim"
  name := "openid"
  payload := Utf8.encode (
    "\x7b\"clientSecret\":\x7b\"file\":\"/s\"\x7d,\"ca\":\"/b\"," ++
    "\"extraAuthorizeParameters\":\x7b\"x\":\"1\",\"y\":\"2\"\x7d\x7d")
  sideFiles := { clientSecret := some "s" }
  challenge := false
  login := true

private def inlineSettings : OpenId where
  ca := "/a"
  clientSecret := { value := "s" }
  extraAuthorizeParameters := [("x", "1"), ("y", "2")]
  claims := { id := ["sub"] }

private def filedSettings : OpenId where
  ca := "/b"
  clientSecret := { file := "/s" }
  extraAuthorizeParameters := [("x", "1"), ("y", "2")]

theorem contribute_same_openId :
    inlineOpenId.settings = .ok (some (.openId inlineSettings)) ∧
      filedOpenId.settings = .ok (some (.openId filedSettings)) ∧
      (inlineOpenId.contribute (.openId inlineSettings)).Same
        (filedOpenId.contribute (.openId filedSettings)) ∧
      Agree inlineOpenId filedOpenId (.openId inlineSettings) (.openId filedSettings) := by
  have hp : inlineOpenId.settings = .ok (some (.openId inlineSettings)) := by decide +kernel
  have hq : filedOpenId.settings = .ok (some (.openId filedSettings)) := by decide +kernel
  have hsame : (inlineOpenId.contribute (.openId inlineSettings)).Same
      (filedOpenId.contribute (.openId filedSettings)) := ⟨rfl, rfl, rfl⟩
  exact ⟨hp, hq, hsame, ((contribute_same_iff hp hq).mp hsame).1⟩

end

end IdentityProvider

end ClusterMigration
