import ClusterMigration.Proofs.IdentityProvider.Batch
import ClusterMigration.Proofs.Json.Concealed

/-!
# What a package has of confidential texts

A confidential text that is given in a stanza can be put in place of another one without a
check, a warning or a name noticing. It goes into the content of a secret, or into the bind
password of a fragment for LDAP, and nowhere else; and so do the contents of files.
-/

namespace ClusterMigration

open Json (conceal concealText mapMembers Unseen RecordField field carries_field
  carries_field_id readRecord readRecord_mapMembers unseen_id unseen_concealText)

/-! ## Sources -/

namespace StringSource

def concealed (s : StringSource) : StringSource := { s with value := conceal s.value }

def concealValue (key : String) : Json → Json := if key = "value" then concealText else id

def concealJson (v : Json) : Json := concealText (mapMembers concealValue v)

theorem unseen_concealJson : Unseen concealJson := by
  refine unseen_concealText.comp (Unseen.mapMembers fun key => ?_)
  unfold concealValue
  split
  · exact unseen_concealText
  · exact unseen_id

theorem text?_concealText (v : Json) : (concealText v).text? = v.text?.map conceal := by
  cases v <;> rfl

theorem member?_map {key : String} {f : String → Json → Json} {change : String → String}
    (hempty : change "" = "") (htext : ∀ v, (f key v).text? = v.text?.map change)
    (ms : List (String × Json)) :
    member? key (ms.map fun m => (m.1, f m.1 m.2)) = (member? key ms).map change := by
  have hfilter : (ms.map fun m => (m.1, f m.1 m.2)).filter (·.1 == key) =
      (ms.filter (·.1 == key)).map fun m => (m.1, f m.1 m.2) := by
    rw [List.filter_map]
    rfl
  rw [member?, member?, hfilter]
  cases h : ms.filter (·.1 == key) with
  | nil => exact congrArg some hempty.symm
  | cons m rest =>
      obtain ⟨k, v⟩ := m
      have hmem : (k, v) ∈ ms.filter (·.1 == key) := h ▸ List.mem_cons_self ..
      have hk : k = key := by simpa using (List.mem_filter.mp hmem).2
      subst hk
      cases rest with
      | nil => exact htext v
      | cons => rfl

theorem ofMembers?_conceal (ms : List (String × Json)) :
    ofMembers? (ms.map fun m => (m.1, concealValue m.1 m.2)) =
      (ofMembers? ms).map concealed := by
  have hvalue : member? "value" (ms.map fun m => (m.1, concealValue m.1 m.2)) =
      (member? "value" ms).map conceal :=
    member?_map rfl text?_concealText ms
  have hother (key : String) (h : key ≠ "value") :
      member? key (ms.map fun m => (m.1, concealValue m.1 m.2)) = member? key ms := by
    have htext (v : Json) : (concealValue key v).text? = v.text?.map id := by
      rw [concealValue, if_neg h, Option.map_id]
      rfl
    rw [member?_map rfl htext, Option.map_id]
    rfl
  rw [ofMembers?, ofMembers?, hvalue, hother "env" (by decide), hother "file" (by decide),
    hother "keyFile" (by decide)]
  cases member? "value" ms <;> cases member? "env" ms <;> cases member? "file" ms <;>
    cases member? "keyFile" ms <;> rfl

theorem read_concealJson (v : Json) : read (concealJson v) = (read v).map concealed := by
  cases v with
  | object ms =>
      have hread : concealJson (.object ms) =
          .object (ms.map fun m => (m.1, concealValue m.1 m.2)) := rfl
      simp only [hread, read, ofMembers?_conceal]
      cases ofMembers? ms <;> rfl
  | _ => rfl

@[simp] theorem isEmpty_concealed (s : StringSource) : s.concealed.isEmpty = s.isEmpty := by
  simp [isEmpty, concealed]

@[simp] theorem isEncrypted_concealed (s : StringSource) :
    s.concealed.isEncrypted = s.isEncrypted := rfl

end StringSource

/-! ## Settings -/

namespace IdentityProvider

def confidentialKeys : List String := ["clientSecret", "bindPassword"]

def concealMember (key : String) : Json → Json :=
  if key ∈ confidentialKeys then StringSource.concealJson else id

/-- The stanza with the confidential texts concealed that it gives. -/
def concealStanza : Json → Json := mapMembers concealMember

theorem unseen_concealStanza : Unseen concealStanza := by
  refine Unseen.mapMembers fun key => ?_
  unfold concealMember
  split
  · exact StringSource.unseen_concealJson
  · exact unseen_id

section

variable {ρ α : Type} {g : ρ → ρ} {name : String}

theorem carries_other {value : Json → Except Mismatch α} {set : α → ρ → ρ}
    (hname : name ∉ confidentialKeys) (hset : ∀ a r, set a (g r) = g (set a r)) :
    (field name value set).Carries (concealMember name) g := by
  rw [concealMember, if_neg hname]
  exact carries_field_id name hset

theorem carries_confidential {value : Json → Except Mismatch α} {change : α → α}
    {set : α → ρ → ρ} (hname : name ∈ confidentialKeys)
    (hvalue : ∀ v, value (StringSource.concealJson v) = (value v).map change)
    (hset : ∀ a r, set (change a) (g r) = g (set a r)) :
    (field name value set).Carries (concealMember name) g := by
  rw [concealMember, if_pos hname]
  exact carries_field name hvalue hset

theorem carries_source {set : StringSource → ρ → ρ} (hname : name ∈ confidentialKeys)
    (hset : ∀ s r, set s.concealed (g r) = g (set s r)) :
    (field name StringSource.read set).Carries (concealMember name) g :=
  carries_confidential hname StringSource.read_concealJson hset

theorem carries_id {fields : List (RecordField ρ)}
    (hfields : ∀ field ∈ fields, field.name ∉ confidentialKeys) :
    ∀ field ∈ fields, field.Carries (concealMember field.name) id := by
  intro field hfield v r
  rw [concealMember, if_neg (hfields field hfield)]
  change field.read v r = _
  cases field.read v r <;> rfl

end

namespace Settings

def concealed : Settings → Settings
  | gitHub s => gitHub { s with clientSecret := s.clientSecret.concealed }
  | gitLab s => gitLab { s with clientSecret := s.clientSecret.concealed }
  | google s => google { s with clientSecret := s.clientSecret.concealed }
  | ldap s => ldap { s with bindPassword := s.bindPassword.concealed }
  | openId s => openId { s with clientSecret := s.clientSecret.concealed }
  | s => s

theorem map_readRecord {ρ : Type} (kind : ρ → Settings) (g : ρ → ρ)
    (fields : List (RecordField ρ)) {type : String} {initial : ρ} (hinitial : g initial = initial)
    (hkind : ∀ r, kind (g r) = (kind r).concealed)
    (hfields : ∀ field ∈ fields, field.Carries (concealMember field.name) g)
    (ms : List (String × Json)) :
    (readRecord type fields initial (concealStanza (.object ms))).map kind =
      ((readRecord type fields initial (.object ms)).map kind).map concealed := by
  rw [concealStanza, readRecord_mapMembers type hinitial hfields]
  cases readRecord type fields initial (.object ms) with
  | error e => rfl
  | ok r => exact congrArg Except.ok (hkind r)

theorem read_concealStanza (ms : List (String × Json)) (k : Kind) :
    read (concealStanza (.object ms)) k = (read (.object ms) k).map concealed := by
  cases k with
  | basicAuth =>
      exact map_readRecord basicAuth id BasicAuth.fields rfl (fun _ => rfl)
        (carries_id (by decide)) ms
  | htpasswd =>
      exact map_readRecord htpasswd id Htpasswd.fields rfl (fun _ => rfl)
        (carries_id (by decide)) ms
  | keystone =>
      exact map_readRecord keystone id Keystone.fields rfl (fun _ => rfl)
        (carries_id (by decide)) ms
  | requestHeader =>
      exact map_readRecord requestHeader id RequestHeader.fields rfl (fun _ => rfl)
        (carries_id (by decide)) ms
  | gitHub =>
      refine map_readRecord gitHub
        (fun s => { s with clientSecret := s.clientSecret.concealed }) GitHub.fields rfl
        (fun _ => rfl) ?_ ms
      simp only [GitHub.fields, List.forall_mem_cons]
      exact ⟨carries_other (by decide) fun _ _ => rfl, carries_source (by decide) fun _ _ => rfl,
        carries_other (by decide) fun _ _ => rfl, carries_other (by decide) fun _ _ => rfl,
        carries_other (by decide) fun _ _ => rfl, carries_other (by decide) fun _ _ => rfl,
        List.forall_mem_nil _⟩
  | gitLab =>
      refine map_readRecord gitLab
        (fun s => { s with clientSecret := s.clientSecret.concealed }) GitLab.fields rfl
        (fun _ => rfl) ?_ ms
      simp only [GitLab.fields, List.forall_mem_cons]
      exact ⟨carries_other (by decide) fun _ _ => rfl, carries_other (by decide) fun _ _ => rfl,
        carries_source (by decide) fun _ _ => rfl, carries_other (by decide) fun _ _ => rfl,
        List.forall_mem_nil _⟩
  | google =>
      refine map_readRecord google
        (fun s => { s with clientSecret := s.clientSecret.concealed }) Google.fields rfl
        (fun _ => rfl) ?_ ms
      simp only [Google.fields, List.forall_mem_cons]
      exact ⟨carries_other (by decide) fun _ _ => rfl, carries_source (by decide) fun _ _ => rfl,
        carries_other (by decide) fun _ _ => rfl, List.forall_mem_nil _⟩
  | ldap =>
      refine map_readRecord ldap
        (fun s => { s with bindPassword := s.bindPassword.concealed }) Ldap.fields rfl
        (fun _ => rfl) ?_ ms
      simp only [Ldap.fields, List.forall_mem_cons]
      exact ⟨carries_other (by decide) fun _ _ => rfl, carries_other (by decide) fun _ _ => rfl,
        carries_source (by decide) fun _ _ => rfl, carries_other (by decide) fun _ _ => rfl,
        carries_other (by decide) fun _ _ => rfl, carries_other (by decide) fun _ _ => rfl,
        List.forall_mem_nil _⟩
  | openId =>
      refine map_readRecord openId
        (fun s => { s with clientSecret := s.clientSecret.concealed }) OpenId.fields rfl
        (fun _ => rfl) ?_ ms
      simp only [OpenId.fields, List.forall_mem_cons]
      exact ⟨carries_other (by decide) fun _ _ => rfl, carries_other (by decide) fun _ _ => rfl,
        carries_source (by decide) fun _ _ => rfl, carries_other (by decide) fun _ _ => rfl,
        carries_other (by decide) fun _ _ => rfl, carries_other (by decide) fun _ _ => rfl,
        carries_other (by decide) fun _ _ => rfl, List.forall_mem_nil _⟩

@[simp] theorem rules_concealed (s : Settings) : s.concealed.rules = s.rules := by
  cases s <;> simp [concealed, rules, clientRules]

end Settings

end IdentityProvider

/-! ## Artifacts -/

def Secret.concealed (s : Secret) : Secret := { s with content := [] }

def ConfigMap.concealed (m : ConfigMap) : ConfigMap := { m with content := [] }

def Templates.concealed (t : Templates) : Templates where
  login := t.login.map fun _ => []
  error := t.error.map fun _ => []
  providerSelection := t.providerSelection.map fun _ => []

namespace IdentityProvider

/-- The fragment without its bind password, if it is one for LDAP. -/
def Fragment.concealed (f : Fragment) : Fragment :=
  if f.kind = .ldap then { f with stanza := f.stanza.filter (·.1 != "bindPassword") } else f

def Contribution.concealed (c : Contribution) : Contribution where
  fragment := c.fragment.concealed
  secrets := c.secrets.map (·.concealed)
  configMaps := c.configMaps.map (·.concealed)
  notices := c.notices

/-- The provider without its payload and the contents of its files. -/
def bare (p : IdentityProvider) : IdentityProvider := { p with payload := [], sideFiles := {} }

theorem fields_of_bare {p q : IdentityProvider} (h : p.bare = q.bare) :
    p.kind = q.kind ∧ p.mappingMethod = q.mappingMethod ∧ p.name = q.name ∧
      p.challenge = q.challenge ∧ p.login = q.login := by
  simpa [bare] using h

theorem caMember_caBundle (path name : String) (f g : SideFiles) :
    caMember (caBundle path name f) = caMember (caBundle path name g) := by
  by_cases h : path.isEmpty = true <;> simp [caBundle, caMember, h]

theorem concealed_caBundle (path name : String) (f g : SideFiles) :
    (caBundle path name f).map (·.concealed) = (caBundle path name g).map (·.concealed) := by
  by_cases h : path.isEmpty = true <;> simp [caBundle, ConfigMap.concealed, h]

theorem certificate_bare (p : IdentityProvider) (purpose : Purpose) (certFile : String) :
    (p.bare.certificate purpose certFile).1 = (p.certificate purpose certFile).1 ∧
      (p.bare.certificate purpose certFile).2.map (·.concealed) =
        (p.certificate purpose certFile).2.map (·.concealed) := by
  by_cases h : certFile.isEmpty = true <;>
    simp [certificate, secretMember, certSecret, keySecret, bare, Secret.concealed, h]

theorem concealed_contribution {p q : IdentityProvider} (hbare : p.bare = q.bare) {kind : Kind}
    {stanza stanza' : Members} {secrets secrets' : List Secret} {maps maps' : List ConfigMap}
    {notices : List Notice}
    (hstanza : if kind = .ldap then
        stanza.filter (·.1 != "bindPassword") = stanza'.filter (·.1 != "bindPassword")
      else stanza = stanza')
    (hsecrets : secrets.map (·.concealed) = secrets'.map (·.concealed))
    (hmaps : maps.map (·.concealed) = maps'.map (·.concealed)) :
    (p.contribution kind stanza secrets maps notices).concealed =
      (q.contribution kind stanza' secrets' maps' notices).concealed := by
  obtain ⟨_, hmethod, hname, hchallenge, hlogin⟩ := fields_of_bare hbare
  by_cases h : kind = .ldap
  · rw [if_pos h] at hstanza
    simp [contribution, Contribution.concealed, Fragment.concealed, h, hstanza, hsecrets, hmaps,
      hname, hmethod, hchallenge, hlogin]
  · rw [if_neg h] at hstanza
    simp [contribution, Contribution.concealed, Fragment.concealed, h, hstanza, hsecrets, hmaps,
      hname, hmethod, hchallenge, hlogin]

theorem filter_bindPassword (text : String) :
    (textMember? "bindPassword" text).filter (·.1 != "bindPassword") = [] := by
  by_cases h : text.isEmpty = true <;> simp [textMember?, textMember, h]

/-- What a provider contributes depends on confidential texts and on the contents of files
in nothing that is left when these are concealed. -/
theorem concealed_contribute (p : IdentityProvider) (s : Settings) :
    (p.contribute s).concealed = (p.bare.contribute s.concealed).concealed := by
  have hca (path name : String) := caMember_caBundle path name p.sideFiles p.bare.sideFiles
  have hmaps (path name : String) := concealed_caBundle path name p.sideFiles p.bare.sideFiles
  cases s with
  | basicAuth s =>
      obtain ⟨hmembers, hsecrets⟩ := certificate_bare p .basicAuth s.certFile
      refine concealed_contribution rfl ?_ hsecrets.symm (hmaps _ _)
      rw [if_neg (by decide), hca]
      exact congrArg (_ ++ ·) hmembers.symm
  | keystone s =>
      obtain ⟨hmembers, hsecrets⟩ := certificate_bare p .keystone s.certFile
      refine concealed_contribution rfl ?_ hsecrets.symm (hmaps _ _)
      rw [if_neg (by decide), hca]
      exact congrArg (_ ++ ·) hmembers.symm
  | gitHub s | gitLab s | openId s =>
      refine concealed_contribution rfl ?_ rfl (hmaps _ _)
      rw [if_neg (by decide), hca]
      rfl
  | google s | htpasswd s => exact concealed_contribution rfl rfl rfl rfl
  | ldap s =>
      refine concealed_contribution rfl ?_ rfl (hmaps _ _)
      rw [if_pos rfl, hca]
      simp only [List.filter_append, filter_bindPassword]
  | requestHeader s =>
      refine concealed_contribution rfl ?_ rfl (hmaps _ _)
      rw [if_neg (by decide), hca]

end IdentityProvider

end ClusterMigration
