import ClusterMigration.Proofs.IdentityProvider.Concealed
import ClusterMigration.Proofs.Result
import ClusterMigration.Proofs.Text.Utf8

/-!
# Providers that are alike

Providers that differ in confidential texts and in the contents of files only are checked
alike, and their packages are the same apart from those texts and contents.
-/

namespace ClusterMigration

namespace IdentityProvider

/-! ## Payloads -/

theorem exists_object_of_parse? {ms : List (String × Json)} {u : Json}
    (h : Json.parse? (Json.object ms).toCompact = some u) : ∃ us, u = .object us := by
  rw [Json.parse?_toCompact, Json.reread] at h
  split at h
  · cases h
  · obtain ⟨w, hw, rfl⟩ := Option.map_eq_some_iff.mp h
    obtain ⟨ns, _, rfl⟩ := Option.map_eq_some_iff.mp hw
    exact ⟨_, rfl⟩

theorem readPayload_concealStanza (ms : List (String × Json)) (k : Kind) :
    readPayload (Utf8.encode (concealStanza (.object ms)).toCompact) k =
      (readPayload (Utf8.encode (Json.object ms).toCompact) k).map Settings.concealed := by
  simp only [readPayload, Json.parseBytes?, Utf8.decode?_encode, Option.bind_some,
    unseen_concealStanza.parse?]
  cases hparse : Json.parse? (Json.object ms).toCompact with
  | none => rfl
  | some u =>
      obtain ⟨us, rfl⟩ := exists_object_of_parse? hparse
      have hnulls : (Json.object us).dropNulls = .object (Json.dropNullsMembers us) := rfl
      simp only [Option.map_some, unseen_concealStanza.dropNulls, hnulls,
        Settings.read_concealStanza]
      cases Settings.read (.object (Json.dropNullsMembers us)) k <;> rfl

/-! ## Providers -/

/-- The same provider, apart from confidential texts and contents of files. -/
structure Alike (p q : IdentityProvider) : Prop where
  bare : p.bare = q.bare
  settings : p.settings.map (·.map Settings.concealed) =
    q.settings.map (·.map Settings.concealed)

variable {p q : IdentityProvider} {ps qs : List IdentityProvider} {s t : Settings}

theorem map_settings {k : Kind} (hk : p.kind? = some k) :
    p.settings.map (·.map Settings.concealed) =
      match (readPayload p.payload k).map Settings.concealed with
      | .ok s => .ok (some s)
      | .error e => .error (.undecodable p.name p.kind e.message) := by
  simp only [settings, hk]
  cases readPayload p.payload k <;> rfl

theorem alike_of_payload {v w : Json} (hbare : p.bare = q.bare)
    (hobject : p.kind?.isSome = true → ∃ ms, v = .object ms)
    (hp : p.payload = Utf8.encode v.toCompact) (hq : q.payload = Utf8.encode w.toCompact)
    (hvw : concealStanza v = concealStanza w) : Alike p q := by
  refine ⟨hbare, ?_⟩
  obtain ⟨hsource, _, hname, _⟩ := fields_of_bare hbare
  have hkind : p.kind? = q.kind? := congrArg Kind.ofSource? hsource
  cases hk : p.kind? with
  | none => rw [settings_of_unknown hk, settings_of_unknown (hkind ▸ hk)]
  | some k =>
      obtain ⟨ms, rfl⟩ := hobject (by rw [hk]; rfl)
      obtain ⟨ns, rfl⟩ : ∃ ns, w = .object ns := by
        cases w with
        | object ns => exact ⟨ns, rfl⟩
        | _ => cases hvw
      rw [map_settings hk, map_settings (hkind ▸ hk), hp, hq, ← readPayload_concealStanza,
        ← readPayload_concealStanza, hvw, hname, hsource]

theorem Alike.settings_cases (h : Alike p q) :
    (∃ e, p.settings = .error e ∧ q.settings = .error e) ∨
      (p.kind? = none ∧ q.kind? = none) ∨
      ∃ s t, p.settings = .ok (some s) ∧ q.settings = .ok (some t) ∧
        s.concealed = t.concealed := by
  have hsettings := Both.of_map_eq h.settings
  generalize hp : p.settings = x at hsettings
  generalize hq : q.settings = y at hsettings
  cases hsettings with
  | error e => exact .inl ⟨e, rfl, rfl⟩
  | @ok s t hst =>
      cases s with
      | none =>
          cases t with
          | none => exact .inr (.inl ⟨kind?_of_settings_none hp, kind?_of_settings_none hq⟩)
          | some t => cases hst
      | some s =>
          cases t with
          | none => cases hst
          | some t => exact .inr (.inr ⟨s, t, rfl, rfl, Option.some.inj hst⟩)

theorem Alike.check (h : Alike p q) : p.check = q.check := by
  rcases h.settings_cases with ⟨e, hp, hq⟩ | ⟨hp, hq⟩ | ⟨s, t, hp, hq, hst⟩
  · simp only [IdentityProvider.check, hp, hq]
  · simp only [IdentityProvider.check, settings_of_unknown hp, settings_of_unknown hq]
  · obtain ⟨_, hmethod, hname, _⟩ := fields_of_bare h.bare
    have hrules : p.rules s = q.rules t := by
      rw [rules, rules, hmethod, hname, ← Settings.rules_concealed s, hst,
        Settings.rules_concealed]
    simp only [IdentityProvider.check, hp, hq, hrules]

theorem validate_alike (h : List.Forall₂ Alike ps qs) : validate ps = validate qs := by
  induction h with
  | nil => rfl
  | cons hpq _ ih => rw [validate, validate, hpq.check, ih]

theorem Alike.contribute (h : Alike p q) (hst : s.concealed = t.concealed) :
    (p.contribute s).concealed = (q.contribute t).concealed := by
  rw [concealed_contribute p, concealed_contribute q, h.bare, hst]

theorem map_concealed_cons {e : Type} (c : Contribution) (x : Except e (List Contribution)) :
    (x.map (c :: ·)).map (·.map (·.concealed)) =
      (x.map (·.map (·.concealed))).map (c.concealed :: ·) := by
  cases x <;> rfl

theorem contributions_alike (h : List.Forall₂ Alike ps qs) :
    (contributions ps).1 = (contributions qs).1 ∧
      (contributions ps).2.map (·.map (·.concealed)) =
        (contributions qs).2.map (·.map (·.concealed)) := by
  induction h with
  | nil => exact ⟨rfl, rfl⟩
  | @cons p q ps qs hpq _ ih =>
      obtain ⟨hnotices, hresult⟩ := ih
      obtain ⟨hkind, _, hname, _⟩ := fields_of_bare hpq.bare
      rcases hpq.settings_cases with ⟨e, hp, hq⟩ | ⟨hp, hq⟩ | ⟨s, t, hp, hq, hst⟩
      · rw [contributions_cons_of_error hp, contributions_cons_of_error hq]
        exact ⟨rfl, rfl⟩
      · rw [contributions_cons_of_unknown hp, contributions_cons_of_unknown hq, hkind, hnotices]
        exact ⟨rfl, hresult⟩
      · have hcontribution := hpq.contribute hst
        have htold : (p.contribute s).concealed.notices = (q.contribute t).concealed.notices :=
          congrArg Contribution.notices hcontribution
        rw [Contribution.concealed, Contribution.concealed] at htold
        rw [contributions_cons_of_settings hp, contributions_cons_of_settings hq, hkind, hname,
          htold, hnotices]
        refine ⟨rfl, ?_⟩
        rw [map_concealed_cons, map_concealed_cons, hcontribution, hresult]

end IdentityProvider

/-! ## Packages -/

namespace OAuthPackage

open IdentityProvider (Alike Contribution contributions contributions_alike)

/-- The package without bind passwords and without what its artifacts hold. -/
def concealed (o : OAuthPackage) : OAuthPackage :=
  { o with
    fragments := o.fragments.map (·.concealed)
    secrets := o.secrets.map (·.concealed)
    configMaps := o.configMaps.map (·.concealed) }

theorem repetitions_concealed (o : OAuthPackage) : o.concealed.repetitions = o.repetitions := by
  simp only [repetitions, concealed, List.map_map]
  rfl

theorem fileNames_concealed (o : OAuthPackage) :
    o.concealed.manifests.map (·.fileName) = o.manifests.map (·.fileName) := by
  simp only [manifests, concealed, List.map_append, List.map_cons, List.map_map]
  rfl

theorem pages_concealed (t : Templates) :
    t.concealed.pages = t.pages.map fun m => (m.1, m.2.concealed) := by
  have hpage (key name : String) (content : Option Bytes) :
      Templates.pages.page key name (content.map fun _ => []) =
        (Templates.pages.page key name content).map fun m => (m.1, m.2.concealed) := by
    cases content <;> rfl
  simp only [Templates.pages, Templates.concealed, hpage, List.map_append]

theorem concealed_assemble (cs : List Contribution) (tokenConfig : Option TokenConfig)
    (templates : Templates) :
    (assemble cs tokenConfig templates).concealed =
      assemble (cs.map (·.concealed)) tokenConfig templates.concealed := by
  simp [assemble, concealed, Templates.members, Templates.secrets, pages_concealed,
    List.map_flatMap, List.flatMap_map, Contribution.concealed, Secret.concealed]

variable {ps qs : List IdentityProvider} {templates templates' : Templates}

/-- Providers that are alike make packages that differ in what is concealed only, and the
same is told on the way. -/
theorem ofProviders_alike (h : List.Forall₂ Alike ps qs)
    (htemplates : templates.concealed = templates'.concealed) (tokenConfig : Option TokenConfig) :
    (ofProviders ps tokenConfig templates).1 = (ofProviders qs tokenConfig templates').1 ∧
      (ofProviders ps tokenConfig templates).2.map concealed =
        (ofProviders qs tokenConfig templates').2.map concealed := by
  obtain ⟨hnotices, hresult⟩ := contributions_alike h
  have hboth := Both.of_map_eq hresult
  generalize hps : (contributions ps).2 = x at hboth
  generalize hqs : (contributions qs).2 = y at hboth
  cases hboth with
  | error e =>
      rw [ofProviders_of_error hps, ofProviders_of_error hqs, hnotices]
      exact ⟨rfl, rfl⟩
  | @ok cs ds hcs =>
      have hpackage : (assemble cs tokenConfig templates).concealed =
          (assemble ds tokenConfig templates').concealed := by
        rw [concealed_assemble, concealed_assemble, htemplates, hcs]
      rw [ofProviders_of_ok hps, ofProviders_of_ok hqs, hnotices, ← repetitions_concealed,
        hpackage, repetitions_concealed]
      exact ⟨rfl, congrArg Except.ok hpackage⟩

end OAuthPackage

end ClusterMigration
