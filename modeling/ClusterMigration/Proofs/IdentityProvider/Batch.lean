import ClusterMigration.Proofs.IdentityProvider.References
import ClusterMigration.Proofs.Json.Record

/-!
# Packages, provider by provider

A package holds what each provider contributes on its own, in order. One provider of a known
kind whose settings cannot be read is enough for there to be no package, and a provider of
an unknown kind leaves nothing but a warning. The main statement is `ofProviders_batch`.
-/

namespace ClusterMigration

def Notice.isUnknownKind : Notice → Bool
  | unknownKind _ => true
  | _ => false

namespace IdentityProvider

/-- The kind is known, and the payload holds no settings of that kind. -/
def IsUndecodable (p : IdentityProvider) : Prop :=
  ∃ k e, p.kind? = some k ∧ readPayload p.payload k = .error e

/-- What a fragment has of its provider, as it is written. -/
structure Fragment.Carries (f : Fragment) (p : IdentityProvider) : Prop where
  name : f.toJson.member? "name" = some (.string p.name)
  challenge : f.toJson.member? "challenge" = some (.bool p.challenge)
  login : f.toJson.member? "login" = some (.bool p.login)
  mappingMethod : f.toJson.member? "mappingMethod" = some (.string p.mappingMethod)
  type : ∃ k, p.kind? = some k ∧ f.toJson.member? "type" = some (.string k.type)

variable {p : IdentityProvider} {ps qs before after : List IdentityProvider} {s : Settings}
  {e : ProviderError} {cs : List Contribution}

/-! ## One provider -/

theorem settings_of_unknown (h : p.kind? = none) : p.settings = .ok none := by
  simp only [settings, h]

theorem settings_of_readPayload_error {k : Kind} {e : PayloadError} (hk : p.kind? = some k)
    (he : readPayload p.payload k = .error e) :
    p.settings = .error (.undecodable p.name p.kind e.message) := by
  simp only [settings, hk, he]

theorem isUndecodable_of_settings (h : p.settings = .error e) : p.IsUndecodable := by
  unfold settings at h
  split at h
  · cases h
  · rename_i k hk
    split at h
    · cases h
    · rename_i e' he
      exact ⟨k, e', hk, he⟩

theorem isUndecodable_iff : p.IsUndecodable ↔ ∃ e, p.settings = .error e := by
  constructor
  · rintro ⟨k, e, hk, he⟩
    exact ⟨_, settings_of_readPayload_error hk he⟩
  · rintro ⟨e, he⟩
    exact isUndecodable_of_settings he

theorem kind?_of_settings (h : p.settings = .ok (some s)) : p.kind? = some s.kind := by
  unfold settings at h
  split at h
  · cases h
  · rename_i k hk
    split at h
    · rename_i hread
      cases h
      unfold readPayload at hread
      split at hread
      · cases hread
      · rename_i v _
        cases hv : Settings.read v.dropNulls k with
        | ok s =>
            rw [hv] at hread
            cases hread
            rw [hk, Settings.kind_of_read hv]
        | error e =>
            rw [hv] at hread
            cases hread
    · cases h

theorem carries_contribute (h : p.settings = .ok (some s)) :
    (p.contribute s).fragment.Carries p := by
  have hfragment : ∃ stanza, (p.contribute s).fragment =
      ⟨p.name, p.challenge, p.login, p.mappingMethod, s.kind, stanza⟩ := by
    cases s <;> exact ⟨_, rfl⟩
  obtain ⟨stanza, hstanza⟩ := hfragment
  rw [hstanza]
  exact ⟨rfl, rfl, rfl, rfl, s.kind, kind?_of_settings h, rfl⟩

theorem mem_notices_contribute {p : IdentityProvider} {s : Settings} {n : Notice}
    (h : n ∈ (p.contribute s).notices) :
    (∃ file, n = .movingHtpasswd file) ∨ n = .keystoneIdentity := by
  cases s with
  | htpasswd s => exact .inl ⟨s.file, List.mem_singleton.mp h⟩
  | keystone s =>
      change n ∈ (if s.useKeystoneIdentity then [Notice.keystoneIdentity] else []) at h
      split at h
      · exact .inr (List.mem_singleton.mp h)
      · cases h
  | _ => cases h

theorem notices_contribute (p : IdentityProvider) (s : Settings) :
    ∀ n ∈ (p.contribute s).notices, n.isUnknownKind = false := by
  intro n hn
  rcases mem_notices_contribute hn with ⟨file, rfl⟩ | rfl <;> rfl

/-! ## Contributions -/

theorem contributions_cons_of_error (h : p.settings = .error e) :
    contributions (p :: ps) = ([], .error e) := by
  rw [contributions, h]

theorem contributions_cons_of_unknown (h : p.kind? = none) :
    contributions (p :: ps) =
      (.unknownKind p.kind :: (contributions ps).1, (contributions ps).2) := by
  rw [contributions, settings_of_unknown h]

theorem contributions_cons_of_settings (h : p.settings = .ok (some s)) :
    contributions (p :: ps) =
      (.providerBegun p.kind p.name :: (p.contribute s).notices ++ (contributions ps).1,
        (contributions ps).2.map (p.contribute s :: ·)) := by
  rw [contributions, h]

theorem settings_cases (p : IdentityProvider) :
    (∃ e, p.settings = .error e) ∨ p.kind? = none ∨ ∃ s, p.settings = .ok (some s) := by
  cases h : p.settings with
  | error e => exact .inl ⟨e, rfl⟩
  | ok s =>
      cases s with
      | none => exact .inr (.inl (kind?_of_settings_none h))
      | some s => exact .inr (.inr ⟨s, rfl⟩)

theorem not_isUndecodable_of_unknown (h : p.kind? = none) : ¬ p.IsUndecodable := by
  rintro ⟨k, e, hk, -⟩
  rw [h] at hk
  cases hk

theorem not_isUndecodable_of_settings (h : p.settings = .ok (some s)) : ¬ p.IsUndecodable := by
  rw [isUndecodable_iff, h]
  rintro ⟨e, he⟩
  cases he

theorem contributions_append (h : (contributions ps).2 = .ok cs) :
    contributions (ps ++ qs) =
      ((contributions ps).1 ++ (contributions qs).1, (contributions qs).2.map (cs ++ ·)) := by
  induction ps generalizing cs with
  | nil =>
      cases h
      cases hqs : (contributions qs).2 with
      | error e => simp [contributions, Except.map, ← hqs]
      | ok ds => simp [contributions, Except.map, ← hqs]
  | cons p ps ih =>
      rw [List.cons_append]
      rcases settings_cases p with ⟨e, he⟩ | hp | ⟨s, hs⟩
      · rw [contributions_cons_of_error he] at h
        cases h
      · rw [contributions_cons_of_unknown hp] at h ⊢
        rw [contributions_cons_of_unknown hp, ih h]
        rfl
      · rw [contributions_cons_of_settings hs] at h ⊢
        obtain ⟨ds, hds, rfl⟩ := Json.map_eq_ok.mp h
        rw [contributions_cons_of_settings hs, ih hds]
        cases (contributions qs).2 <;> simp [Except.map]

theorem contributions_of_readable (h : ∀ p ∈ ps, ¬ p.IsUndecodable) :
    ∃ cs, (contributions ps).2 = .ok cs := by
  induction ps with
  | nil => exact ⟨[], rfl⟩
  | cons p ps ih =>
      obtain ⟨hp, hps⟩ := List.forall_mem_cons.mp h
      obtain ⟨cs, hcs⟩ := ih hps
      rcases settings_cases p with he | hunknown | ⟨s, hs⟩
      · exact absurd (isUndecodable_iff.mpr he) hp
      · exact ⟨cs, by rw [contributions_cons_of_unknown hunknown, hcs]⟩
      · exact ⟨p.contribute s :: cs, by rw [contributions_cons_of_settings hs, hcs]; rfl⟩

theorem contributions_of_first (hbefore : ∀ b ∈ before, ¬ b.IsUndecodable)
    (hp : p.settings = .error e) :
    (contributions (before ++ p :: after)).2 = .error e := by
  obtain ⟨cs, hcs⟩ := contributions_of_readable hbefore
  rw [contributions_append hcs, contributions_cons_of_error hp]
  rfl

theorem exists_first (ps : List IdentityProvider) :
    (∀ p ∈ ps, ¬ p.IsUndecodable) ∨
      ∃ before p after, ps = before ++ p :: after ∧ (∀ b ∈ before, ¬ b.IsUndecodable) ∧
        p.IsUndecodable := by
  induction ps with
  | nil => exact .inl fun _ hp => nomatch hp
  | cons p ps ih =>
      by_cases hp : p.IsUndecodable
      · exact .inr ⟨[], p, ps, rfl, fun _ hb => (nomatch hb), hp⟩
      · rcases ih with hall | ⟨before, q, after, rfl, hbefore, hq⟩
        · exact .inl (List.forall_mem_cons.mpr ⟨hp, hall⟩)
        · exact .inr ⟨p :: before, q, after, rfl, List.forall_mem_cons.mpr ⟨hp, hbefore⟩, hq⟩

theorem contributions_error_iff (ps : List IdentityProvider) :
    (∃ e, (contributions ps).2 = .error e) ↔ ∃ p ∈ ps, p.IsUndecodable := by
  constructor
  · rintro ⟨e, he⟩
    by_contra hnone
    have hreadable : ∀ p ∈ ps, ¬ p.IsUndecodable := fun p hp hu => hnone ⟨p, hp, hu⟩
    obtain ⟨cs, hcs⟩ := contributions_of_readable hreadable
    rw [hcs] at he
    cases he
  · rintro ⟨q, hq, hu⟩
    rcases exists_first ps with hall | ⟨before, p, after, rfl, hbefore, hp⟩
    · exact absurd hu (hall q hq)
    · obtain ⟨e, he⟩ := isUndecodable_iff.mp hp
      exact ⟨e, contributions_of_first hbefore he⟩

theorem unknownKinds_contributions (h : (contributions ps).2 = .ok cs) :
    (contributions ps).1.filter (·.isUnknownKind) =
      (ps.filter (·.kind?.isNone)).map fun p => .unknownKind p.kind := by
  induction ps generalizing cs with
  | nil => rfl
  | cons p ps ih =>
      rcases settings_cases p with ⟨e, he⟩ | hp | ⟨s, hs⟩
      · rw [contributions_cons_of_error he] at h
        cases h
      · rw [contributions_cons_of_unknown hp] at h ⊢
        have hwarning : (Notice.unknownKind p.kind).isUnknownKind = true := rfl
        simp [hwarning, hp, ih h]
      · rw [contributions_cons_of_settings hs] at h ⊢
        obtain ⟨ds, hds, -⟩ := Json.map_eq_ok.mp h
        have hnotices : (p.contribute s).notices.filter (·.isUnknownKind) = [] :=
          List.filter_eq_nil_iff.mpr fun n hn => by simp [notices_contribute p s n hn]
        have hbegun : (Notice.providerBegun p.kind p.name).isUnknownKind = false := rfl
        simp [hbegun, hnotices, kind?_of_settings hs, ih hds]

theorem contributions_filter_known (ps : List IdentityProvider) :
    contributions (ps.filter (·.kind?.isSome)) =
      ((contributions ps).1.filter (!·.isUnknownKind), (contributions ps).2) := by
  induction ps with
  | nil => rfl
  | cons p ps ih =>
      rcases settings_cases p with ⟨e, he⟩ | hp | ⟨s, hs⟩
      · obtain ⟨k, _, hk, _⟩ := isUndecodable_of_settings he
        rw [List.filter_cons_of_pos (by simp [hk]), contributions_cons_of_error he,
          contributions_cons_of_error he]
        rfl
      · rw [List.filter_cons_of_neg (by simp [hp]), contributions_cons_of_unknown hp, ih]
        rfl
      · have hnotices : (p.contribute s).notices.filter (!·.isUnknownKind) =
            (p.contribute s).notices :=
          List.filter_eq_self.mpr fun n hn => by simp [notices_contribute p s n hn]
        have hbegun : (Notice.providerBegun p.kind p.name).isUnknownKind = false := rfl
        rw [List.filter_cons_of_pos (by simp [kind?_of_settings hs]),
          contributions_cons_of_settings hs, contributions_cons_of_settings hs, ih]
        simp [hbegun, hnotices]

theorem contributions_payload (h : p.kind? = none) (payload : Bytes) :
    contributions (before ++ { p with payload } :: after) =
      contributions (before ++ p :: after) := by
  have hkind : ({ p with payload } : IdentityProvider).kind? = none := h
  induction before with
  | nil =>
      rw [List.nil_append, List.nil_append, contributions_cons_of_unknown hkind,
        contributions_cons_of_unknown h]
  | cons b before ih => simp only [List.cons_append, contributions, ih]

end IdentityProvider

namespace OAuthPackage

open IdentityProvider

variable {ps : List IdentityProvider} {tokenConfig : Option TokenConfig} {templates : Templates}

theorem repetitions_isUnknownKind (o : OAuthPackage) :
    ∀ n ∈ o.repetitions, n.isUnknownKind = false := by
  intro n hn
  rcases List.mem_append.mp hn with hn | hn
  · obtain ⟨_, _, rfl⟩ := List.mem_map.mp hn
    rfl
  · obtain ⟨_, _, rfl⟩ := List.mem_map.mp hn
    rfl

theorem ofProviders_of_error {e : ProviderError} (h : (contributions ps).2 = .error e) :
    ofProviders ps tokenConfig templates = ((contributions ps).1, .error e) := by
  rw [ofProviders]
  split
  · rename_i hcs
    rw [hcs] at h ⊢
    cases h
    rfl
  · rename_i hcs
    rw [hcs] at h
    cases h

theorem ofProviders_of_ok {cs : List Contribution} (h : (contributions ps).2 = .ok cs) :
    ofProviders ps tokenConfig templates =
      ((contributions ps).1 ++ (assemble cs tokenConfig templates).repetitions,
        .ok (assemble cs tokenConfig templates)) := by
  rw [ofProviders]
  split
  · rename_i hcs
    rw [hcs] at h
    cases h
  · rename_i hcs
    rw [hcs] at h ⊢
    cases h
    rfl

theorem ofProviders_error_iff :
    (∃ e, (ofProviders ps tokenConfig templates).2 = .error e) ↔ ∃ p ∈ ps, p.IsUndecodable := by
  rw [← contributions_error_iff]
  constructor
  · rintro ⟨e, he⟩
    cases hcs : (contributions ps).2 with
    | error e' => exact ⟨e', rfl⟩
    | ok cs =>
        rw [ofProviders_of_ok hcs] at he
        cases he
  · rintro ⟨e, he⟩
    exact ⟨e, by rw [ofProviders_of_error he]⟩

theorem unknownKinds_ofProviders {o : OAuthPackage}
    (h : (ofProviders ps tokenConfig templates).2 = .ok o) :
    (ofProviders ps tokenConfig templates).1.filter (·.isUnknownKind) =
      (ps.filter (·.kind?.isNone)).map fun p => .unknownKind p.kind := by
  obtain ⟨cs, hcs, rfl⟩ := eq_assemble h
  have hrepetitions : (assemble cs tokenConfig templates).repetitions.filter
      (·.isUnknownKind) = [] :=
    List.filter_eq_nil_iff.mpr fun n hn => by simp [repetitions_isUnknownKind _ n hn]
  simp only [ofProviders_of_ok hcs, List.filter_append, hrepetitions, List.append_nil]
  exact unknownKinds_contributions hcs

theorem ofProviders_append {qs rs : List IdentityProvider} {o : OAuthPackage}
    (h : (ofProviders (qs ++ rs) tokenConfig templates).2 = .ok o) :
    ∃ a b secretsOfA secretsOfB,
      (ofProviders qs tokenConfig templates).2 = .ok a ∧
      (ofProviders rs tokenConfig templates).2 = .ok b ∧
      o.fragments = a.fragments ++ b.fragments ∧
      a.secrets = secretsOfA ++ templates.secrets ∧
      b.secrets = secretsOfB ++ templates.secrets ∧
      o.secrets = secretsOfA ++ secretsOfB ++ templates.secrets ∧
      o.configMaps = a.configMaps ++ b.configMaps := by
  obtain ⟨cs, hcs, rfl⟩ := eq_assemble h
  have hreadable : ∀ p ∈ qs ++ rs, ¬ p.IsUndecodable := by
    intro p hp hu
    obtain ⟨e, he⟩ := (contributions_error_iff (qs ++ rs)).mpr ⟨p, hp, hu⟩
    rw [hcs] at he
    cases he
  obtain ⟨as, has⟩ := contributions_of_readable fun p hp =>
    hreadable p (List.mem_append_left rs hp)
  obtain ⟨bs, hbs⟩ := contributions_of_readable fun p hp =>
    hreadable p (List.mem_append_right qs hp)
  have hwhole : cs = as ++ bs := by
    rw [contributions_append has, hbs] at hcs
    exact (Except.ok.inj hcs).symm
  subst hwhole
  refine ⟨_, _, as.flatMap (·.secrets), bs.flatMap (·.secrets),
    congrArg Prod.snd (ofProviders_of_ok has), congrArg Prod.snd (ofProviders_of_ok hbs),
    ?_, rfl, rfl, ?_, ?_⟩
  · simp [assemble]
  · simp [assemble]
  · simp [assemble]

theorem ofProviders_filter_known (ps : List IdentityProvider) (tokenConfig : Option TokenConfig)
    (templates : Templates) :
    (ofProviders (ps.filter (·.kind?.isSome)) tokenConfig templates).2 =
        (ofProviders ps tokenConfig templates).2 ∧
      (ofProviders (ps.filter (·.kind?.isSome)) tokenConfig templates).1 =
        (ofProviders ps tokenConfig templates).1.filter (!·.isUnknownKind) := by
  have hfilter := contributions_filter_known ps
  cases hcs : (contributions ps).2 with
  | error e =>
      have hknown : (contributions (ps.filter (·.kind?.isSome))).2 = .error e := by
        rw [hfilter, hcs]
      simp only [ofProviders_of_error hcs, ofProviders_of_error hknown, hfilter]
      exact ⟨trivial, trivial⟩
  | ok cs =>
      have hknown : (contributions (ps.filter (·.kind?.isSome))).2 = .ok cs := by
        rw [hfilter, hcs]
      have hrepetitions : (assemble cs tokenConfig templates).repetitions.filter
          (!·.isUnknownKind) = (assemble cs tokenConfig templates).repetitions :=
        List.filter_eq_self.mpr fun n hn => by simp [repetitions_isUnknownKind _ n hn]
      simp only [ofProviders_of_ok hcs, ofProviders_of_ok hknown, hfilter, List.filter_append,
        hrepetitions]
      exact ⟨trivial, trivial⟩

/-- There is no package exactly if some provider of a known kind cannot be read, and the
first such provider is told of. Otherwise every provider of a known kind has its fragment, in
order, every provider of an unknown kind has its warning, whatever its payload, and the
package of some providers followed by others is put together from the packages of the ones
and of the others. Without the providers of unknown kinds it is the same package. -/
theorem ofProviders_batch (ps : List IdentityProvider) (tokenConfig : Option TokenConfig)
    (templates : Templates) :
    let translate := fun ps => ofProviders ps tokenConfig templates
    ((∃ e, (translate ps).2 = .error e) ↔ ∃ p ∈ ps, p.IsUndecodable) ∧
    (∀ before p after k e, ps = before ++ p :: after → (∀ b ∈ before, ¬ b.IsUndecodable) →
      p.kind? = some k → readPayload p.payload k = .error e →
      (translate ps).2 = .error (.undecodable p.name p.kind e.message)) ∧
    (∀ o, (translate ps).2 = .ok o →
      List.Forall₂ Fragment.Carries o.fragments (ps.filter (·.kind?.isSome)) ∧
      (translate ps).1.filter (·.isUnknownKind) =
        (ps.filter (·.kind?.isNone)).map (fun p => .unknownKind p.kind) ∧
      ∀ qs rs, ps = qs ++ rs → ∃ a b secretsOfA secretsOfB,
        (translate qs).2 = .ok a ∧ (translate rs).2 = .ok b ∧
        o.fragments = a.fragments ++ b.fragments ∧
        a.secrets = secretsOfA ++ templates.secrets ∧
        b.secrets = secretsOfB ++ templates.secrets ∧
        o.secrets = secretsOfA ++ secretsOfB ++ templates.secrets ∧
        o.configMaps = a.configMaps ++ b.configMaps) ∧
    (∀ before p after payload, ps = before ++ p :: after → p.kind? = none →
      translate (before ++ { p with payload } :: after) = translate ps) ∧
    (translate (ps.filter (·.kind?.isSome))).2 = (translate ps).2 ∧
    (translate (ps.filter (·.kind?.isSome))).1 =
      (translate ps).1.filter (!·.isUnknownKind) := by
  intro translate
  refine ⟨ofProviders_error_iff, ?_, ?_, ?_, ofProviders_filter_known ps tokenConfig templates⟩
  · rintro before p after k e rfl hbefore hk he
    have hp := settings_of_readPayload_error hk he
    exact congrArg Prod.snd (ofProviders_of_error (contributions_of_first hbefore hp))
  · intro o ho
    refine ⟨?_, unknownKinds_ofProviders ho, ?_⟩
    · obtain ⟨cs, hcs, rfl⟩ := eq_assemble ho
      have hpaired := (forall₂_contributions hcs).flip
      refine List.forall₂_map_left_iff.mpr (hpaired.imp ?_)
      rintro _ p ⟨s, hs, rfl⟩
      exact carries_contribute hs
    · rintro qs rs rfl
      exact ofProviders_append ho
  · rintro before p after payload rfl hp
    simp only [translate, ofProviders, contributions_payload hp]

section

private def unknown : IdentityProvider where
  kind := "FutureProvider"
  mappingMethod := "claim"
  name := "unknown"
  payload := []
  challenge := false
  login := false

private def malformed : IdentityProvider where
  kind := "GitHubIdentityProvider"
  mappingMethod := "claim"
  name := "malformed"
  payload := [0x7B]
  challenge := false
  login := false

theorem batch_with_malformed :
    (∃ o, (ofProviders [unknown, basicAuth] none {}).2 = .ok o ∧
      List.Forall₂ Fragment.Carries o.fragments [basicAuth] ∧
      (ofProviders [unknown, basicAuth] none {}).1.filter (·.isUnknownKind) =
        [.unknownKind "FutureProvider"]) ∧
    (ofProviders [unknown, basicAuth, malformed] none {}).2 = .error
      (.undecodable "malformed" "GitHubIdentityProvider" PayloadError.malformed.message) := by
  have hknown : [unknown, basicAuth].filter (·.kind?.isSome) = [basicAuth] := by decide +kernel
  have hunknown : [unknown, basicAuth].filter (·.kind?.isNone) = [unknown] := by decide +kernel
  have hbasic := not_isUndecodable_of_settings settings_basicAuth
  have hreadableUnknown : ¬ unknown.IsUndecodable :=
    not_isUndecodable_of_unknown (by decide +kernel)
  have hreadable : ∀ p ∈ [unknown, basicAuth], ¬ p.IsUndecodable :=
    List.forall_mem_cons.mpr ⟨hreadableUnknown, List.forall_mem_singleton.mpr hbasic⟩
  refine ⟨?_, ?_⟩
  · obtain ⟨cs, hcs⟩ := contributions_of_readable hreadable
    have ho : (ofProviders [unknown, basicAuth] none {}).2 = .ok (assemble cs none {}) :=
      congrArg Prod.snd (ofProviders_of_ok hcs)
    obtain ⟨hfragments, hwarnings, -⟩ :=
      (ofProviders_batch [unknown, basicAuth] none {}).2.2.1 _ ho
    rw [hknown] at hfragments
    rw [hunknown] at hwarnings
    exact ⟨_, ho, hfragments, hwarnings⟩
  · exact (ofProviders_batch [unknown, basicAuth, malformed] none {}).2.1 [unknown, basicAuth]
      malformed [] .gitHub .malformed rfl hreadable (by decide +kernel) (by decide +kernel)

end

end OAuthPackage

end ClusterMigration
