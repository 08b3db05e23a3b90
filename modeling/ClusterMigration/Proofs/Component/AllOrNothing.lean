import ClusterMigration.Proofs.Component.Contents
import ClusterMigration.Proofs.IdentityProvider.Check
import ClusterMigration.Proofs.Migration.Calls

/-!
# All of a package or nothing

Providers that pass the check always have a package, so the OAuth component never stops at
its third stage. Where the destination refuses nothing and manifests are wanted, either the
whole package is handed over or nothing is. The main statement is `run_whole`.
-/

namespace ClusterMigration

namespace Migration

variable {files : Files} {sink : Sink} {options : OutputOptions} {history : List Delivery}

theorem TakeTurns.forall₂ {cs : List Component} {ts : List Turn}
    (h : TakeTurns files sink options history cs ts) :
    List.Forall₂ (fun c t => ∃ history, Takes files sink options history c t) cs ts := by
  induction h with
  | nil => exact .nil
  | cons ht _ ih => exact .cons ⟨_, ht⟩ ih

end Migration

namespace Component.OAuth

open Migration (Sink Turn Takes TakeTurns record wanted)

/-- The calls hand over the OAuth resource of the package, with what every provider of a
known kind contributes to it and with the manifests of all its artifacts. -/
structure HandsOver (d : Data) (o : OAuthPackage) (calls : List Delivery) : Prop where
  resource : .manifest (.ofResource "oauth" o.resource) ∈ calls
  providers : ∀ p ∈ d.providers, p.kind?.isSome = true → ∃ s, p.settings = .ok (some s) ∧
    (p.contribute s).fragment ∈ o.fragments ∧
    (∀ a ∈ (p.contribute s).secrets, .manifest (.ofSecret a) ∈ calls) ∧
    ∀ a ∈ (p.contribute s).configMaps, .manifest (.ofConfigMap a) ∈ calls

variable {files : Files} {sink : Sink} {options : OutputOptions} {history : List Delivery}
  {env : Environment} {path : String} {d : Data} {o : OAuthPackage}

theorem transform_of_package
    (h : (OAuthPackage.ofProviders d.providers d.tokenConfig d.templates).2 = .ok o) :
    (transform d).2 = .ok [.manifests o.manifests, .report (report d)] := by
  unfold transform
  split
  · rename_i heq
    rw [heq] at h
    cases h
  · rename_i heq
    rw [heq] at h
    cases h
    rfl

theorem package_of_validate (h : validate d = .ok ()) :
    ∃ o, (OAuthPackage.ofProviders d.providers d.tokenConfig d.templates).2 = .ok o :=
  OAuthPackage.exists_of_validate (validate_eq_ok.mp h)

theorem wanted_package (options : OutputOptions) (ms : List Manifest) (r : Report) :
    wanted options [.manifests ms, .report r] =
      (if options.manifests then ms.map .manifest else []) ++
        if options.reporting then [.report r] else [] := by
  cases hm : options.manifests <;> cases hr : options.reporting <;>
    simp [wanted, Output.isWanted, Migration.parts, hm, hr]

theorem mem_manifests {o : OAuthPackage} {calls : List Delivery}
    (hcalls : o.manifests.map Delivery.manifest ⊆ calls) :
    .manifest (.ofResource "oauth" o.resource) ∈ calls ∧
      (∀ a ∈ o.secrets, .manifest (.ofSecret a) ∈ calls) ∧
      ∀ a ∈ o.configMaps, .manifest (.ofConfigMap a) ∈ calls := by
  refine ⟨hcalls (List.mem_map_of_mem ?_), fun a ha => hcalls (List.mem_map_of_mem ?_),
    fun a ha => hcalls (List.mem_map_of_mem ?_)⟩
  · simp [OAuthPackage.manifests]
  · simp only [OAuthPackage.manifests, List.cons_append, List.mem_cons, List.mem_append]
    exact .inr (.inl (List.mem_map_of_mem ha))
  · simp only [OAuthPackage.manifests, List.cons_append, List.mem_cons, List.mem_append]
    exact .inr (.inr (List.mem_map_of_mem ha))

theorem handsOver_of_package
    (h : (OAuthPackage.ofProviders d.providers d.tokenConfig d.templates).2 = .ok o)
    (hreadable : ∀ p ∈ d.providers, ¬ p.IsUndecodable) {calls : List Delivery}
    (hcalls : o.manifests.map Delivery.manifest ⊆ calls) : HandsOver d o calls := by
  obtain ⟨hresource, hsecrets, hmaps⟩ := mem_manifests hcalls
  refine ⟨hresource, fun p hp hkind => ?_⟩
  rcases IdentityProvider.settings_cases p with he | hunknown | ⟨s, hs⟩
  · exact absurd (IdentityProvider.isUndecodable_iff.mpr he) (hreadable p hp)
  · rw [hunknown] at hkind
    cases hkind
  · obtain ⟨cs, hcs, rfl⟩ := OAuthPackage.eq_assemble h
    have hknown : p ∈ d.providers.filter (·.kind?.isSome) := List.mem_filter.mpr ⟨hp, hkind⟩
    obtain ⟨c, hc, s', hs', rfl⟩ :=
      exists_of_forall₂ (IdentityProvider.forall₂_contributions hcs) hknown
    rw [hs] at hs'
    cases hs'
    exact ⟨s, hs, List.mem_map_of_mem hc,
      fun a ha => hsecrets a (List.mem_append_left _ (List.mem_flatMap_of_mem hc ha)),
      fun a ha => hmaps a (List.mem_flatMap_of_mem hc ha)⟩

/-! ## Turns of the component -/

theorem outcome_ne_skipped_transform {t : Turn}
    (h : Takes files sink options history (oauth env path) t) (reason : String) :
    t.outcome ≠ .skipped .transform reason := by
  intro heq
  cases h with
  | untransformed hx hv he =>
      obtain ⟨d, _, rfl⟩ := extract_eq_ok.mp hx
      obtain ⟨o, ho⟩ := package_of_validate hv
      have hok : (transform d).2 = _ := transform_of_package ho
      rw [show (extraction d).transform.2 = (transform d).2 from rfl, hok] at he
      cases he
  | unextracted | invalid | refused | flushed => cases heq

theorem calls_of_willing (hsink : ∀ history d, sink history d = .ok ()) {t : Turn}
    (h : Takes files sink options history (oauth env path) t) :
    t.calls = [] ∨ ∃ d o, (gather env path).result files = .ok d ∧
      (OAuthPackage.ofProviders d.providers d.tokenConfig d.templates).2 = .ok o ∧
      (∀ p ∈ d.providers, ¬ p.IsUndecodable) ∧
      t.calls = wanted options [.manifests o.manifests, .report (report d)] := by
  cases h with
  | unextracted | invalid | untransformed => exact .inl rfl
  | refused hx hv ho he => cases (he.all_of_willing hsink).2
  | flushed hx hv ho hd =>
      obtain ⟨d, hgather, rfl⟩ := extract_eq_ok.mp hx
      obtain ⟨o, hpackage⟩ := package_of_validate hv
      rw [show (extraction d).transform.2 = (transform d).2 from rfl,
        transform_of_package hpackage] at ho
      cases ho
      exact .inr ⟨d, o, hgather, hpackage,
        IdentityProvider.readable_of_validate (validate_eq_ok.mp hv),
        (hd.all_of_willing hsink).1⟩

/-- What a run has to do with the component: it is not stopped at its third stage, and where
nothing is refused, the whole package is handed over or nothing is. No manifest is handed
over that is not wanted. -/
def IsWhole (files : Files) (sink : Sink) (options : OutputOptions) (env : Environment)
    (path : String) (t : Turn) : Prop :=
  (∀ reason, t.outcome ≠ .skipped .transform reason) ∧
  ((∀ history d, sink history d = .ok ()) →
    (options.manifests = true → t.calls = [] ∨ ∃ d o, (gather env path).result files = .ok d ∧
      (OAuthPackage.ofProviders d.providers d.tokenConfig d.templates).2 = .ok o ∧
      HandsOver d o t.calls) ∧
    (options.manifests = false → ∀ m, .manifest m ∉ t.calls))

theorem isWhole_of_takes {t : Turn} (h : Takes files sink options history (oauth env path) t) :
    IsWhole files sink options env path t := by
  refine ⟨outcome_ne_skipped_transform h, fun hsink => ⟨fun hm => ?_, fun hm m => ?_⟩⟩
  · rcases calls_of_willing hsink h with hnone | ⟨d, o, hgather, hpackage, hreadable, hcalls⟩
    · exact .inl hnone
    · refine .inr ⟨d, o, hgather, hpackage, handsOver_of_package hpackage hreadable ?_⟩
      rw [hcalls, wanted_package, if_pos hm]
      exact List.subset_append_left _ _
  · rcases calls_of_willing hsink h with hnone | ⟨d, o, -, -, -, hcalls⟩
    · simp [hnone]
    · rw [hcalls, wanted_package, if_neg (by simp [hm])]
      split <;> simp

/-- Providers that pass the check have a package, and where there is none the check tells of
the same provider or of one before it. So in every run the component is whole: it does not
stop when its package is made, and hands over all of it or nothing. -/
theorem run_whole (files : Files) (sink : Sink) (options : OutputOptions)
    (cs : List Component) :
    (∀ ps tokenConfig templates,
      (IdentityProvider.validate ps = .ok () →
        ∃ o, (OAuthPackage.ofProviders ps tokenConfig templates).2 = .ok o) ∧
      ∀ e, (OAuthPackage.ofProviders ps tokenConfig templates).2 = .error e →
        ∃ before p after, ps = before ++ p :: after ∧ (∀ b ∈ before, ¬ b.IsUndecodable) ∧
          p.settings = .error e ∧
          (IdentityProvider.validate ps = .error e ∨
            ∃ b ∈ before, ∃ v, b.check = .error (.invalid v) ∧
              IdentityProvider.validate ps = .error (.invalid v))) ∧
    ∃ ts, TakeTurns files sink options [] cs ts ∧
      record files sink options cs =
        (ts.map (·.entry), ⟨ts.flatMap (·.calls), ts.flatMap (·.told)⟩) ∧
      List.Forall₂ (fun c t => ∀ env path, c = oauth env path →
        IsWhole files sink options env path t) cs ts := by
  refine ⟨fun ps tokenConfig templates =>
    ⟨OAuthPackage.exists_of_validate, fun e => OAuthPackage.validate_of_ofProviders_error⟩, ?_⟩
  obtain ⟨ts, hts, hrecord⟩ := Migration.exists_turns files sink options cs
  refine ⟨ts, hts, hrecord, hts.forall₂.imp ?_⟩
  rintro _ t ⟨history, ht⟩ env path rfl
  exact isWhole_of_takes ht

section

private def htpasswdUsers : IdentityProvider where
  kind := "HTPasswdPasswordIdentityProvider"
  mappingMethod := "claim"
  name := "users"
  payload := Utf8.encode "\x7b\"file\":\"/users\"\x7d"
  challenge := false
  login := false

private def usersMaster : Bytes := Utf8.encode
  "oauthConfig: \x7bidentityProviders: [\x7bname: users, mappingMethod: claim, provider:
    \x7bkind: HTPasswdPasswordIdentityProvider, file: /users\x7d\x7d]\x7d"

private def masterAndUsers : Files := fun path =>
  match path with
  | "/master" => .ok usersMaster
  | "/users" => .ok [0]
  | _ => .error (.unreadable path "no such file")

private def takingAll : Sink := fun _ _ => .ok ()

private def alone (options : OutputOptions) : List Delivery :=
  (record masterAndUsers takingAll options [oauth (fun _ => none) "/master"]).2.deliveries

theorem whole_of_htpasswd :
    IdentityProvider.validate [htpasswdUsers] = .ok () ∧
      (∃ o, (OAuthPackage.ofProviders [htpasswdUsers] none {}).2 = .ok o) ∧
      ∃ d o, (gather (fun _ => none) "/master").result masterAndUsers = .ok d ∧
        (OAuthPackage.ofProviders d.providers d.tokenConfig d.templates).2 = .ok o ∧
        HandsOver d o (alone {}) := by
  have hvalidate : IdentityProvider.validate [htpasswdUsers] = .ok () := by decide +kernel
  obtain ⟨hproviders, ts, _, hrecord, hwhole⟩ :=
    run_whole masterAndUsers takingAll {} [oauth (fun _ => none) "/master"]
  refine ⟨hvalidate, (hproviders [htpasswdUsers] none {}).1 hvalidate, ?_⟩
  cases hwhole with
  | @cons _ t _ _ hwhole hnil =>
      cases hnil
      have halone : alone {} = t.calls := by
        rw [alone, hrecord]
        simp
      rw [halone]
      rcases ((hwhole _ _ rfl).2 fun _ _ => rfl).1 rfl with hnone | hpackage
      · have hne : alone {} ≠ [] := by decide +kernel
        exact absurd (halone.trans hnone) hne
      · exact hpackage

/-- Where manifests are not wanted, the report is handed over without the package. -/
theorem report_without_package :
    ¬ ∀ (files : Files) (sink : Sink) (options : OutputOptions) (env : Environment)
      (path : String), (∀ history d, sink history d = .ok ()) →
      let calls := (record files sink options [oauth env path]).2.deliveries
      calls = [] ∨ ∃ o : OAuthPackage, .manifest (.ofResource "oauth" o.resource) ∈ calls := by
  intro h
  have hcalls : alone { manifests := false } =
      [.report ⟨"OAuth", [.carried "users" "HTPasswdPasswordIdentityProvider"]⟩] := by
    decide +kernel
  rcases h masterAndUsers takingAll { manifests := false } (fun _ => none) "/master"
    fun _ _ => rfl with hnone | ⟨o, ho⟩
  · rw [← alone, hcalls] at hnone
    cases hnone
  · rw [← alone, hcalls] at ho
    simp at ho

end

end Component.OAuth

end ClusterMigration
