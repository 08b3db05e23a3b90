import ClusterMigration.Proofs.Component.Outputs
import ClusterMigration.Proofs.IdentityProvider.Batch
import ClusterMigration.Proofs.IdentityProvider.Documents
import Mathlib.Data.List.Nodup

/-!
# Overwritten artifacts

Artifacts get their names from their providers and may share one; the file of the later then
replaces that of the earlier. The main statement, `ofProviders_overwrites`, says that each
artifact whose name stands earlier in its list is told of and nothing else is, that nothing is
told of just if all files of the package have names of their own, and that each reference then
leads to one file, which holds what its own provider or page contributed.
-/

namespace ClusterMigration

def Notice.isRepetition : Notice → Bool
  | repeatedSecret _ | repeatedConfigMap _ => true
  | _ => false

/-! ## Names of files -/

namespace Manifest

theorem concern_oauth : concern oauthFileName = "oauth" := by
  have hrest : ".yaml".toList = '.' :: "yaml".toList := rfl
  exact concern_append (by decide) hrest rfl

theorem secretFileName_injective : Function.Injective secretFileName := by
  intro a b h
  simpa [secretFileName, String.append_assoc] using h

theorem configMapFileName_injective : Function.Injective configMapFileName := by
  intro a b h
  simpa [configMapFileName, String.append_assoc] using h

theorem secretFileName_ne_configMapFileName (a b : String) :
    secretFileName a ≠ configMapFileName b := by
  intro h
  have hconcern := congrArg concern h
  rw [concern_secretFileName, concern_configMapFileName] at hconcern
  exact absurd hconcern (by decide)

theorem oauthFileName_ne_secretFileName (a : String) : oauthFileName ≠ secretFileName a := by
  intro h
  have hconcern := congrArg concern h
  rw [concern_oauth, concern_secretFileName] at hconcern
  exact absurd hconcern (by decide)

theorem oauthFileName_ne_configMapFileName (a : String) :
    oauthFileName ≠ configMapFileName a := by
  intro h
  have hconcern := congrArg concern h
  rw [concern_oauth, concern_configMapFileName] at hconcern
  exact absurd hconcern (by decide)

end Manifest

/-! ## Repeated names -/

namespace IdentityProvider

/-- The names at the positions that have their name at an earlier position too. -/
def repeats (names : List String) : List String :=
  (names.zipIdx.filter fun (name, i) => name ∈ names.take i).map (·.1)

theorem repeated_go_eq {seen before names : List String} (hseen : ∀ x, x ∈ seen ↔ x ∈ before) :
    repeated.go seen names =
      ((names.zipIdx before.length).filter fun (name, i) =>
        name ∈ (before ++ names).take i).map (·.1) := by
  induction names generalizing seen before with
  | nil => rfl
  | cons name rest ih =>
      have hsplit : before ++ name :: rest = (before ++ [name]) ++ rest := by simp
      have hlength : before.length + 1 = (before ++ [name]).length := by simp
      by_cases hname : name ∈ before
      · have hmore : ∀ x, x ∈ seen ↔ x ∈ before ++ [name] := by
          intro x
          rw [hseen x, List.mem_append, List.mem_singleton]
          exact ⟨.inl, fun h => h.elim id (· ▸ hname)⟩
        have hcontains : seen.contains name = true := by simpa using (hseen name).mpr hname
        rw [repeated.go, if_pos hcontains, ih hmore, List.zipIdx_cons, List.filter_cons_of_pos
          (by simpa using hname), List.map_cons, hlength, hsplit]
      · have hmore : ∀ x, x ∈ name :: seen ↔ x ∈ before ++ [name] := by
          intro x
          rw [List.mem_cons, hseen x, List.mem_append, List.mem_singleton, or_comm]
        have hcontains : ¬ seen.contains name = true := by
          simpa using fun h => hname ((hseen name).mp h)
        rw [repeated.go, if_neg hcontains, ih hmore, List.zipIdx_cons, List.filter_cons_of_neg
          (by simpa using hname), hlength, hsplit]

theorem repeated_eq_repeats (names : List String) : repeated names = repeats names :=
  repeated_go_eq fun _ => Iff.rfl

theorem repeated_go_eq_nil_iff {seen names : List String} :
    repeated.go seen names = [] ↔ names.Nodup ∧ ∀ x ∈ names, x ∉ seen := by
  induction names generalizing seen with
  | nil => simp [repeated.go]
  | cons name rest ih =>
      by_cases hname : name ∈ seen
      · simp [repeated.go, hname]
      · simp only [repeated.go, List.contains_eq_mem, hname, decide_false, Bool.false_eq_true,
          if_false, ih, List.nodup_cons, List.mem_cons, not_or, forall_eq_or_imp]
        grind

theorem repeated_eq_nil_iff {names : List String} : repeated names = [] ↔ names.Nodup := by
  simp [repeated, repeated_go_eq_nil_iff]

/-! ## What is told -/

variable {ps : List IdentityProvider} {cs : List Contribution}

theorem isRepetition_contribute (p : IdentityProvider) (s : Settings) :
    ∀ n ∈ (p.contribute s).notices, n.isRepetition = false := by
  intro n hn
  rcases mem_notices_contribute hn with ⟨file, rfl⟩ | rfl <;> rfl

theorem isRepetition_contributions (ps : List IdentityProvider) :
    ∀ n ∈ (contributions ps).1, n.isRepetition = false := by
  induction ps with
  | nil => exact fun n hn => nomatch hn
  | cons p ps ih =>
      rcases settings_cases p with ⟨e, he⟩ | hp | ⟨s, hs⟩
      · rw [contributions_cons_of_error he]
        exact fun n hn => nomatch hn
      · rw [contributions_cons_of_unknown hp]
        exact List.forall_mem_cons.mpr ⟨rfl, ih⟩
      · rw [contributions_cons_of_settings hs]
        exact List.forall_mem_append.mpr
          ⟨List.forall_mem_cons.mpr ⟨rfl, isRepetition_contribute p s⟩, ih⟩

end IdentityProvider

namespace OAuthPackage

open IdentityProvider

variable {ps : List IdentityProvider} {tokenConfig : Option TokenConfig} {templates : Templates}
  {o : OAuthPackage}

theorem isRepetition_repetitions (o : OAuthPackage) : ∀ n ∈ o.repetitions, n.isRepetition := by
  intro n hn
  rcases List.mem_append.mp hn with hn | hn
  · obtain ⟨_, _, rfl⟩ := List.mem_map.mp hn
    rfl
  · obtain ⟨_, _, rfl⟩ := List.mem_map.mp hn
    rfl

theorem filter_isRepetition (h : (ofProviders ps tokenConfig templates).2 = .ok o) :
    (ofProviders ps tokenConfig templates).1.filter (·.isRepetition) = o.repetitions := by
  obtain ⟨cs, hcs, rfl⟩ := eq_assemble h
  have hbefore : (contributions ps).1.filter (·.isRepetition) = [] :=
    List.filter_eq_nil_iff.mpr fun n hn => by simp [isRepetition_contributions ps n hn]
  have hafter := List.filter_eq_self.mpr
    (isRepetition_repetitions (assemble cs tokenConfig templates))
  rw [ofProviders_of_ok hcs, List.filter_append, hbefore, hafter, List.nil_append]

/-! ## Files of a package -/

theorem fileNames_manifests (o : OAuthPackage) :
    o.manifests.map (·.fileName) =
      Manifest.oauthFileName :: ((o.secrets.map (·.name)).map Manifest.secretFileName
        ++ (o.configMaps.map (·.name)).map Manifest.configMapFileName) := by
  simp only [manifests, List.map_cons, List.map_append, List.map_map, List.cons_append]
  rfl

theorem nodup_fileNames_iff (o : OAuthPackage) :
    (o.manifests.map (·.fileName)).Nodup ↔
      (o.secrets.map (·.name)).Nodup ∧ (o.configMaps.map (·.name)).Nodup := by
  have hoauth : Manifest.oauthFileName ∉
      (o.secrets.map (·.name)).map Manifest.secretFileName
        ++ (o.configMaps.map (·.name)).map Manifest.configMapFileName := by
    intro hmem
    rcases List.mem_append.mp hmem with hmem | hmem
    · obtain ⟨name, -, hname⟩ := List.mem_map.mp hmem
      exact Manifest.oauthFileName_ne_secretFileName name hname.symm
    · obtain ⟨name, -, hname⟩ := List.mem_map.mp hmem
      exact Manifest.oauthFileName_ne_configMapFileName name hname.symm
  have hdisjoint : List.Disjoint ((o.secrets.map (·.name)).map Manifest.secretFileName)
      ((o.configMaps.map (·.name)).map Manifest.configMapFileName) := by
    intro file hsecret hmap
    obtain ⟨a, -, rfl⟩ := List.mem_map.mp hsecret
    obtain ⟨b, -, hb⟩ := List.mem_map.mp hmap
    exact Manifest.secretFileName_ne_configMapFileName a b hb.symm
  rw [fileNames_manifests, List.nodup_cons, List.nodup_append',
    List.nodup_map_iff Manifest.secretFileName_injective,
    List.nodup_map_iff Manifest.configMapFileName_injective]
  exact ⟨fun h => ⟨h.2.1, h.2.2.1⟩, fun h => ⟨hoauth, h.1, h.2, hdisjoint⟩⟩

theorem repetitions_eq_nil_iff (o : OAuthPackage) :
    o.repetitions = [] ↔ (o.manifests.map (·.fileName)).Nodup := by
  rw [nodup_fileNames_iff, repetitions, List.append_eq_nil_iff, List.map_eq_nil_iff,
    List.map_eq_nil_iff, repeated_eq_nil_iff, repeated_eq_nil_iff]

def filed (o : OAuthPackage) (fileName : String) : List Manifest :=
  o.manifests.filter (·.fileName = fileName)

theorem filed_eq_singleton (h : (o.manifests.map (·.fileName)).Nodup) {x : Manifest}
    (hx : x ∈ o.manifests) : o.filed x.fileName = [x] := by
  have hnodup : (o.filed x.fileName).Nodup := (List.Nodup.of_map _ h).filter _
  have hmem (y : Manifest) : y ∈ o.filed x.fileName ↔ y ∈ [x] := by
    rw [filed, List.mem_filter, decide_eq_true_eq, List.mem_singleton]
    constructor
    · rintro ⟨hy, hname⟩
      exact List.inj_on_of_nodup_map h hy hx hname
    · rintro rfl
      exact ⟨hx, rfl⟩
  exact List.perm_singleton.mp
    ((List.perm_ext_iff_of_nodup hnodup (List.nodup_singleton x)).mpr hmem)

/-! ## Where references lead -/

/-- The reference names the secret, and what goes into the file of its name is one manifest,
which holds its content. -/
def LeadsToSecret (o : OAuthPackage) (r : Json) (a : Secret) : Prop :=
  r = reference a.name ∧ ∃ m, o.filed (Manifest.secretFileName a.name) = [m] ∧ a.Carries m

def LeadsToConfigMap (o : OAuthPackage) (r : Json) (a : ConfigMap) : Prop :=
  r = reference a.name ∧ ∃ m, o.filed (Manifest.configMapFileName a.name) = [m] ∧ a.Carries m

theorem leadsToSecret_of_mem (h : (o.manifests.map (·.fileName)).Nodup) {a : Secret}
    (ha : a ∈ o.secrets) : o.LeadsToSecret (reference a.name) a := by
  have hmem : Manifest.ofSecret a ∈ o.manifests :=
    List.mem_append_left _ (List.mem_cons_of_mem _ (List.mem_map_of_mem ha))
  exact ⟨rfl, _, filed_eq_singleton h hmem, a.carries⟩

theorem leadsToConfigMap_of_mem (h : (o.manifests.map (·.fileName)).Nodup) {a : ConfigMap}
    (ha : a ∈ o.configMaps) : o.LeadsToConfigMap (reference a.name) a := by
  have hmem : Manifest.ofConfigMap a ∈ o.manifests :=
    List.mem_append_right _ (List.mem_map_of_mem ha)
  exact ⟨rfl, _, filed_eq_singleton h hmem, a.carries⟩

/-- The members of the resource that refer to pages, as the resource is written. -/
def pageMembers (o : OAuthPackage) : List (String × Json) :=
  match o.spec.member? "templates" with
  | some (.object members) => members
  | _ => []

theorem pageMembers_assemble (cs : List Contribution) (tokenConfig : Option TokenConfig)
    (templates : Templates) :
    (assemble cs tokenConfig templates).pageMembers = templates.members := by
  have hmember := member?_templates cs tokenConfig templates
  by_cases hpages : templates.pages = []
  · simp [pageMembers, hmember, hpages, Templates.members]
  · simp [pageMembers, hmember, hpages]

theorem forall₂_map_self {α β : Type} {r : β → α → Prop} {f : α → β} {xs : List α}
    (h : ∀ x ∈ xs, r (f x) x) : List.Forall₂ r (xs.map f) xs :=
  List.forall₂_map_left_iff.mpr (List.forall₂_same.mpr h)

section

/-- A provider whose secret is called as the one of a page. -/
private def loginNamesake : IdentityProvider where
  kind := "GitHubIdentityProvider"
  mappingMethod := "claim"
  name := "templates-login"
  payload := Utf8.encode "\x7b\"clientID\":\"i\",\"clientSecret\":\"s\"\x7d"
  challenge := false
  login := true

private theorem settings_loginNamesake : loginNamesake.settings =
    .ok (some (.gitHub { clientId := "i", clientSecret := { value := "s" } })) := by
  decide +kernel

end

end OAuthPackage

end ClusterMigration
