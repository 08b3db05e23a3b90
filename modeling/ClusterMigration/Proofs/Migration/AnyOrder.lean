import ClusterMigration.Proofs.Component.AllOrNothing
import ClusterMigration.Proofs.Component.Lockstep
import ClusterMigration.Proofs.Component.Outputs
import Mathlib.Data.List.Perm.Subperm

/-!
# Components in any order

Components share nothing but the files that they read, and no two of them write a file of the
same name. So where nothing is refused, it does not matter in which order they have their
turns, nor what the files hold that a component does not ask for. The main statement is
`record_in_any_order`.
-/

namespace ClusterMigration

namespace Migration

variable {files files' : Files} {sink : Sink} {options : OutputOptions}
  {history : List Delivery} {c : Component} {t : Turn}

theorem Takes.of_outcome (h : Takes files sink options history c t)
    (hfiles : c.extract.outcome files' = c.extract.outcome files) :
    Takes files' sink options history c t := by
  have hresult : c.extract.result files' = c.extract.result files := congrArg Prod.snd hfiles
  cases h with
  | unextracted he =>
      rw [← hfiles]
      exact .unextracted (hresult.trans he)
  | invalid hx he =>
      rw [← hfiles]
      exact .invalid (hresult.trans hx) he
  | untransformed hx hv he =>
      rw [← hfiles]
      exact .untransformed (hresult.trans hx) hv he
  | refused hx hv ho he =>
      rw [← hfiles]
      exact .refused (hresult.trans hx) hv ho he
  | flushed hx hv ho hd =>
      rw [← hfiles]
      exact .flushed (hresult.trans hx) hv ho hd

/-! ## What is left behind -/

def contentOf? (fileName : String) : Delivery → Option Bytes
  | .manifest x => if x.fileName = fileName then some x.content else none
  | .report _ => none

/-- What the file of a name holds after all deliveries. -/
def leftBehind (calls : List Delivery) (fileName : String) : Option Bytes :=
  calls.reverse.findSome? (contentOf? fileName)

theorem leftBehind_append (calls more : List Delivery) (fileName : String) :
    leftBehind (calls ++ more) fileName =
      (leftBehind more fileName).or (leftBehind calls fileName) := by
  rw [leftBehind, List.reverse_append, List.findSome?_append]
  rfl

def fileNames (calls : List Delivery) : List String :=
  calls.filterMap fun
    | .manifest x => some x.fileName
    | .report _ => none

theorem mem_fileNames {calls : List Delivery} {name : String} :
    name ∈ fileNames calls ↔ ∃ x, .manifest x ∈ calls ∧ x.fileName = name := by
  rw [fileNames, List.mem_filterMap]
  constructor
  · rintro ⟨d, hd, hname⟩
    cases d with
    | manifest x => exact ⟨x, hd, Option.some.inj hname⟩
    | report r => cases hname
  · rintro ⟨x, hx, rfl⟩
    exact ⟨.manifest x, hx, rfl⟩

theorem leftBehind_of_not_mem {calls : List Delivery} {name : String}
    (h : name ∉ fileNames calls) : leftBehind calls name = none := by
  rw [leftBehind, List.findSome?_eq_none_iff]
  intro d hd
  cases d with
  | report r => rfl
  | manifest x =>
      have hne : x.fileName ≠ name := fun heq =>
        h (mem_fileNames.mpr ⟨x, List.mem_reverse.mp hd, heq⟩)
      exact if_neg hne

def Apart (calls calls' : List Delivery) : Prop := ∀ name ∈ fileNames calls, name ∉ fileNames calls'

theorem Apart.symm {calls calls' : List Delivery} (h : Apart calls calls') : Apart calls' calls :=
  fun name hname hname' => h name hname' hname

theorem Apart.leftBehind {calls calls' : List Delivery} (h : Apart calls calls') (name : String) :
    leftBehind calls name = none ∨ leftBehind calls' name = none := by
  by_cases hname : name ∈ fileNames calls
  · exact .inr (leftBehind_of_not_mem (h name hname))
  · exact .inl (leftBehind_of_not_mem hname)

/-- Calls that write different files may change places. -/
theorem leftBehind_flatten_perm {blocks blocks' : List (List Delivery)}
    (hperm : blocks.Perm blocks') (happart : blocks.Pairwise Apart) (name : String) :
    leftBehind blocks.flatten name = leftBehind blocks'.flatten name := by
  induction hperm with
  | nil => rfl
  | cons b _ ih =>
      rw [List.flatten_cons, List.flatten_cons, leftBehind_append, leftBehind_append,
        ih (List.Pairwise.of_cons happart)]
  | swap b b' rest =>
      have hbb : Apart b' b := List.rel_of_pairwise_cons happart (List.mem_cons_self ..)
      simp only [List.flatten_cons, leftBehind_append]
      rcases hbb.leftBehind name with hnone | hnone
      · simp [hnone]
      · simp [hnone]
  | trans hperm _ ih ih' =>
      have happart' := (hperm.pairwise_iff Apart.symm).mp happart
      exact (ih happart).trans (ih' happart')

/-! ## Turns -/

theorem Takes.owner? (hsink : ∀ history d, sink history d = .ok ()) (hc : c.AlwaysPutsOut)
    (h : Takes files sink options history c t) :
    ∀ name ∈ fileNames t.calls, Manifest.owner? name = some c.name := by
  intro name hname
  obtain ⟨x, hx, rfl⟩ := mem_fileNames.mp hname
  cases h with
  | unextracted | invalid | untransformed => cases hx
  | refused _ _ _ he => cases (he.all_of_willing hsink).2
  | flushed hresult hv ho hd =>
      obtain ⟨rfl, -⟩ := hd.all_of_willing hsink
      cases hc _ (Gather.yields_of_result hresult) hv _ ho with
      | intro hfiles _ =>
          rw [Component.OAuth.wanted_package, List.mem_append] at hx
          rcases hx with hx | hx
          · split at hx
            · obtain ⟨y, hy, heq⟩ := List.mem_map.mp hx
              obtain rfl := Delivery.manifest.inj heq
              exact hfiles y hy
            · cases hx
          · split at hx
            · cases List.mem_singleton.mp hx
            · cases hx

theorem Takes.alone (hsink : ∀ history d, sink history d = .ok ())
    (h : Takes files sink options history c t)
    (hfiles : ∀ path ∈ c.extract.asked files, files' path = files path) :
    record files' sink options [c] = ([t.entry], ⟨t.calls, t.told⟩) := by
  have hforgetful : ∀ history history' d, sink history d = sink history' d := fun _ _ _ => by
    rw [hsink, hsink]
  have ht := (h.of_forgetful hforgetful []).of_outcome (Gather.outcome_of_asked hfiles)
  simpa using record_eq (.cons ht .nil)

theorem nodup_names {env : Environment} {paths : SourcePaths} {cs : List Component}
    (hcs : cs.Subperm (Component.all env paths)) : (cs.map (·.name)).Nodup := by
  have hall : ((Component.all env paths).map (·.name)).Nodup := by
    have hnames : (Component.all env paths).map (·.name) =
        ["OAuth", "SDN", "Image", "Registries", "Project", "Scheduler", "Crio"] := rfl
    rw [hnames]
    decide
  obtain ⟨ds, hperm, hsub⟩ := hcs
  have hds : (ds.map (·.name)).Nodup := hall.sublist (hsub.map _)
  exact (hperm.map _).nodup_iff.mp hds

theorem pairwise_apart {env : Environment} {paths : SourcePaths} {cs : List Component}
    (hsink : ∀ history d, sink history d = .ok ()) (hall : cs ⊆ Component.all env paths)
    (hnodup : (cs.map (·.name)).Nodup) {ts : List Turn}
    (hts : List.Forall₂ (fun c t => ∃ history, Takes files sink options history c t) cs ts) :
    (ts.map (·.calls)).Pairwise Apart := by
  have howner (c : Component) (hc : c ∈ cs) {t : Turn}
      (ht : ∃ history, Takes files sink options history c t) :
      ∀ name ∈ fileNames t.calls, Manifest.owner? name = some c.name := by
    obtain ⟨history, ht⟩ := ht
    exact ht.owner? hsink (Component.putsOut_of_mem_all (hall hc))
  induction hts with
  | nil => exact .nil
  | @cons c t cs ts ht hts ih =>
      obtain ⟨hc, hcs⟩ := List.nodup_cons.mp hnodup
      refine .cons ?_ (ih (fun x hx => hall (List.mem_cons_of_mem _ hx)) hcs
        fun x hx => howner x (List.mem_cons_of_mem _ hx))
      intro calls hcalls name hname hname'
      obtain ⟨t', ht', rfl⟩ := List.mem_map.mp hcalls
      obtain ⟨c', hc', htakes⟩ := Component.OAuth.exists_of_forall₂ hts.flip ht'
      have hown := howner c (List.mem_cons_self ..) ht name hname
      have hown' := howner c' (List.mem_cons_of_mem _ hc') htakes name hname'
      have hnames : c.name = c'.name := Option.some.inj (hown.symm.trans hown')
      exact hc (List.mem_map.mpr ⟨c', hc', hnames.symm⟩)

/-- Where nothing is refused, every component ends and makes its calls as it does alone, also
where only the files are the same that it asks for. No two write a file of the same name, so
that the files hold the same in the end, in whatever order the components have had their
turns. -/
theorem record_in_any_order (files : Files) {sink : Sink} (options : OutputOptions)
    (env : Environment) (paths : SourcePaths) (hsink : ∀ history d, sink history d = .ok ())
    {cs : List Component} (hcs : cs.Subperm (Component.all env paths)) :
    (∃ ts : List Turn,
      record files sink options cs =
        (ts.map (·.entry), ⟨ts.flatMap (·.calls), ts.flatMap (·.told)⟩) ∧
      List.Forall₂ (fun c t => ∀ files' : Files,
        (∀ path ∈ c.extract.asked files, files' path = files path) →
          record files' sink options [c] = ([t.entry], ⟨t.calls, t.told⟩)) cs ts ∧
      (ts.map (·.calls)).Pairwise Apart) ∧
    ∀ cs', cs'.Perm cs → ∀ name,
      leftBehind (record files sink options cs').2.deliveries name =
        leftBehind (record files sink options cs).2.deliveries name := by
  obtain ⟨ts, hts, hrecord⟩ := exists_turns files sink options cs
  have hforgetful : ∀ history history' d, sink history d = sink history' d := fun _ _ _ => by
    rw [hsink, hsink]
  have happart : (ts.map (·.calls)).Pairwise Apart :=
    pairwise_apart hsink (List.Subperm.subset hcs) (nodup_names hcs) hts.forall₂
  refine ⟨⟨ts, hrecord, ?_, happart⟩, ?_⟩
  · refine hts.forall₂.imp ?_
    rintro c t ⟨history, ht⟩ files' hfiles
    exact ht.alone hsink hfiles
  · intro cs' hperm name
    have hblocks (cs : List Component) : (record files sink options cs).2.deliveries =
        (cs.map fun c => (record files sink options [c]).2.deliveries).flatten := by
      obtain ⟨ts, hts, hrecord⟩ := exists_turns files sink options cs
      rw [hrecord, ← List.flatMap_def]
      exact (hts.eq_alone hforgetful).2
    have hcalls : ts.map (·.calls) =
        cs.map fun c => (record files sink options [c]).2.deliveries := by
      rw [← List.forall₂_eq_eq_eq, List.forall₂_map_left_iff, List.forall₂_map_right_iff]
      refine hts.forall₂.flip.imp ?_
      rintro t c ⟨history, ht⟩
      rw [ht.alone hsink fun _ _ => rfl]
    rw [hblocks cs', hblocks cs]
    refine (leftBehind_flatten_perm (hperm.symm.map _) ?_ name).symm
    rw [← hcalls]
    exact happart

section

/-- A configuration of a network and of a provider that is called like the network's file. -/
private def networkMaster : Bytes := Utf8.encode (
  "networkConfig: \x7bclusterNetworks: [\x7bcidr: 10.128.0.0/14\x7d],
    networkPluginName: redhat/openshift-ovs-subnet, serviceNetworkCIDR: 172.30.0.0/16\x7d\n" ++
  "oauthConfig: \x7bidentityProviders: [\x7bname: sdn, mappingMethod: claim, provider:
    \x7bkind: GitHubIdentityProvider, clientID: id, clientSecret: s\x7d\x7d]\x7d\n")

private def networkFiles : Files := fun path =>
  if path = "/master" then .ok networkMaster else .error (.unreadable path "no such file")

private def sdnThenOauth : List Component :=
  [.sdn "/master", .oauth (fun _ => none) "/master"]

private def accepting : Sink := fun _ _ => .ok ()

theorem record_of_sdnThenOauth :
    (∀ history d, accepting history d = .ok ()) ∧
      sdnThenOauth.Subperm (Component.all (fun _ => none) ⟨"/master", "", ""⟩) ∧
      fileNames (record networkFiles accepting {} sdnThenOauth).2.deliveries =
        ["100_CPMA-cluster-config-sdn.yaml", "100_CPMA-cluster-config-oauth.yaml",
          "100_CPMA-cluster-config-secret-sdn-secret.yaml"] ∧
      ∀ name, leftBehind (record networkFiles accepting {} sdnThenOauth.reverse).2.deliveries name =
        leftBehind (record networkFiles accepting {} sdnThenOauth).2.deliveries name := by
  have haccepting : ∀ history d, accepting history d = .ok () := fun _ _ => rfl
  have hsub : sdnThenOauth.Subperm (Component.all (fun _ => none) ⟨"/master", "", ""⟩) :=
    ⟨_, .swap _ _ _, .cons_cons _ (.cons_cons _ (List.nil_sublist _))⟩
  refine ⟨haccepting, hsub, by decide +kernel, ?_⟩
  exact (record_in_any_order networkFiles {} _ _ haccepting hsub).2 _
    (List.reverse_perm sdnThenOauth)

end

end Migration

end ClusterMigration
