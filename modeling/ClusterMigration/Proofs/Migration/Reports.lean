import ClusterMigration.Proofs.Component.Outputs
import ClusterMigration.Proofs.Migration.Script
import Mathlib.Data.List.Nodup

/-!
# Reports of a migration

A component hands over its report behind its manifests, so a report that has been handed over
says that nothing was refused before it. If reports are never refused, then they come from just
the components that are flushed. The main statement is `reports_of_watch`.
-/

namespace ClusterMigration

namespace Migration

def reports (session : Session) : List Report :=
  session.filterMap fun
    | .handed (.report r) _ => some r
    | _ => none

/-- Whatever is answered to a manifest, a report is taken. -/
def TakesReports (session : Session) : Prop :=
  ∀ r answer, Exchange.handed (.report r) answer ∈ session → answer = .ok ()

def flushed (summary : Summary) : List String :=
  (summary.filter fun entry => !entry.2.isSkipped).map (·.1)

/-- What the reports of a session are like: one under the name of each flushed component, if
reports are wanted. -/
structure Reported (options : OutputOptions) (summary : Summary) (session : Session) : Prop where
  names : (reports session).map (·.component) = if options.reporting then flushed summary else []
  honest : ∀ r ∈ reports session, ∀ row ∈ r.rows, row.IsHonest

variable {options : OutputOptions} {summary summary' : Summary} {session session' : Session}

theorem reports_append (session session' : Session) :
    reports (session ++ session') = reports session ++ reports session' :=
  List.filterMap_append

theorem flushed_append (summary summary' : Summary) :
    flushed (summary ++ summary') = flushed summary ++ flushed summary' := by
  simp [flushed]

theorem not_mem_flushed {name : String} {stage : Stage} {reason : String}
    (hnodup : (summary.map (·.1)).Nodup) (h : (name, Outcome.skipped stage reason) ∈ summary) :
    name ∉ flushed summary := by
  intro hname
  obtain ⟨entry, hentry, rfl⟩ := List.mem_map.mp hname
  obtain ⟨hmem, hflushed⟩ := List.mem_filter.mp hentry
  have heq : entry = (entry.1, .skipped stage reason) :=
    List.inj_on_of_nodup_map hnodup hmem h rfl
  rw [heq] at hflushed
  cases hflushed

theorem Reported.append (h : Reported options summary session)
    (h' : Reported options summary' session') :
    Reported options (summary ++ summary') (session ++ session') where
  names := by
    rw [reports_append, List.map_append, h.names, h'.names, flushed_append]
    split <;> rfl
  honest r hr := by
    rw [reports_append, List.mem_append] at hr
    exact hr.elim (h.honest r) (h'.honest r)

theorem Reported.of_skipped {name : String} {stage : Stage} {reason : String}
    (h : reports session = []) : Reported options [(name, .skipped stage reason)] session where
  names := by simp [h, flushed, Outcome.isSkipped]
  honest r hr := by simp [h] at hr

theorem TakesReports.left (h : TakesReports (session ++ session')) : TakesReports session :=
  fun r answer hr => h r answer (List.mem_append_left _ hr)

theorem TakesReports.right (h : TakesReports (session ++ session')) : TakesReports session' :=
  fun r answer hr => h r answer (List.mem_append_right _ hr)

theorem TakesReports.tail {x : Exchange} (h : TakesReports (x :: session)) :
    TakesReports session := fun r answer hr => h r answer (List.mem_cons_of_mem _ hr)

theorem Answers.takesReports {σ : Type} {h : Host (StateM σ)}
    (hreport : ∀ r s, ((h.deliver (.report r)).run s).1 = .ok ()) {s s' : σ}
    (hanswers : Answers h s session s') : TakesReports session := by
  intro r answer hr
  induction hanswers with
  | nil s => cases hr
  | asked _ _ ih => exact ih (by simpa using hr)
  | told _ _ ih => exact ih (by simpa using hr)
  | handed hanswer _ ih =>
      rcases List.mem_cons.mp hr with heq | hr
      · cases heq
        rw [← hreport r _, hanswer]
      · exact ih hr

theorem Reported.nil : Reported options [] [] where
  names := by simp [reports, flushed]
  honest := nofun

theorem reported_congr (h : reports session = reports session') :
    Reported options summary session ↔ Reported options summary session' := by
  constructor <;> rintro ⟨hnames, hhonest⟩
  · exact ⟨h ▸ hnames, h ▸ hhonest⟩
  · exact ⟨h ▸ hnames, h ▸ hhonest⟩

theorem reported_append_of_nil (h : reports session = []) :
    Reported options summary (session ++ session') ↔ Reported options summary session' :=
  reported_congr (by rw [reports_append, h, List.nil_append])

theorem reported_told {n : Notice} :
    Reported options summary (.told n :: session) ↔ Reported options summary session :=
  reported_congr rfl

theorem Reported.of_flushed {name : String} {rows : List Report.Row}
    (hrows : ∀ row ∈ rows, row.IsHonest)
    (h : reports session = if options.reporting then [⟨name, rows⟩] else []) :
    Reported options [(name, .flushed)] session where
  names := by
    rw [h]
    split <;> rfl
  honest r hr := by
    rw [h] at hr
    split at hr
    · obtain rfl := List.mem_singleton.mp hr
      exact hrows
    · cases hr

/-! ## What passes on the way to a report -/

open Script (host)

theorem reports_perform {α : Type} {g : Gather α} {result : Except Failure α}
    (h : (g.perform host.fetch host.heed).Ends session result) :
    reports session = [] ∧ ∀ x, result = .ok x → g.Yields x := by
  induction g generalizing session with
  | done a =>
      obtain ⟨rfl, rfl⟩ := Script.ends_pure.mp h
      refine ⟨rfl, fun x hx => ?_⟩
      cases hx
      exact .done a
  | fail e =>
      obtain ⟨rfl, rfl⟩ := Script.ends_pure.mp h
      refine ⟨rfl, fun x hx => ?_⟩
      cases hx
  | fetch path next ih =>
      rw [Gather.perform, Script.ends_fetch] at h
      obtain ⟨answer, session, rfl, h⟩ := h
      cases answer with
      | ok content =>
          obtain ⟨hreports, hyields⟩ := ih content h
          exact ⟨hreports, fun x hx => .fetch path (hyields x hx)⟩
      | error e =>
          obtain ⟨rfl, rfl⟩ := Script.ends_pure.mp h
          refine ⟨rfl, fun x hx => ?_⟩
          cases hx
  | note n next ih =>
      rw [Gather.perform, Script.ends_heed] at h
      obtain ⟨session, rfl, h⟩ := h
      obtain ⟨hreports, hyields⟩ := ih h
      exact ⟨hreports, fun x hx => .note n (hyields x hx)⟩

theorem reports_heedAll {ns : List Notice} (h : (heedAll host ns).Ends session ()) :
    reports session = [] := by
  induction ns generalizing session with
  | nil =>
      obtain ⟨rfl, -⟩ := Script.ends_pure.mp h
      rfl
  | cons n ns ih =>
      rw [heedAll, Script.ends_heed] at h
      obtain ⟨session, rfl, h⟩ := h
      have hrest : reports session = [] := ih h
      exact hrest

theorem reports_deliverManifests {ms : List Manifest} {answer : Except DeliveryError Unit}
    (h : (deliverManifests host ms).Ends session answer) : reports session = [] := by
  induction ms generalizing session with
  | nil =>
      obtain ⟨rfl, -⟩ := Script.ends_pure.mp h
      rfl
  | cons x ms ih =>
      rw [deliverManifests, Script.ends_deliver] at h
      obtain ⟨accepted, session, rfl, h⟩ := h
      have hrest : reports session = [] := by
        cases accepted with
        | ok _ => exact ih h
        | error e =>
            obtain ⟨rfl, -⟩ := Script.ends_pure.mp h
            rfl
      exact hrest

theorem reports_deliverReport {r : Report} {answer : Except DeliveryError Unit}
    (h : (deliverOutputs host options [.report r]).Ends session answer)
    (htakes : TakesReports session) :
    answer = .ok () ∧ reports session = if options.reporting then [r] else [] := by
  rw [deliverOutputs, Output.isWanted] at h
  cases hwanted : options.reporting with
  | true =>
      rw [if_pos hwanted, deliverOutput, Script.ends_deliver] at h
      obtain ⟨accepted, session, rfl, h⟩ := h
      obtain rfl := htakes r accepted (List.mem_cons_self ..)
      obtain ⟨rfl, rfl⟩ := Script.ends_pure.mp h
      exact ⟨rfl, rfl⟩
  | false =>
      rw [if_neg (by simp [hwanted])] at h
      obtain ⟨rfl, rfl⟩ := Script.ends_pure.mp h
      exact ⟨rfl, rfl⟩

theorem reports_deliverOutputs {ms : List Manifest} {r : Report}
    {answer : Except DeliveryError Unit}
    (h : (deliverOutputs host options [.manifests ms, .report r]).Ends session answer)
    (htakes : TakesReports session) :
    match answer with
    | .ok () => reports session = if options.reporting then [r] else []
    | .error _ => reports session = [] := by
  rw [deliverOutputs] at h
  split at h
  · obtain ⟨first, rest, accepted, rfl, hfirst, hrest⟩ := h.exists_of_bind
    have hmanifests : reports first = [] := reports_deliverManifests hfirst
    cases accepted with
    | ok _ =>
        obtain ⟨rfl, hreport⟩ := reports_deliverReport hrest htakes.right
        rw [reports_append, hmanifests, List.nil_append, hreport]
    | error e =>
        obtain ⟨rfl, rfl⟩ := Script.ends_pure.mp hrest
        rw [reports_append, hmanifests]
        rfl
  · obtain ⟨rfl, hreport⟩ := reports_deliverReport h htakes
    exact hreport

/-! ## Components -/

theorem reported_runComponent {c : Component} {outcome : Outcome} (hc : c.AlwaysPutsOut)
    (h : (runComponent host options c).Ends session outcome) (htakes : TakesReports session) :
    Reported options [(c.name, outcome)] session := by
  rw [runComponent_eq] at h
  obtain ⟨gathered, rest, extracted, rfl, hgathered, h⟩ := h.exists_of_bind
  obtain ⟨hgathered, hyields⟩ := reports_perform hgathered
  rw [reported_append_of_nil hgathered]
  replace htakes := htakes.right
  cases extracted with
  | error e =>
      obtain ⟨rfl, rfl⟩ := Script.ends_pure.mp h
      exact .of_skipped rfl
  | ok x =>
      simp only at h
      cases hvalidate : x.validate with
      | error e =>
          rw [hvalidate] at h
          obtain ⟨rfl, rfl⟩ := Script.ends_pure.mp h
          exact .of_skipped rfl
      | ok _ =>
          rw [hvalidate] at h
          obtain ⟨told, rest, _, rfl, htold, h⟩ := h.exists_of_bind
          rw [reported_append_of_nil (reports_heedAll htold)]
          replace htakes := htakes.right
          cases houtputs : x.transform.2 with
          | error e =>
              rw [houtputs] at h
              obtain ⟨rfl, rfl⟩ := Script.ends_pure.mp h
              exact .of_skipped rfl
          | ok outputs =>
              rw [houtputs] at h
              obtain ⟨handed, rest, answer, rfl, hhanded, h⟩ := h.exists_of_bind
              cases hc x (hyields x rfl) hvalidate outputs houtputs with
              | @intro ms rows _ hrows =>
                  have hreports := reports_deliverOutputs hhanded htakes.left
                  cases answer with
                  | error e =>
                      obtain ⟨rfl, rfl⟩ := Script.ends_pure.mp h
                      exact .of_skipped (by rw [List.append_nil, hreports])
                  | ok _ =>
                      obtain ⟨rest, rfl, hend⟩ := Script.ends_heed.mp h
                      obtain ⟨rfl, rfl⟩ := Script.ends_pure.mp hend
                      refine .of_flushed hrows ?_
                      rw [reports_append, hreports]
                      exact List.append_nil _

theorem reported_run {cs : List Component} (hcs : ∀ c ∈ cs, c.AlwaysPutsOut)
    (h : (run host options cs).Ends session summary) (htakes : TakesReports session) :
    summary.map (·.1) = cs.map (·.name) ∧ Reported options summary session := by
  induction cs generalizing session summary with
  | nil =>
      obtain ⟨rfl, rfl⟩ := Script.ends_pure.mp h
      exact ⟨rfl, .nil⟩
  | cons c rest ih =>
      obtain ⟨hc, hrest⟩ := List.forall_mem_cons.mp hcs
      rw [run, Script.ends_heed] at h
      obtain ⟨session, rfl, h⟩ := h
      rw [reported_told]
      replace htakes := htakes.tail
      obtain ⟨turn, left, outcome, rfl, hturn, h⟩ := h.exists_of_bind
      have hturn := reported_runComponent hc hturn htakes.left
      replace htakes := htakes.right
      have hleft {session : Session} (htakes : TakesReports session)
          (h : (do
            let left ← run host options rest
            pure ((c.name, outcome) :: left)).Ends session summary) :
          ∃ left, summary = (c.name, outcome) :: left ∧ left.map (·.1) = rest.map (·.name) ∧
            Reported options left session := by
        obtain ⟨first, last, left, rfl, hfirst, h⟩ := h.exists_of_bind
        obtain ⟨rfl, rfl⟩ := Script.ends_pure.mp h
        rw [List.append_nil] at htakes ⊢
        exact ⟨left, rfl, ih hrest hfirst htakes⟩
      -- whether or not skipping is told, the rest goes the same way
      cases outcome with
      | flushed =>
          obtain ⟨summary, rfl, hnames, hreported⟩ := hleft htakes h
          exact ⟨congrArg _ hnames, hturn.append hreported⟩
      | skipped stage reason =>
          obtain ⟨left, rfl, hlast⟩ := Script.ends_heed.mp h
          obtain ⟨summary, rfl, hnames, hreported⟩ := hleft htakes.tail hlast
          exact ⟨congrArg _ hnames, hturn.append (reported_told.mpr hreported)⟩

/-- On a host that takes every report, whatever it does with manifests: the reports of a
migration of all components, in order, are those of the components that are flushed, if
reports are wanted, and there are none otherwise. Every row that says of a setting that it is
not supported says so by its confidence, and the other way round. -/
theorem reports_of_watch {σ : Type} {h : Host (StateM σ)}
    (hreport : ∀ r s, ((h.deliver (.report r)).run s).1 = .ok ()) (options : OutputOptions)
    (env : Environment) (paths : SourcePaths) (s : σ) {summary : Summary} {session : Session}
    {s' : σ} (hwatch : watch h options (Component.all env paths) s = (summary, session, s')) :
    summary.map (·.1) =
        ["OAuth", "SDN", "Image", "Registries", "Project", "Scheduler", "Crio"] ∧
      (reports session).map (·.component) =
        (if options.reporting then flushed summary else []) ∧
      (∀ name stage reason, (name, Outcome.skipped stage reason) ∈ summary →
        ∀ r ∈ reports session, r.component ≠ name) ∧
      ∀ r ∈ reports session, ∀ row ∈ r.rows,
        row.supported = false ↔ row.confidence = .unsupported := by
  obtain ⟨hends, hanswers⟩ := watch_eq_iff.mp hwatch
  obtain ⟨hnames, hreported⟩ := reported_run (fun c hc => Component.putsOut_of_mem_all hc) hends
    (hanswers.takesReports hreport)
  have hnames : summary.map (·.1) =
      ["OAuth", "SDN", "Image", "Registries", "Project", "Scheduler", "Crio"] := hnames
  refine ⟨hnames, hreported.names, ?_, hreported.honest⟩
  intro name stage reason hskipped r hr heq
  have hnodup : (summary.map (·.1)).Nodup := by
    rw [hnames]
    decide
  have hname : r.component ∈ flushed summary := by
    have hmem : r.component ∈ (reports session).map (·.component) :=
      List.mem_map_of_mem hr
    rw [hreported.names] at hmem
    split at hmem
    · exact hmem
    · cases hmem
  exact not_mem_flushed hnodup hskipped (heq ▸ hname)

section

private def selectorMaster : Bytes :=
  Utf8.encode "projectConfig: \x7bdefaultNodeSelector: zone=east\x7d\n"

/-- A host with a master configuration and nothing else, which refuses the manifest of the
project and takes all others. -/
private def refusingProject : Host (StateM Unit) where
  fetch path :=
    pure (if path = "/master" then .ok selectorMaster else .error (.unreadable path "no such file"))
  deliver
    | .manifest x =>
      pure (if x.fileName = Manifest.domainFileName "project" then
        .error (.notWritten x.fileName "no space") else .ok ())
    | .report _ => pure (.ok ())
  heed _ := pure ()

private def refusedRun : Summary × Session × Unit :=
  watch refusingProject {} (Component.all (fun _ => none) ⟨"/master", "/registries", "/crio"⟩) ()

theorem reports_of_refused_manifest :
    (∀ r s, ((refusingProject.deliver (.report r)).run s).1 = .ok ()) ∧
      refusedRun.1.outcomeOf? "Project" = some (.skippedBy .flush
        (.delivery (.notWritten (Manifest.domainFileName "project") "no space"))) ∧
      (reports refusedRun.2.1).map (·.component) = ["OAuth", "Scheduler"] ∧
      ∀ r ∈ reports refusedRun.2.1, ∀ row ∈ r.rows,
        row.supported = false ↔ row.confidence = .unsupported := by
  have htakes : ∀ r s, ((refusingProject.deliver (.report r)).run s).1 = .ok () := fun _ _ => rfl
  have hwatch : watch refusingProject {} (Component.all (fun _ => none)
      ⟨"/master", "/registries", "/crio"⟩) () =
        (refusedRun.1, refusedRun.2.1, refusedRun.2.2) := rfl
  obtain ⟨-, hnames, -, hhonest⟩ := reports_of_watch htakes {} _ _ () hwatch
  have hflushed : flushed refusedRun.1 = ["OAuth", "Scheduler"] := by decide +kernel
  exact ⟨htakes, by decide +kernel, hnames.trans hflushed, hhonest⟩

end

end Migration

end ClusterMigration
