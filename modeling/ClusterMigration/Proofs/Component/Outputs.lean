import ClusterMigration.Component.All
import ClusterMigration.Proofs.Component.Gather

/-!
# What components put out

A component that passes its own check puts out its manifests and behind them one report that
bears its name. The name of a manifest's file tells the component that it comes from, whatever
the artifacts are called that the configuration names. The main statement is
`putsOut_of_mem_all`.
-/

namespace ClusterMigration

/-! ## What a gathering may end with -/

namespace Gather

variable {α β : Type}

inductive Yields : Gather α → α → Prop
  | done (a : α) : Yields (done a) a
  | fetch (path : String) {next : Bytes → Gather α} {content : Bytes} {a : α}
      (h : Yields (next content) a) : Yields (fetch path next) a
  | note (n : Notice) {next : Gather α} {a : α} (h : Yields next a) : Yields (note n next) a

theorem Yields.exists_of_bind {g : Gather α} {f : α → Gather β} {b : β}
    (h : Yields (g >>= f) b) : ∃ a, Yields g a ∧ Yields (f a) b := by
  change Yields (g.bind f) b at h
  induction g with
  | done a => exact ⟨a, .done a, h⟩
  | fail e => cases h
  | fetch path next ih =>
      cases h with
      | fetch _ h =>
          obtain ⟨a, ha, hb⟩ := ih _ h
          exact ⟨a, .fetch path ha, hb⟩
  | note n next ih =>
      cases h with
      | note _ h =>
          obtain ⟨a, ha, hb⟩ := ih h
          exact ⟨a, .note n ha, hb⟩

theorem yields_of_result {files : Files} {g : Gather α} {a : α} (h : g.result files = .ok a) :
    Yields g a := by
  induction g with
  | done b =>
      cases h
      exact .done _
  | fail e => cases h
  | note n next ih => exact .note n (ih h)
  | fetch path next ih =>
      simp only [result, outcome] at h
      cases hfile : files path with
      | error e => simp [hfile] at h
      | ok content =>
          simp only [hfile] at h
          exact .fetch path (ih content h)

end Gather

/-! ## Whose a file is -/

namespace Manifest

/-- The word behind the start that the names of all files have. -/
def concern (fileName : String) : String :=
  String.ofList ((fileName.toList.drop fileNameStart.toList.length).takeWhile fun c =>
    c != '-' && c != '.')

def concerns : List (String × String) := [
  ("oauth", "OAuth"),
  ("secret", "OAuth"),
  ("configmap", "OAuth"),
  ("sdn", "SDN"),
  ("image", "Image"),
  ("registries", "Registries"),
  ("project", "Project"),
  ("scheduler", "Scheduler"),
  ("crio", "Crio")]

def owner? (fileName : String) : Option String := concerns.lookup (concern fileName)

theorem concern_append {word rest : String} {c : Char} {cs : List Char}
    (hword : word.toList.all (fun x => x != '-' && x != '.') = true) (hrest : rest.toList = c :: cs)
    (hc : (c != '-' && c != '.') = false) :
    concern (fileNameStart ++ word ++ rest) = word := by
  have htext : (fileNameStart ++ word ++ rest).toList =
      fileNameStart.toList ++ (word.toList ++ c :: cs) := by
    rw [String.toList_append, String.toList_append, hrest, List.append_assoc]
  rw [concern, htext, List.drop_left,
    List.takeWhile_append_of_pos (List.all_eq_true.mp hword), List.takeWhile_cons, hc]
  simp

theorem owner?_domainFileName {domain name : String}
    (hdomain : domain.toList.all (fun x => x != '-' && x != '.') = true)
    (hname : concerns.lookup domain = some name) : owner? (domainFileName domain) = some name := by
  have hrest : ".yaml".toList = '.' :: "yaml".toList := rfl
  have hconcern : concern (domainFileName domain) = domain :=
    concern_append hdomain hrest rfl
  rw [owner?, hconcern, hname]

theorem concern_artifact {word : String} (name : String)
    (hword : word.toList.all (fun x => x != '-' && x != '.') = true) :
    concern (fileNameStart ++ (word ++ "-") ++ name ++ ".yaml") = word := by
  have hrest : ("-" ++ name ++ ".yaml").toList = '-' :: (name.toList ++ ".yaml".toList) := by
    simp
  have hsplit : fileNameStart ++ (word ++ "-") ++ name ++ ".yaml" =
      fileNameStart ++ word ++ ("-" ++ name ++ ".yaml") := by
    simp only [String.append_assoc]
  rw [hsplit, concern_append hword hrest rfl]

theorem concern_secretFileName (name : String) : concern (secretFileName name) = "secret" := by
  have hword : "secret-" = "secret" ++ "-" := by decide
  rw [secretFileName, hword]
  exact concern_artifact name (by decide)

theorem concern_configMapFileName (name : String) :
    concern (configMapFileName name) = "configmap" := by
  have hword : "configmap-" = "configmap" ++ "-" := by decide
  rw [configMapFileName, hword]
  exact concern_artifact name (by decide)

theorem owner?_secretFileName (name : String) : owner? (secretFileName name) = some "OAuth" := by
  rw [owner?, concern_secretFileName]
  decide

theorem owner?_configMapFileName (name : String) :
    owner? (configMapFileName name) = some "OAuth" := by
  rw [owner?, concern_configMapFileName]
  decide

end Manifest

/-! ## Rows -/

namespace Report.Row

/-- The row says of a setting that it is not supported just if no confidence is put in it. -/
def IsHonest (r : Row) : Prop := r.supported = false ↔ r.confidence = .unsupported

theorem isHonest_carried (name kind : String) : (carried name kind).IsHonest := by
  simp [IsHonest, carried]

theorem isHonest_dropped (name kind comment : String) : (dropped name kind comment).IsHonest := by
  simp [IsHonest, dropped]

end Report.Row

/-! ## The components -/

namespace Component

open Report.Row

/-- Manifests in files of the component, and behind them its report. -/
inductive PutsOut (name : String) : List Output → Prop
  | intro {ms : List Manifest} {rows : List Report.Row}
      (hfiles : ∀ x ∈ ms, Manifest.owner? x.fileName = some name)
      (hrows : ∀ r ∈ rows, r.IsHonest) : PutsOut name [.manifests ms, .report ⟨name, rows⟩]

theorem putsOut_resourceAndReport {domain name : String} {rows : List Report.Row} (r : Resource)
    (hdomain : domain.toList.all (fun x => x != '-' && x != '.') = true)
    (hname : Manifest.concerns.lookup domain = some name) (hrows : ∀ r ∈ rows, r.IsHonest) :
    PutsOut name (resourceAndReport domain r ⟨name, rows⟩) := by
  refine .intro (fun x hx => ?_) hrows
  obtain rfl := List.mem_singleton.mp hx
  exact Manifest.owner?_domainFileName hdomain hname

def AlwaysPutsOut (c : Component) : Prop :=
  ∀ x, c.extract.Yields x → x.validate = .ok () →
    ∀ outputs, x.transform.2 = .ok outputs → PutsOut c.name outputs

theorem alwaysPutsOut_announced {α : Type} {name : String} {gather : Gather α}
    {validate : α → Except Failure Unit}
    {transform : α → List Notice × Except Failure (List Output)}
    (h : ∀ data, validate data = .ok () → ∀ outputs, (transform data).2 = .ok outputs →
      PutsOut name outputs) :
    (announced name gather validate transform).AlwaysPutsOut := by
  intro x hx hvalidate outputs houtputs
  obtain ⟨-, -, hx⟩ := Gather.Yields.exists_of_bind hx
  obtain ⟨data, -, hx⟩ := Gather.Yields.exists_of_bind hx
  cases hx
  exact h data hvalidate outputs houtputs

namespace OAuth

theorem isHonest_providerRow (p : IdentityProvider) : (providerRow p).IsHonest := by
  unfold providerRow
  split
  · exact isHonest_dropped _ _ _
  · simp [IsHonest, carried]
  · exact isHonest_carried _ _

theorem isHonest_templateRow (name : String) (page : Option Bytes) :
    ∀ r ∈ templateRow name page, r.IsHonest := by
  intro r hr
  unfold templateRow at hr
  split at hr
  · obtain rfl := List.mem_singleton.mp hr
    exact isHonest_carried _ _
  · cases hr

theorem isHonest_rows (d : Data) : ∀ r ∈ rows d, r.IsHonest := by
  intro r hr
  simp only [rows, List.mem_append] at hr
  rcases hr with (((hr | hr) | hr) | hr) | hr
  · obtain ⟨p, -, rfl⟩ := List.mem_map.mp hr
    exact isHonest_providerRow p
  · split at hr
    · simp only [List.mem_cons, List.not_mem_nil, or_false] at hr
      rcases hr with rfl | rfl <;> exact isHonest_carried _ _
    · cases hr
  · exact isHonest_templateRow _ _ r hr
  · exact isHonest_templateRow _ _ r hr
  · exact isHonest_templateRow _ _ r hr

theorem owner?_of_mem_manifests (o : OAuthPackage) :
    ∀ x ∈ o.manifests, Manifest.owner? x.fileName = some name := by
  intro x hx
  simp only [OAuthPackage.manifests, List.cons_append, List.mem_cons, List.mem_append,
    List.mem_map] at hx
  rcases hx with rfl | ⟨a, -, rfl⟩ | ⟨a, -, rfl⟩
  · exact Manifest.owner?_domainFileName (by decide) (by decide)
  · exact Manifest.owner?_secretFileName a.name
  · exact Manifest.owner?_configMapFileName a.name

theorem putsOut_transform (d : Data) (outputs : List Output)
    (h : (transform d).2 = .ok outputs) : PutsOut name outputs := by
  unfold transform at h
  split at h
  · cases h
  · cases h
    exact .intro (owner?_of_mem_manifests _) (isHonest_rows d)

end OAuth

theorem isHonest_sdn_rows (c : NetworkConfig) : ∀ r ∈ Sdn.rows c, r.IsHonest := by
  intro r hr
  simp only [Sdn.rows, List.mem_append, List.mem_cons, List.mem_map, List.not_mem_nil,
    or_false] at hr
  rcases hr with (rfl | ⟨cidr, -, rfl⟩) | rfl | rfl <;> simp [IsHonest, carried]

theorem isHonest_image_rows (p : ImagePolicy) : ∀ r ∈ Image.rows p, r.IsHonest := by
  intro r hr
  simp only [Image.rows, List.mem_append, List.mem_map] at hr
  rcases hr with (⟨l, -, rfl⟩ | ⟨h, -, rfl⟩) | ⟨s, -, rfl⟩
  · exact isHonest_carried _ _
  · exact isHonest_carried _ _
  · exact isHonest_dropped _ _ _

theorem isHonest_registries_rows (l : Registries.Lists) :
    ∀ r ∈ Registries.rows l, r.IsHonest := by
  intro r hr
  simp only [Registries.rows, List.mem_append, List.mem_map] at hr
  rcases hr with (⟨n, -, rfl⟩ | ⟨n, -, rfl⟩) | ⟨n, -, rfl⟩
  · exact isHonest_carried _ _
  · exact isHonest_carried _ _
  · exact isHonest_dropped _ _ _

theorem isHonest_project_rows (c : ProjectConfig) : ∀ r ∈ Project.rows c, r.IsHonest := by
  have hallocator (a : SecurityAllocator) : ∀ r ∈ Project.allocatorRows a, r.IsHonest := by
    simp [Project.allocatorRows, isHonest_dropped]
  have hunless {text : String} {row : Report.Row} (hrow : row.IsHonest) :
      ∀ r ∈ (if text.isEmpty then [] else [row]), r.IsHonest := by
    split <;> simp [hrow]
  intro r hr
  simp only [Project.rows, List.mem_append] at hr
  rcases hr with ((hr | hr) | hr) | hr
  · exact hunless (isHonest_carried _ _) r hr
  · exact hunless (isHonest_carried _ _) r hr
  · exact hunless (isHonest_dropped _ _ _) r hr
  · cases ha : c.securityAllocator with
    | none => simp [ha] at hr
    | some a => exact hallocator a r (by simpa [ha] using hr)

theorem isHonest_crio_rows (x : Crio.Runtime) : ∀ r ∈ Crio.rows x, r.IsHonest := by
  intro r hr
  simp only [Crio.rows, List.mem_append, List.mem_map] at hr
  rcases hr with (⟨n, -, rfl⟩ | ⟨s, -, rfl⟩) | ⟨n, -, rfl⟩ <;> exact isHonest_carried _ _

/-- A component puts out manifests in files of its own and behind them one report, which bears
its name and is honest, if what it has gathered passes its check. -/
theorem putsOut_of_mem_all {env : Environment} {paths : SourcePaths} {c : Component}
    (hc : c ∈ all env paths) : c.AlwaysPutsOut := by
  simp only [all, List.mem_cons, List.not_mem_nil, or_false] at hc
  rcases hc with rfl | rfl | rfl | rfl | rfl | rfl | rfl
  · exact alwaysPutsOut_announced fun d _ => OAuth.putsOut_transform d
  · refine alwaysPutsOut_announced fun c _ outputs h => ?_
    unfold Sdn.transform at h
    split at h
    · cases h
    · cases h
      exact putsOut_resourceAndReport _ (by decide) (by decide) (isHonest_sdn_rows c)
  · refine alwaysPutsOut_announced fun p _ outputs h => ?_
    cases h
    exact putsOut_resourceAndReport _ (by decide) (by decide) (isHonest_image_rows p)
  · refine alwaysPutsOut_announced fun l _ outputs h => ?_
    cases h
    exact putsOut_resourceAndReport _ (by decide) (by decide) (isHonest_registries_rows l)
  · refine alwaysPutsOut_announced fun p hvalidate outputs h => ?_
    -- a project that is not configured does not get here, for it would put out nothing
    cases p with
    | none => cases hvalidate
    | some c =>
        cases h
        exact putsOut_resourceAndReport _ (by decide) (by decide) (isHonest_project_rows c)
  · refine alwaysPutsOut_announced fun selector _ outputs h => ?_
    cases h
    refine putsOut_resourceAndReport _ (by decide) (by decide) fun r hr => ?_
    obtain rfl := List.mem_singleton.mp hr
    exact isHonest_carried _ _
  · refine alwaysPutsOut_announced fun x _ outputs h => ?_
    cases h
    exact putsOut_resourceAndReport _ (by decide) (by decide) (isHonest_crio_rows x)

end Component

end ClusterMigration
