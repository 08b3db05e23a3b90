import ClusterMigration.Proofs.Migration.Script
import ClusterMigration.Proofs.Source.Cache

/-!
# Migrations that are run again

What a migration has been answered is answered again when it is run once more over the cache
that it has left, also if files that it has obtained were changed in the source. So the second
run is the first one over again, and it leaves those files of the source alone. The main
statement is `watch_again`.
-/

namespace ClusterMigration

namespace Migration

open Source

/-! ## Sessions over a cache -/

def askedFor (session : Session) : List String :=
  session.filterMap fun
    | .asked path _ => some path
    | _ => none

def obtained (session : Session) : List String :=
  session.filterMap fun
    | .asked path (.ok _) => some path
    | _ => none

theorem mem_askedFor {session : Session} {path : String} {answer : Except FetchError Bytes}
    (h : .asked path answer ∈ session) : path ∈ askedFor session :=
  List.mem_filterMap.mpr ⟨_, h, rfl⟩

theorem exists_of_mem_obtained {session : Session} {path : String} (h : path ∈ obtained session) :
    ∃ content, .asked path (.ok content) ∈ session := by
  obtain ⟨x, hx, hpath⟩ := List.mem_filterMap.mp h
  split at hpath
  · cases hpath
    exact ⟨_, hx⟩
  · cases hpath

/-- A host that takes everything, with its files on a disk. Its accesses are written down. -/
def visiting (settings : Settings) : Host (StateM (List Access × Disk)) where
  fetch := Source.fetch (observed .cache Disk.system) (observed .source Disk.system) settings
  deliver _ := pure (.ok ())
  heed _ := pure ()

variable {settings : Settings} {home : List String} {d d' : Disk} {log log' : List Access}
  {p : String} {answer : Except FetchError Bytes} {session : Session}
  {st st' : List Access × Disk}

theorem visiting_fetch (settings : Settings) (p : String) (log : List Access) (d : Disk) :
    ∃ more, ((visiting settings).fetch p).run (log, d) =
        ((fetched settings d p).1, log ++ more, (fetched settings d p).2) ∧
      ∀ a ∈ more, a.IsFor settings p :=
  observes_fetch Disk.system settings p log d

theorem fetches_of_visiting
    (h : ((visiting settings).fetch p).run (log, d) = (answer, log', d')) :
    Fetches settings d p answer d' := by
  obtain ⟨more, hrun, -⟩ := visiting_fetch settings p log d
  rcases hfetched : fetched settings d p with ⟨found, left⟩
  rw [hfetched] at hrun
  have heq : (found, log ++ more, left) = (answer, log', d') := hrun.symm.trans h
  cases heq
  exact fetched_eq_iff.mp hfetched

theorem visiting_of_hit {content : Bytes}
    (h : d.read (place settings.cacheDirectory p) = .ok content) (log : List Access) :
    ((visiting settings).fetch p).run (log, d) =
      (.ok content, log ++ [⟨.cache, .read, place settings.cacheDirectory p⟩], d) := by
  have hread : (Disk.system.read (place settings.cacheDirectory p)).run d = (.ok content, d) := by
    rw [run_read, h]
  change (fetch (observed .cache Disk.system) (observed .source Disk.system) settings p).run
    (log, d) = _
  rw [fetch_eq, observed_read, run_noted_bind, hread]
  rfl

theorem visiting_of_fetches (h : Fetches settings d p answer d') (log : List Access) :
    ∃ more, ((visiting settings).fetch p).run (log, d) = (answer, log ++ more, d') ∧
      ∀ a ∈ more, a.use = .source → a.path = place settings.sourceRoot p ∧
        ∃ e, d.read (place settings.cacheDirectory p) = .error e := by
  obtain ⟨more, hrun, hmore⟩ := visiting_fetch settings p log d
  rw [fetched_eq_iff.mpr h] at hrun
  cases hcache : d.read (place settings.cacheDirectory p) with
  | error e =>
      refine ⟨more, hrun, fun a ha huse => ⟨?_, e, rfl⟩⟩
      cases hmore a ha with
      | source => rfl
      | cacheRead => cases huse
      | cacheWrite => cases huse
      | directory => cases huse
  | ok content =>
      have hhit := visiting_of_hit hcache log
      have hanswer : .ok content = answer := congrArg (·.1) (hhit.symm.trans hrun)
      have hdisk : d = d' := congrArg (·.2.2) (hhit.symm.trans hrun)
      refine ⟨[⟨.cache, .read, place settings.cacheDirectory p⟩], ?_, fun a ha huse => ?_⟩
      · rw [hhit, hanswer, hdisk]
      · obtain rfl := List.mem_singleton.mp ha
        cases huse

/-! ## Answers that stay -/

theorem Answers.keeps (h : Answers (visiting settings) st session st')
    (hhome : AtHome settings home st.2) (hplain : ∀ q ∈ askedFor session, IsPlain q) :
    AtHome settings home st'.2 ∧
      ∀ p answer, IsPlain p → (∀ q ∈ askedFor session, NotAbove p q) →
        Fetches settings st.2 p answer st.2 → Fetches settings st'.2 p answer st'.2 := by
  induction h with
  | nil st => exact ⟨hhome, fun _ _ _ _ h => h⟩
  | @asked st₁ st₂ st₃ q answer session hanswer hrest ih =>
      obtain ⟨hq, htail⟩ := List.forall_mem_cons.mp hplain
      have hfetches : Fetches settings st₁.2 q answer st₂.2 := fetches_of_visiting hanswer
      obtain ⟨hhome', hstay⟩ := ih (hfetches.atHome hhome hq) htail
      refine ⟨hhome', fun p answer hp habove hbefore => ?_⟩
      obtain ⟨hpq, hpsession⟩ := List.forall_mem_cons.mp habove
      exact hstay p answer hp hpsession (hbefore.of_fetches hfetches hhome hp hq hpq)
  | handed hanswer hrest ih =>
      cases hanswer
      exact ih hhome hplain
  | told hanswer hrest ih =>
      cases hanswer
      exact ih hhome hplain

theorem Answers.again (h : Answers (visiting settings) st session st')
    (hhome : AtHome settings home st.2) (hplain : ∀ q ∈ askedFor session, IsPlain q)
    (habove : ∀ p ∈ askedFor session, ∀ q ∈ askedFor session, NotAbove p q) :
    ∀ p answer, .asked p answer ∈ session → Fetches settings st'.2 p answer st'.2 := by
  induction h with
  | nil st => nofun
  | @asked st₁ st₂ st₃ q answer session hanswer hrest ih =>
      obtain ⟨hq, htail⟩ := List.forall_mem_cons.mp hplain
      obtain ⟨haboveq, habovetail⟩ := List.forall_mem_cons.mp habove
      have hfetches : Fetches settings st₁.2 q answer st₂.2 := fetches_of_visiting hanswer
      have hhome' := hfetches.atHome hhome hq
      intro p answer' hmem
      rcases List.mem_cons.mp hmem with heq | hmem
      · cases heq
        exact (hrest.keeps hhome' htail).2 q answer hq (List.forall_mem_cons.mp haboveq).2
          (hfetches.again hhome hq)
      · refine ih hhome' htail (fun p hp => ?_) p answer' hmem
        exact (List.forall_mem_cons.mp (habovetail p hp)).2
  | handed hanswer hrest ih =>
      cases hanswer
      intro p answer hmem
      rcases List.mem_cons.mp hmem with heq | hmem
      · cases heq
      · exact ih hhome hplain habove p answer hmem
  | told hanswer hrest ih =>
      cases hanswer
      intro p answer hmem
      rcases List.mem_cons.mp hmem with heq | hmem
      · cases heq
      · exact ih hhome hplain habove p answer hmem

/-- A disk that gives all answers of a session is asked the same and stays what it is. -/
theorem Answers.replay (h : Answers (visiting settings) st session st')
    (hagain : ∀ p answer, .asked p answer ∈ session → Fetches settings d p answer d)
    (log : List Access) :
    ∃ more, Answers (visiting settings) (log, d) session (log ++ more, d) ∧
      ∀ a ∈ more, a.use = .source → ∃ p, a.path = place settings.sourceRoot p ∧
        ∃ e, d.read (place settings.cacheDirectory p) = .error e := by
  induction h generalizing log with
  | nil st =>
      refine ⟨[], ?_, nofun⟩
      rw [List.append_nil]
      exact .nil (log, d)
  | @asked st₁ st₂ st₃ q answer session hanswer hrest ih =>
      have hfetches := hagain q answer (List.mem_cons_self ..)
      obtain ⟨first, hrun, hfirst⟩ := visiting_of_fetches hfetches log
      obtain ⟨rest, hanswers, hmore⟩ :=
        ih (fun p answer hmem => hagain p answer (List.mem_cons_of_mem _ hmem)) (log ++ first)
      rw [List.append_assoc] at hanswers
      refine ⟨first ++ rest, .asked hrun hanswers, fun a ha huse => ?_⟩
      rcases List.mem_append.mp ha with ha | ha
      · exact ⟨q, hfirst a ha huse⟩
      · exact hmore a ha huse
  | handed hanswer hrest ih =>
      cases hanswer
      obtain ⟨more, hanswers, hmore⟩ :=
        ih (fun p answer hmem => hagain p answer (List.mem_cons_of_mem _ hmem)) log
      exact ⟨more, .handed rfl hanswers, hmore⟩
  | told hanswer hrest ih =>
      cases hanswer
      obtain ⟨more, hanswers, hmore⟩ :=
        ih (fun p answer hmem => hagain p answer (List.mem_cons_of_mem _ hmem)) log
      exact ⟨more, .told rfl hanswers, hmore⟩

/-- A migration is watched on a disk where the cache has its place, apart from the source, and
asks for files by plain paths, none of which goes on where another one ends. Files that it has
obtained may be replaced, removed or put there in the source then. If it is run once more, it
ends the same, everything passes as before, and the source is not asked for those files. -/
theorem watch_again (options : OutputOptions) (cs : List Component) {d₀ d₁ d₂ : Disk}
    (hhome : AtHome settings home d₀) {summary : Summary}
    (hfirst : watch (visiting settings) options cs ([], d₀) = (summary, session, log, d₁))
    (hplain : ∀ p ∈ askedFor session, IsPlain p)
    (habove : ∀ p ∈ askedFor session, ∀ q ∈ askedFor session, NotAbove p q)
    (hedits : Edits settings (· ∈ obtained session) d₁ d₂) :
    ∃ log₂,
      watch (visiting settings) options cs ([], d₂) = (summary, session, log₂, d₂) ∧
      ∀ p ∈ obtained session, ∀ a ∈ log₂, a.use = .source →
        a.path ≠ place settings.sourceRoot p := by
  obtain ⟨hends, hanswers⟩ := watch_eq_iff.mp hfirst
  have hhome₁ : AtHome settings home d₁ := (hanswers.keeps hhome hplain).1
  have hagain₁ := hanswers.again hhome hplain habove
  have hobtained : ∀ p ∈ obtained session,
      p ∈ askedFor session ∧ ∃ content, .asked p (.ok content) ∈ session := fun p hp => by
    obtain ⟨content, hcontent⟩ := exists_of_mem_obtained hp
    exact ⟨mem_askedFor hcontent, content, hcontent⟩
  have hagain₂ : ∀ p answer, .asked p answer ∈ session → Fetches settings d₂ p answer d₂ := by
    intro p answer hmem
    have hp : p ∈ askedFor session := mem_askedFor hmem
    refine (hagain₁ p answer hmem).of_edits hhome₁ (hplain p hp) hedits
      (fun q hq => hplain q (hobtained q hq).1) fun q hq => ?_
    obtain ⟨hqasked, content, hcontent⟩ := hobtained q hq
    exact ⟨habove q hqasked p hp, content, hagain₁ q _ hcontent⟩
  obtain ⟨log₂, hreplay, hsource⟩ := hanswers.replay hagain₂ []
  refine ⟨log₂, watch_eq_iff.mpr ⟨hends, hreplay⟩, fun p hp a ha huse hpath => ?_⟩
  obtain ⟨q, hq, e, hcache⟩ := hsource a ha huse
  obtain ⟨hasked, content, hcontent⟩ := hobtained p hp
  have hread := (hagain₂ p _ hcontent).read_of_ok (hplain p hasked)
  have hsame : Path.relative q = Path.relative p := place_eq_iff.mp (hq.symm.trans hpath)
  rw [place_eq_iff.mpr hsame, hread] at hcache
  cases hcache

section

private def crioRuntime : Bytes := Utf8.encode "[crio.runtime]\npids_limit = 5\n"

private def direct : Settings := { outputDirectory := "out", sourceRoot := "src" }

private def initial : Disk where
  entries := [(["src"], .directory), (["src", "etc"], .directory),
    (["src", "etc", "crio"], .directory), (["src", "etc", "crio", "crio.conf"], .file crioRuntime)]

private def visit (settings : Settings) (d : Disk) : Summary × Session × List Access × Disk :=
  watch (visiting settings) settings.outputOptions
    (Component.all (fun _ => none) settings.sources) ([], d)

/-- What the first visit leaves behind, with another file in the source. -/
private def edited : Disk :=
  (visit direct initial).2.2.2.put ["src", "etc", "crio", "crio.conf"] (.file [])

theorem visit_after_edit :
    AtHome direct ["out", ".cache"] initial ∧
      obtained (visit direct initial).2.1 = ["/etc/crio/crio.conf"] ∧
      Edits direct (· ∈ obtained (visit direct initial).2.1) (visit direct initial).2.2.2 edited ∧
      (visit direct initial).1.outcomeOf? "Crio" = some .flushed ∧
      ∃ log, visit direct edited =
          ((visit direct initial).1, (visit direct initial).2.1, log, edited) ∧
        ∀ a ∈ log, a.use = .source → a.path ≠ "src/etc/crio/crio.conf" := by
  have htree : initial.IsTree := Disk.isTree_of_entries rfl (by decide +kernel)
  have hleads : Disk.LeadsTo initial direct.cacheDirectory ["out", ".cache"] := by
    have hplace : initial.origin (Path.isAbsolute direct.cacheDirectory) ++
        Disk.undotted (Disk.names direct.cacheDirectory) = ["out", ".cache"] := by decide +kernel
    exact hplace ▸ htree.leadsTo (by decide +kernel)
  have hhome : AtHome direct ["out", ".cache"] initial := by
    refine ⟨htree, hleads, fun root hroot => ?_⟩
    have hsrc : RootAt direct initial ["src"] := by
      rw [RootAt]
      decide +kernel
    obtain rfl := hsrc.unique hroot
    decide
  obtain ⟨hobtained, hplain, habove, hlocate, hnot, hflushed⟩ :
      obtained (visit direct initial).2.1 = ["/etc/crio/crio.conf"] ∧
      (∀ p ∈ askedFor (visit direct initial).2.1, IsPlain p) ∧
      (∀ p ∈ askedFor (visit direct initial).2.1, ∀ q ∈ askedFor (visit direct initial).2.1,
        NotAbove p q) ∧
      (visit direct initial).2.2.2.locate (place direct.sourceRoot "/etc/crio/crio.conf") =
        .ok ["src", "etc", "crio", "crio.conf"] ∧
      Disk.entry? (visit direct initial).2.2.2 ["src", "etc", "crio", "crio.conf"] ≠
        some .directory ∧
      (visit direct initial).1.outcomeOf? "Crio" = some .flushed := by
    decide +kernel
  have hmem : "/etc/crio/crio.conf" ∈ obtained (visit direct initial).2.1 := by
    rw [hobtained]
    exact List.mem_singleton_self _
  have hedits : Edits direct (· ∈ obtained (visit direct initial).2.1)
      (visit direct initial).2.2.2 edited := edits_put hmem hlocate hnot []
  have hfirst : watch (visiting direct) direct.outputOptions
      (Component.all (fun _ => none) direct.sources) ([], initial) =
        ((visit direct initial).1, (visit direct initial).2.1, (visit direct initial).2.2.1,
          (visit direct initial).2.2.2) := rfl
  obtain ⟨log, hagain, hlog⟩ := watch_again _ _ hhome hfirst hplain habove hedits
  have hpath : place direct.sourceRoot "/etc/crio/crio.conf" = "src/etc/crio/crio.conf" := by
    decide +kernel
  exact ⟨hhome, hobtained, hedits, hflushed, log, hagain, hpath ▸ hlog _ hmem⟩

/-- A cache to which a directory that is missing leads. -/
private def detour : Settings := { outputDirectory := "a/../b", sourceRoot := "src" }

private def blockedRegistries : Bytes := Utf8.encode "[registries.block]\nregistries = [\"x\"]\n"

private def detoured : Disk where
  entries := [(["src"], .directory), (["src", "etc"], .directory),
    (["src", "etc", "crio"], .directory), (["src", "etc", "crio", "crio.conf"], .file crioRuntime),
    (["b"], .directory), (["b", ".cache"], .directory), (["b", ".cache", "etc"], .directory),
    (["b", ".cache", "etc", "containers"], .directory),
    (["b", ".cache", "etc", "containers", "registries.conf"], .file blockedRegistries)]

/-- Keeping a file makes the directory through which the cache is found, and then it has more
files than before. -/
theorem visit_through_missing_directory :
    detoured.IsTree ∧
      Path.normal detour.cacheDirectory = ⟨false, 0, ["b", ".cache"]⟩ ∧
      Path.normal detour.sourceRoot = ⟨false, 0, ["src"]⟩ ∧
      (∀ p ∈ askedFor (visit detour detoured).2.1, IsPlain p) ∧
      (∀ p ∈ askedFor (visit detour detoured).2.1, ∀ q ∈ askedFor (visit detour detoured).2.1,
        NotAbove p q) ∧
      (visit detour detoured).1.outcomeOf? "Registries" =
        some (.skippedBy .extract (.fetch (.unreadable "/etc/containers/registries.conf"
          FileError.notFound.message))) ∧
      (visit detour (visit detour detoured).2.2.2).1.outcomeOf? "Registries" =
        some .flushed := by
  refine ⟨Disk.isTree_of_entries rfl ?_, ?_⟩
  · decide +kernel
  · decide +kernel

end

end Migration

end ClusterMigration
