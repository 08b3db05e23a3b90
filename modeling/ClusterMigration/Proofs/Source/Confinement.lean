import ClusterMigration.Program
import ClusterMigration.Proofs.Storage.Manifests
import ClusterMigration.Proofs.Storage.Normal

/-!
# Where source files are read and kept

The path of a file of the old cluster is joined to two directories, to that of the source and
to that of the cache. Slashes at its beginning are taken off first, but two dots in it lead out
of both. The main statement is `accesses_confined_iff`, by which the accesses of a fetch stay
where they belong just if the path, and the name of the host before it, come back in wherever
they lead out.
-/

namespace ClusterMigration

namespace Source

/-! ## Accesses -/

inductive Use where
  | cache
  | source
  deriving DecidableEq, Repr

inductive Operation where
  | read
  | write
  | makeDirectory
  | isDirectory
  | isPresent
  deriving DecidableEq, Repr

structure Access where
  use : Use
  operation : Operation
  path : String
  deriving DecidableEq, Repr

variable {σ α β : Type}

def noted (a : Access) (action : StateM σ α) : StateM (List Access × σ) α := fun (log, st) =>
  let (x, st') := action.run st
  (x, log ++ [a], st')

def observed (use : Use) (s : System (StateM σ)) : System (StateM (List Access × σ)) where
  read path := noted ⟨use, .read, path⟩ (s.read path)
  write path content := noted ⟨use, .write, path⟩ (s.write path content)
  makeDirectory path := noted ⟨use, .makeDirectory, path⟩ (s.makeDirectory path)
  isDirectory path := noted ⟨use, .isDirectory, path⟩ (s.isDirectory path)
  isPresent path := noted ⟨use, .isPresent, path⟩ (s.isPresent path)
  heed n := fun (log, st) =>
    let (_, st') := (s.heed n).run st
    ((), log, st')

/-- The second action does what the first one does and writes down accesses that are allowed. -/
def Observes (allowed : Access → Prop) (x : StateM σ α) (y : StateM (List Access × σ) α) : Prop :=
  ∀ log st, ∃ more, y.run (log, st) = ((x.run st).1, log ++ more, (x.run st).2) ∧
    ∀ a ∈ more, allowed a

variable {allowed : Access → Prop}

theorem observes_pure (a : α) : Observes allowed (pure a : StateM σ α) (pure a) :=
  fun log st => ⟨[], by rw [List.append_nil]; rfl, nofun⟩

theorem observes_noted {a : Access} (h : allowed a) (action : StateM σ α) :
    Observes allowed action (noted a action) :=
  fun _ _ => ⟨[a], rfl, List.forall_mem_singleton.mpr h⟩

theorem observes_heed (use : Use) (s : System (StateM σ)) (n : Notice) :
    Observes allowed (s.heed n) ((observed use s).heed n) :=
  fun log st => ⟨[], by rw [List.append_nil]; rfl, nofun⟩

theorem observed_read (use : Use) (s : System (StateM σ)) (path : String) :
    (observed use s).read path = noted ⟨use, .read, path⟩ (s.read path) := rfl

theorem run_noted_bind (a : Access) (action : StateM σ α) (g : α → StateM (List Access × σ) β)
    (log : List Access) (st : σ) :
    (noted a action >>= g).run (log, st) =
      (g (action.run st).1).run (log ++ [a], (action.run st).2) := rfl

theorem run_heed_bind (use : Use) (s : System (StateM σ)) (n : Notice)
    (g : Unit → StateM (List Access × σ) β) (log : List Access) (st : σ) :
    ((observed use s).heed n >>= g).run (log, st) = (g ()).run (log, ((s.heed n).run st).2) := rfl

theorem Observes.bind {x : StateM σ α} {y : StateM (List Access × σ) α} {f : α → StateM σ β}
    {g : α → StateM (List Access × σ) β} (h : Observes allowed x y)
    (hnext : ∀ a, Observes allowed (f a) (g a)) : Observes allowed (x >>= f) (y >>= g) := by
  intro log st
  obtain ⟨first, hy, hfirst⟩ := h log st
  obtain ⟨rest, hg, hrest⟩ := hnext (x.run st).1 (log ++ first) (x.run st).2
  refine ⟨first ++ rest, ?_, fun a ha => (List.mem_append.mp ha).elim (hfirst a) (hrest a)⟩
  rw [StateT.run_bind, StateT.run_bind, hy, ← List.append_assoc]
  exact hg

/-! ## Directories on the way -/

def OnTheWay (file directory : String) : Prop :=
  ∃ names, names <+: (Path.components file).dropLast ∧
    directory = Path.ofComponents (Path.isAbsolute file) names

section

variable {s : System (StateM σ)} {use : Use}

theorem observes_settleDirectory {path : String} (h : allowed ⟨use, .isDirectory, path⟩)
    (result : Except FileError Unit) :
    Observes allowed (s.settleDirectory path result)
      ((observed use s).settleDirectory path result) := by
  cases result with
  | ok _ => exact observes_pure _
  | error e =>
      refine (observes_noted h _).bind fun there => ?_
      cases there <;> exact observes_pure _

theorem observes_makeDirectories {absolute : Bool} {names : List String}
    (h : ∀ outer, outer <:+ names → ∀ operation ∈ [Operation.makeDirectory, .isDirectory],
      allowed ⟨use, operation, Path.ofComponents absolute outer.reverse⟩) :
    Observes allowed (s.makeDirectories absolute names)
      ((observed use s).makeDirectories absolute names) := by
  induction names with
  | nil => exact observes_pure _
  | cons name outer ih =>
      have hself := h (name :: outer) List.suffix_rfl
      have hmake : allowed ⟨use, .makeDirectory, _⟩ := hself .makeDirectory (by simp)
      have hsettle := observes_settleDirectory (s := s) (hself .isDirectory (by simp))
      have houter := ih fun names hnames => h names (hnames.trans (List.suffix_cons name outer))
      refine (observes_noted hmake _).bind fun result => ?_
      split
      · refine houter.bind fun result => ?_
        cases result with
        | error e => exact observes_pure _
        | ok _ => exact (observes_noted hmake _).bind hsettle
      · exact hsettle _

theorem observes_put {path : String} {content : Bytes} (hwrite : allowed ⟨use, .write, path⟩)
    (hway : ∀ directory, OnTheWay path directory →
      ∀ operation ∈ [Operation.makeDirectory, .isDirectory], allowed ⟨use, operation, directory⟩) :
    Observes allowed (s.put path content) ((observed use s).put path content) := by
  have hdirectories : Observes allowed
      (s.makeDirectories (Path.isAbsolute path) (Path.components path).dropLast.reverse)
      ((observed use s).makeDirectories (Path.isAbsolute path)
        (Path.components path).dropLast.reverse) := by
    apply observes_makeDirectories
    intro outer houter operation hoperation
    have hprefix : outer.reverse <+: (Path.components path).dropLast := by
      rw [← List.reverse_suffix, List.reverse_reverse]
      exact houter
    exact hway _ ⟨outer.reverse, hprefix, rfl⟩ operation hoperation
  refine hdirectories.bind fun result => ?_
  cases result with
  | error e => exact observes_pure _
  | ok _ => exact observes_noted hwrite _

end

/-! ## The accesses of a fetch -/

/-- What a migration does to get a file of the old cluster. -/
def fetch {m : Type → Type} [Monad m] (cached source : System m) (settings : Settings)
    (path : String) : m (Except FetchError Bytes) :=
  readCached cached settings.cacheDirectory (readLocal source settings.sourceRoot) path

theorem host_fetch {m : Type → Type} [Monad m] (s : System m) (settings : Settings)
    (output path : String) :
    (Program.host s settings output).fetch path = liftM (fetch s s settings path) := rfl

def accesses (s : System (StateM σ)) (settings : Settings) (path : String) (st : σ) :
    List Access :=
  ((fetch (observed .cache s) (observed .source s) settings path).run ([], st)).2.1

/-- One file is read from the source, one is read or written in the cache, and directories are
made on the way to it. -/
inductive Access.IsFor (settings : Settings) (path : String) : Access → Prop
  | source : IsFor settings path ⟨.source, .read, place settings.sourceRoot path⟩
  | cacheRead : IsFor settings path ⟨.cache, .read, place settings.cacheDirectory path⟩
  | cacheWrite : IsFor settings path ⟨.cache, .write, place settings.cacheDirectory path⟩
  | directory {operation : Operation} {directory : String}
      (hway : OnTheWay (place settings.cacheDirectory path) directory)
      (hoperation : operation ∈ [Operation.makeDirectory, .isDirectory]) :
      IsFor settings path ⟨.cache, operation, directory⟩

def keep {m : Type → Type} [Monad m] (s : System m) (file : String) :
    Except FetchError Bytes → m (Except FetchError Bytes)
  | .error e => return .error e
  | .ok content => do
    match ← s.put file content with
    | .ok () => return .ok content
    | .error e => return .error (.notKept file e.message)

def resume {m : Type → Type} [Monad m] (cached source : System m) (settings : Settings)
    (path : String) : Except FileError Bytes → m (Except FetchError Bytes)
  | .ok content => do
    cached.heed (.cacheHit path)
    return .ok content
  | .error _ => do
    cached.heed (.cacheMiss path)
    keep cached (place settings.cacheDirectory path)
      (← readLocal source settings.sourceRoot path)

theorem fetch_eq {m : Type → Type} [Monad m] (cached source : System m) (settings : Settings)
    (path : String) :
    fetch cached source settings path =
      cached.read (place settings.cacheDirectory path) >>= resume cached source settings path := by
  unfold fetch readCached
  refine bind_congr fun answer => ?_
  cases answer <;> rfl

variable {s : System (StateM σ)} {settings : Settings} {path : String} {st : σ}

theorem observes_readLocal {root : String} {use : Use}
    (h : allowed ⟨use, .read, place root path⟩) :
    Observes allowed (readLocal s root path) (readLocal (observed use s) root path) := by
  refine (observes_heed use s _).bind fun _ => (observes_noted h _).bind fun answer => ?_
  cases answer <;> exact observes_pure _

theorem observes_keep {file : String}
    (h : ∀ content, Observes allowed (s.put file content) ((observed .cache s).put file content))
    (answer : Except FetchError Bytes) :
    Observes allowed (keep s file answer) (keep (observed .cache s) file answer) := by
  cases answer with
  | error e => exact observes_pure _
  | ok content =>
      refine (h content).bind fun kept => ?_
      cases kept <;> exact observes_pure _

theorem observes_keep_place (answer : Except FetchError Bytes) :
    Observes (Access.IsFor settings path) (keep s (place settings.cacheDirectory path) answer)
      (keep (observed .cache s) (place settings.cacheDirectory path) answer) :=
  observes_keep (fun _ => observes_put .cacheWrite fun _ hway _ hoperation =>
    .directory hway hoperation) answer

theorem observes_resume (answer : Except FileError Bytes) :
    Observes (Access.IsFor settings path) (resume s s settings path answer)
      (resume (observed .cache s) (observed .source s) settings path answer) := by
  cases answer with
  | ok content => exact (observes_heed .cache s _).bind fun _ => observes_pure _
  | error e =>
      refine (observes_heed .cache s _).bind fun _ => ?_
      exact (observes_readLocal .source).bind observes_keep_place

/-- To write accesses down changes nothing, and a fetch has accesses of a few kinds only. -/
theorem observes_fetch (s : System (StateM σ)) (settings : Settings) (path : String) :
    Observes (Access.IsFor settings path) (fetch s s settings path)
      (fetch (observed .cache s) (observed .source s) settings path) := by
  rw [fetch_eq, fetch_eq]
  exact (observes_noted .cacheRead _).bind observes_resume

theorem Observes.mem_of_mem {x : StateM σ α} {y : StateM (List Access × σ) α}
    (h : Observes allowed x y) {log : List Access} {a : Access} (ha : a ∈ log) :
    a ∈ (y.run (log, st)).2.1 := by
  obtain ⟨more, hy, -⟩ := h log st
  rw [hy]
  exact List.mem_append_left _ ha

theorem cacheRead_mem_accesses :
    ⟨.cache, .read, place settings.cacheDirectory path⟩ ∈ accesses s settings path st := by
  rw [accesses, fetch_eq]
  exact (observes_resume (s := s) _).mem_of_mem (List.mem_singleton_self _)

theorem source_mem_accesses_iff :
    ⟨.source, .read, place settings.sourceRoot path⟩ ∈ accesses s settings path st ↔
      ∃ e, ((s.read (place settings.cacheDirectory path)).run st).1 = .error e := by
  rw [accesses, fetch_eq, observed_read, run_noted_bind]
  rcases (s.read (place settings.cacheDirectory path)).run st with ⟨answer, st'⟩
  cases answer with
  | ok content =>
      rw [resume, run_heed_bind]
      constructor
      · intro hmem
        cases List.mem_singleton.mp hmem
      · rintro ⟨e, he⟩
        cases he
  | error e =>
      refine ⟨fun _ => ⟨e, rfl⟩, fun _ => ?_⟩
      rw [resume, run_heed_bind, readLocal, bind_assoc, run_heed_bind, bind_assoc, observed_read,
        run_noted_bind]
      -- whatever is kept then, what is written down stays
      have hkeep (answer : Except FetchError Bytes) (log : List Access) (st : σ) :
          ⟨.source, .read, place settings.sourceRoot path⟩ ∈
            ((keep (observed .cache s) (place settings.cacheDirectory path) answer).run
              (log ++ [⟨.source, .read, place settings.sourceRoot path⟩], st)).2.1 :=
        (observes_keep_place answer).mem_of_mem
          (List.mem_append_right log (List.mem_singleton_self _))
      split
      · rw [pure_bind]
        apply hkeep
      · rw [pure_bind]
        apply hkeep

/-! ## Confinement -/

open ClusterMigration.Path (normal)

/-- The directory of the cache as it is promised, and the one in it of the host, if a host is
named. -/
def promised (settings : Settings) : List String :=
  let cache := Path.join settings.outputDirectory ".cache"
  if settings.hostname.isEmpty then [cache] else [cache, cache ++ "/" ++ settings.hostname]

def InCache (settings : Settings) (file : String) : Prop :=
  ∀ directory ∈ promised settings, (normal directory).Inside (normal file)

instance (settings : Settings) (file : String) : Decidable (InCache settings file) :=
  inferInstanceAs (Decidable (∀ directory ∈ promised settings, _))

/-- A file of the source is read below the root of the source, and a file of the cache is in
the cache. Directories on the way to the cache are outside of it. -/
def Access.IsConfined (settings : Settings) (a : Access) : Prop :=
  match a.use, a.operation with
  | .source, _ => (normal settings.sourceRoot).Inside (normal a.path)
  | .cache, .read | .cache, .write => InCache settings a.path
  | .cache, _ => True

/-- The name of the host and the path come back in wherever they lead out of the cache. A
name that begins with a slash takes the place of the cache. -/
def StaysInCache (settings : Settings) (path : String) : Prop :=
  let cache := Path.join settings.outputDirectory ".cache"
  if Path.isAbsolute settings.hostname then InCache settings (place settings.hostname path)
  else (normal cache).ComesBack (Disk.names settings.hostname ++ Disk.names path) ∧
    (settings.hostname ≠ "" →
      (normal (cache ++ "/" ++ settings.hostname)).ComesBack (Disk.names path))

theorem normal_place (directory path : String) :
    normal (place directory path) = (normal directory).follow (Disk.names path) := by
  rw [place, Path.normal_join (Path.isAbsolute_relative path), Path.names_relative]

theorem inside_place_iff (directory path : String) :
    (normal directory).Inside (normal (place directory path)) ↔
      (normal directory).ComesBack (Disk.names path) := by
  rw [place, Path.inside_join_iff (Path.isAbsolute_relative path), Path.names_relative]

theorem inCache_iff (settings : Settings) (path : String) :
    InCache settings (place settings.cacheDirectory path) ↔ StaysInCache settings path := by
  have hname : Path.IsName ".cache" := ⟨by decide, by decide, by decide, by decide⟩
  unfold StaysInCache InCache promised Settings.cacheDirectory
  generalize hcache : Path.join settings.outputDirectory ".cache" = cache
  have hne : cache ≠ "" := hcache ▸ Path.join_ne_empty hname.ne_empty _
  have hends : Path.endsInSlash cache = false := hcache ▸ Path.endsInSlash_join hname _
  by_cases hempty : settings.hostname = ""
  · have hnames : Disk.names "" = [] := by decide
    have habsolute : Path.isAbsolute "" = false := by decide
    simp [hempty, hnames, habsolute, inside_place_iff]
  · cases habsolute : Path.isAbsolute settings.hostname with
    | true =>
        have hjoin : Path.join cache settings.hostname = settings.hostname := by
          simp [Path.join, habsolute]
        simp [hempty, hjoin]
    | false =>
        have hjoin := Path.join_eq_slash habsolute hne hends
        have hcomes : (normal cache).Inside
            (normal (place (Path.join cache settings.hostname) path)) ↔
            (normal cache).ComesBack (Disk.names settings.hostname ++ Disk.names path) := by
          rw [normal_place, Path.normal_join habsolute, ← Path.Normal.follow_append,
            Path.Normal.inside_follow_iff]
        have hhome := inside_place_iff (Path.join cache settings.hostname) path
        simp only [hjoin] at hcomes hhome
        simp [hempty, hjoin, hcomes, hhome]

/-- A fetch reads one file of the source, reads and writes one file of the cache, and makes
directories on the way to it. The file of the cache is in the cache just if the path and the
name of the host stay there, and the file of the source, which is read if the cache does not
have it, is below the root of the source just if the path comes back to it. -/
theorem accesses_confined_iff (s : System (StateM σ)) (settings : Settings) (path : String)
    (st : σ) :
    (∀ a ∈ accesses s settings path st, a.IsFor settings path) ∧
      ((∀ a ∈ accesses s settings path st, a.IsConfined settings) ↔
        StaysInCache settings path ∧
          ∀ e, ((s.read (place settings.cacheDirectory path)).run st).1 = .error e →
            (normal settings.sourceRoot).ComesBack (Disk.names path)) := by
  have hfor : ∀ a ∈ accesses s settings path st, a.IsFor settings path := by
    obtain ⟨more, hrun, hmore⟩ := observes_fetch s settings path [] st
    rw [accesses, hrun]
    exact hmore
  refine ⟨hfor, ?_, ?_⟩
  · intro hconfined
    constructor
    · exact (inCache_iff settings path).mp (hconfined _ cacheRead_mem_accesses)
    · intro e he
      exact (inside_place_iff _ path).mp (hconfined _ (source_mem_accesses_iff.mpr ⟨e, he⟩))
  · rintro ⟨hcache, hsource⟩ a ha
    cases hfor a ha with
    | source =>
        obtain ⟨e, he⟩ := source_mem_accesses_iff.mp ha
        exact (inside_place_iff _ path).mpr (hsource e he)
    | cacheRead => exact (inCache_iff settings path).mpr hcache
    | cacheWrite => exact (inCache_iff settings path).mpr hcache
    | directory hway hoperation =>
        simp only [List.mem_cons, List.not_mem_nil, or_false] at hoperation
        rcases hoperation with rfl | rfl <;> trivial

section

private def outAndSrc : Settings := { outputDirectory := "out", sourceRoot := "src" }

private def besideSource : Disk where
  entries := [(["src"], .directory), (["outside"], .file (Utf8.encode "secret"))]

/-- A file beside the root of the source is read, and kept beside the cache. -/
theorem fetch_strays :
    ((fetch Disk.system Disk.system outAndSrc "/../outside").run besideSource).1 =
        .ok (Utf8.encode "secret") ∧
      (∃ a ∈ accesses Disk.system outAndSrc "/../outside" besideSource,
        a = ⟨.source, .read, "src/../outside"⟩ ∧ ¬ a.IsConfined outAndSrc) ∧
      ∃ a ∈ accesses Disk.system outAndSrc "/../outside" besideSource,
        a = ⟨.cache, .write, "out/.cache/../outside"⟩ ∧ ¬ a.IsConfined outAndSrc := by
  have hsource : ¬ (normal "src").Inside (normal "src/../outside") := by decide
  have hcache : ¬ InCache outAndSrc "out/.cache/../outside" := by decide
  refine ⟨by decide +kernel, ⟨_, ?_, rfl, hsource⟩, ⟨_, ?_, rfl, hcache⟩⟩
  · decide +kernel
  · decide +kernel

end

end Source

end ClusterMigration
