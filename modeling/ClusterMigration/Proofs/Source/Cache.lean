import ClusterMigration.Proofs.Source.Confinement
import ClusterMigration.Proofs.Storage.Storing

/-!
# Files that are asked for again

A file that has been asked for once gets the same answer from then on: a file that was read is
in the cache, and what stood in the way of reading or of keeping a file still does, which is
`Fetches.again`. Other files that are asked for meanwhile do not matter, as
`Fetches.of_fetches` says, nor does by `Fetches.of_edits` what becomes in the source of files
that the cache has.
-/

namespace ClusterMigration

namespace Source

open Disk

variable {settings : Settings} {d d' : Disk} {p q path : String} {home root ns : List String}
  {answer answer' : Except FetchError Bytes} {content : Bytes}

/-! ## What a fetch does to a disk -/

def fetched (settings : Settings) (d : Disk) (path : String) : Except FetchError Bytes × Disk :=
  (fetch Disk.system Disk.system settings path).run d

theorem run_bind {σ α β : Type} (x : StateM σ α) (f : α → StateM σ β) (st : σ) :
    (x >>= f).run st = (f (x.run st).1).run (x.run st).2 := rfl

theorem run_read (file : String) (d : Disk) : (Disk.system.read file).run d = (d.read file, d) :=
  rfl

theorem run_heed (n : Notice) (d : Disk) : (Disk.system.heed n).run d = ((), d) := rfl

theorem run_put (file : String) (content : Bytes) (d : Disk) :
    (Disk.system.put file content).run d = d.stored file content := rfl

theorem run_readLocal (root path : String) (d : Disk) :
    (readLocal Disk.system root path).run d =
      (match d.read (place root path) with
        | .ok content => .ok content
        | .error e => .error (.unreadable path e.message), d) := by
  simp only [readLocal, run_bind, run_heed, run_read]
  cases d.read (place root path) <;> rfl

theorem fetched_eq (settings : Settings) (d : Disk) (path : String) :
    fetched settings d path =
      match d.read (place settings.cacheDirectory path) with
      | .ok content => (.ok content, d)
      | .error _ =>
        match d.read (place settings.sourceRoot path) with
        | .error e => (.error (.unreadable path e.message), d)
        | .ok content =>
          match d.stored (place settings.cacheDirectory path) content with
          | (.ok (), d') => (.ok content, d')
          | (.error e, d') =>
            (.error (.notKept (place settings.cacheDirectory path) e.message), d') := by
  rw [fetched, fetch_eq, run_bind, run_read]
  cases d.read (place settings.cacheDirectory path) with
  | ok content => rfl
  | error e =>
      simp only [resume, run_bind, run_heed, run_readLocal]
      cases d.read (place settings.sourceRoot path) with
      | error e => rfl
      | ok content =>
          simp only [keep, run_bind, run_put]
          rcases d.stored (place settings.cacheDirectory path) content with ⟨result, d'⟩
          cases result <;> rfl

/-- What can become of a fetch. -/
inductive Fetches (settings : Settings) (d : Disk) (path : String) :
    Except FetchError Bytes → Disk → Prop
  | hit {content : Bytes} (hcache : d.read (place settings.cacheDirectory path) = .ok content) :
      Fetches settings d path (.ok content) d
  | unread {e e' : FileError} (hcache : d.read (place settings.cacheDirectory path) = .error e)
      (hsource : d.read (place settings.sourceRoot path) = .error e') :
      Fetches settings d path (.error (.unreadable path e'.message)) d
  | kept {e : FileError} {content : Bytes} {d' : Disk}
      (hcache : d.read (place settings.cacheDirectory path) = .error e)
      (hsource : d.read (place settings.sourceRoot path) = .ok content)
      (hstored : d.stored (place settings.cacheDirectory path) content = (.ok (), d')) :
      Fetches settings d path (.ok content) d'
  | notKept {e e' : FileError} {content : Bytes} {d' : Disk}
      (hcache : d.read (place settings.cacheDirectory path) = .error e)
      (hsource : d.read (place settings.sourceRoot path) = .ok content)
      (hstored : d.stored (place settings.cacheDirectory path) content = (.error e', d')) :
      Fetches settings d path (.error (.notKept (place settings.cacheDirectory path) e'.message)) d'

theorem fetched_eq_iff :
    fetched settings d path = (answer, d') ↔ Fetches settings d path answer d' := by
  constructor
  · intro h
    rw [fetched_eq] at h
    split at h
    · rename_i content hcache
      cases h
      exact .hit hcache
    · rename_i e hcache
      split at h
      · rename_i e' hsource
        cases h
        exact .unread hcache hsource
      · rename_i content hsource
        split at h
        · rename_i d₁ hstored
          cases h
          exact .kept hcache hsource hstored
        · rename_i e' d₁ hstored
          cases h
          exact .notKept hcache hsource hstored
  · intro h
    cases h with
    | hit hcache => rw [fetched_eq, hcache]
    | unread hcache hsource =>
        rw [fetched_eq, hcache]
        simp only [hsource]
    | kept hcache hsource hstored =>
        rw [fetched_eq, hcache]
        simp only [hsource, hstored]
    | notKept hcache hsource hstored =>
        rw [fetched_eq, hcache]
        simp only [hsource, hstored]

/-! ## Paths that are asked for -/

/-- The names that lead to a file from the root of the source, and from the cache. -/
def pieces (path : String) : List String := Path.segments (Path.relative path)

/-- Nothing but names stands between the slashes, those at the beginning apart. -/
def IsPlain (path : String) : Prop := ∀ name ∈ pieces path, Path.IsName name

instance (path : String) : Decidable (IsPlain path) :=
  inferInstanceAs (Decidable (∀ name ∈ pieces path, _))

theorem place_eq_iff {base : String} :
    place base p = place base q ↔ Path.relative p = Path.relative q :=
  Path.join_inj (Path.isAbsolute_relative p) (Path.isAbsolute_relative q)

theorem pieces_eq_iff : pieces p = pieces q ↔ Path.relative p = Path.relative q :=
  Path.segments_inj

theorem fetched_snd_congr (settings : Settings) (d : Disk) (h : pieces p = pieces q) :
    (fetched settings d p).2 = (fetched settings d q).2 := by
  have hplace (base : String) : place base p = place base q :=
    place_eq_iff.mpr (pieces_eq_iff.mp h)
  rw [fetched_eq, fetched_eq, hplace, hplace]
  cases d.read (place settings.cacheDirectory q) with
  | ok content => rfl
  | error e =>
      cases d.read (place settings.sourceRoot q) with
      | error e => rfl
      | ok content =>
          rcases hstored : d.stored (place settings.cacheDirectory q) content with ⟨result, d'⟩
          cases result <;> simp only [hstored]

/-! ## The cache and the source -/

def RootAt (settings : Settings) (d : Disk) (root : List String) : Prop :=
  d.walk (d.origin (Path.isAbsolute settings.sourceRoot)) (Disk.names settings.sourceRoot) =
    .ok root

theorem RootAt.of_grows (h : RootAt settings d root) (hgrows : Grows d d') :
    RootAt settings d' root := by
  rw [RootAt, hgrows.origin]
  exact hgrows.walk h

theorem RootAt.unique {root' : List String} (h : RootAt settings d root)
    (h' : RootAt settings d root') : root' = root := by
  rw [RootAt] at h h'
  rw [h] at h'
  exact (Except.ok.inj h').symm

theorem exists_rootAt (hplain : IsPlain p) {x : List String}
    (h : d.locate (place settings.sourceRoot p) = .ok x) :
    ∃ root, RootAt settings d root ∧ x = root ++ pieces p := by
  have hwalk := locate_eq_ok h (Path.endsInSlash_join_of_isPlain hplain)
  rw [place, Path.isAbsolute_join (Path.isAbsolute_relative p), names_below hplain] at hwalk
  obtain ⟨root, hroot, hfile⟩ := walk_append_eq_ok.mp hwalk
  exact ⟨root, hroot, walk_eq_append (leadIn_of_isPlain hplain) hfile⟩

theorem exists_rootAt_of_read (hplain : IsPlain p)
    (h : d.read (place settings.sourceRoot p) = .ok content) :
    ∃ root, RootAt settings d root := by
  obtain ⟨x, hlocate, -⟩ := read_eq_ok.mp h
  obtain ⟨root, hroot, -⟩ := exists_rootAt hplain hlocate
  exact ⟨root, hroot⟩

/-- The cache has its place, and what is in the source is elsewhere. -/
structure AtHome (settings : Settings) (home : List String) (d : Disk) : Prop where
  tree : d.IsTree
  leads : LeadsTo d settings.cacheDirectory home
  apart : ∀ root, RootAt settings d root → ¬ root <+: home ∧ ¬ home <+: root

theorem AtHome.not_prefix (h : AtHome settings home d) (hroot : RootAt settings d root)
    (names ns : List String) : ¬ root ++ names <+: home ++ ns := by
  intro hprefix
  have hroot' : root <+: home ++ ns := (List.prefix_append root names).trans hprefix
  obtain ⟨hout, hin⟩ := h.apart root hroot
  rcases List.prefix_or_prefix_of_prefix hroot' (List.prefix_append home ns) with h | h
  · exact hout h
  · exact hin h

theorem AtHome.source_eq (h : AtHome settings home d) (hroot : RootAt settings d root)
    (hadds : Adds (home ++ ns) d d') (hplain : IsPlain p) :
    d'.read (place settings.sourceRoot p) = d.read (place settings.sourceRoot p) :=
  read_congr hadds.grows hroot hplain fun _ _ => hadds.entry?_eq (h.not_prefix hroot _ _)

theorem AtHome.cache_error (h : AtHome settings home d) (hgrows : Grows d d') (hplain : IsPlain p)
    (hsame : d'.IsFile (home ++ pieces p) →
      d'.entry? (home ++ pieces p) = d.entry? (home ++ pieces p))
    {e : FileError} (hcache : d.read (place settings.cacheDirectory p) = .error e) :
    ∃ e', d'.read (place settings.cacheDirectory p) = .error e' := by
  cases hlater : d'.read (place settings.cacheDirectory p) with
  | error e' => exact ⟨e', rfl⟩
  | ok content =>
      have hbefore := read_before h.tree h.leads hgrows hplain hsame hlater
      rw [place] at hcache
      rw [hcache] at hbefore
      cases hbefore

/-! ## What a fetch leaves behind -/

theorem Fetches.disk_cases (h : Fetches settings d p answer d') :
    d' = d ∨ ∃ content, d.read (place settings.sourceRoot p) = .ok content ∧
      (d.stored (place settings.cacheDirectory p) content).2 = d' := by
  cases h with
  | hit => exact .inl rfl
  | unread => exact .inl rfl
  | kept hcache hsource hstored => exact .inr ⟨_, hsource, by rw [hstored]⟩
  | notKept hcache hsource hstored => exact .inr ⟨_, hsource, by rw [hstored]⟩

theorem Fetches.rootAt_of_ne (h : Fetches settings d p answer d') (hplain : IsPlain p)
    (hne : d' ≠ d) : ∃ root, RootAt settings d root := by
  rcases h.disk_cases with hsame | ⟨content, hsource, -⟩
  · exact absurd hsame hne
  · exact exists_rootAt_of_read hplain hsource

theorem Fetches.adds (h : Fetches settings d p answer d') (hhome : AtHome settings home d)
    (hplain : IsPlain p) : Adds (home ++ pieces p) d d' := by
  rcases h.disk_cases with rfl | ⟨content, -, rfl⟩
  · exact .refl _ d'
  · exact stored_adds hhome.tree hhome.leads hplain content

theorem Fetches.isTree (h : Fetches settings d p answer d') (htree : d.IsTree)
    (hplain : IsPlain p) : d'.IsTree := by
  rcases h.disk_cases with rfl | ⟨content, -, rfl⟩
  · exact htree
  · exact stored_isTree htree hplain content

theorem Fetches.atHome (h : Fetches settings d p answer d') (hhome : AtHome settings home d)
    (hplain : IsPlain p) : AtHome settings home d' := by
  by_cases hsame : d' = d
  · rwa [hsame]
  · have hgrows : Grows d d' := (h.adds hhome hplain).grows
    refine ⟨h.isTree hhome.tree hplain, hhome.leads.of_grows hgrows, fun root hroot => ?_⟩
    -- the root was found before, or nothing would have been read
    obtain ⟨before, hbefore⟩ := h.rootAt_of_ne hplain hsame
    obtain rfl := (hbefore.of_grows hgrows).unique hroot
    exact hhome.apart root hbefore

/-! ## Answers that stay -/

theorem Fetches.again (h : Fetches settings d p answer d') (hhome : AtHome settings home d)
    (hplain : IsPlain p) : Fetches settings d' p answer d' := by
  have hadds := h.adds hhome hplain
  cases h with
  | hit hcache => exact .hit hcache
  | unread hcache hsource => exact .unread hcache hsource
  | kept hcache hsource hstored => exact .hit (read_of_stored hplain hstored)
  | @notKept e e' content _ hcache hsource hstored =>
      obtain ⟨e'', hcache'⟩ := hhome.cache_error hadds.grows hplain
        (isFile_of_stored_error hstored) hcache
      obtain ⟨root, hroot⟩ := exists_rootAt_of_read hplain hsource
      have hsource' : d'.read (place settings.sourceRoot p) = .ok content := by
        rw [hhome.source_eq hroot hadds hplain, hsource]
      exact .notKept hcache' hsource' (stored_again hhome.tree hhome.leads hplain hstored)

theorem Fetches.read_of_ok (h : Fetches settings d p (.ok content) d) (hplain : IsPlain p) :
    d.read (place settings.cacheDirectory p) = .ok content := by
  cases h with
  | hit hcache => exact hcache
  | kept hcache hsource hstored => exact read_of_stored hplain hstored

/-- A change of the disk that leaves alone what the answer for a file rests on. -/
structure Spares (settings : Settings) (home : List String) (p : String) (d d' : Disk) : Prop where
  holds : Holds (Path.isAbsolute settings.cacheDirectory)
    (Path.components (place settings.cacheDirectory p)).dropLast d d'
  cache : d'.entry? (home ++ pieces p) = d.entry? (home ++ pieces p)
  source : ∀ e, d.read (place settings.cacheDirectory p) = .error e →
    d'.read (place settings.sourceRoot p) = d.read (place settings.sourceRoot p)

theorem Fetches.of_spares (h : Fetches settings d p answer d) (hhome : AtHome settings home d)
    (hplain : IsPlain p) (hspares : Spares settings home p d d') :
    Fetches settings d' p answer d' := by
  have hgrows := hspares.holds.grows
  have herror {e : FileError} (hcache : d.read (place settings.cacheDirectory p) = .error e) :
      ∃ e', d'.read (place settings.cacheDirectory p) = .error e' :=
    hhome.cache_error hgrows hplain (fun _ => hspares.cache) hcache
  cases h with
  | hit hcache =>
      refine .hit (read_of_grows hgrows hcache fun x hlocate => ?_)
      obtain ⟨-, rfl⟩ := place_of_locate hhome.leads hplain hlocate
      exact hspares.cache
  | unread hcache hsource =>
      obtain ⟨e, hcache'⟩ := herror hcache
      exact .unread hcache' ((hspares.source _ hcache).trans hsource)
  | kept hcache hsource hstored =>
      -- what has been kept is in the cache
      have hread := read_of_stored hplain hstored
      rw [← place, hcache] at hread
      cases hread
  | notKept hcache hsource hstored =>
      obtain ⟨e, hcache'⟩ := herror hcache
      exact .notKept hcache' ((hspares.source _ hcache).trans hsource)
        (stored_of_holds hhome.tree hhome.leads hplain hstored hspares.holds)

/-- The second path does not go on where the first one ends. -/
def NotAbove (p q : String) : Prop := pieces p <+: pieces q → pieces p = pieces q

instance (p q : String) : Decidable (NotAbove p q) := inferInstanceAs (Decidable (_ → _))

theorem Fetches.of_fetches (h : Fetches settings d p answer d)
    (hq : Fetches settings d q answer' d') (hhome : AtHome settings home d) (hplain : IsPlain p)
    (hplainq : IsPlain q) (habove : NotAbove p q) : Fetches settings d' p answer d' := by
  by_cases hsame : d' = d
  · rwa [hsame]
  · have hadds := hq.adds hhome hplainq
    have hpieces : ¬ pieces p <+: pieces q := by
      intro hprefix
      have hdisk := fetched_snd_congr settings d (habove hprefix)
      rw [fetched_eq_iff.mpr h, fetched_eq_iff.mpr hq] at hdisk
      exact hsame hdisk.symm
    obtain ⟨root, hroot⟩ := hq.rootAt_of_ne hplainq hsame
    refine h.of_spares hhome hplain ⟨hadds.holds, ?_, ?_⟩
    · refine hadds.entry?_eq fun hprefix => hpieces ?_
      exact (List.prefix_append_right_inj home).mp hprefix
    · intro _ _
      exact hhome.source_eq hroot hadds hplain

/-! ## Sources that change -/

/-- The second disk is the first one with files of the source replaced, removed or put there,
of those paths only that are given. -/
structure Edits (settings : Settings) (paths : String → Prop) (d d' : Disk) : Prop where
  workingDirectory : d'.workingDirectory = d.workingDirectory
  entries : ∀ x, d'.entry? x = d.entry? x ∨
    d.entry? x ≠ some .directory ∧ d'.entry? x ≠ some .directory ∧
      ∃ q, paths q ∧ d.locate (place settings.sourceRoot q) = .ok x

variable {paths : String → Prop}

theorem Edits.grows (h : Edits settings paths d d') : Grows d d' where
  workingDirectory := h.workingDirectory
  directory x hx := by
    rcases h.entries x with heq | ⟨hnot, -⟩
    · rw [heq, hx]
    · exact absurd hx hnot

theorem Edits.entry?_cases (h : Edits settings paths d d') (hpaths : ∀ q, paths q → IsPlain q)
    (x : List String) :
    d'.entry? x = d.entry? x ∨ d.entry? x ≠ some .directory ∧
      ∃ q root, paths q ∧ RootAt settings d root ∧ x = root ++ pieces q := by
  rcases h.entries x with heq | ⟨hnot, -, q, hq, hlocate⟩
  · exact .inl heq
  · obtain ⟨root, hroot, hx⟩ := exists_rootAt (hpaths q hq) hlocate
    exact .inr ⟨hnot, q, root, hq, hroot, hx⟩

theorem edits_put {x : List String} (hpath : paths q)
    (hlocate : d.locate (place settings.sourceRoot q) = .ok x)
    (hnot : d.entry? x ≠ some .directory) (content : Bytes) :
    Edits settings paths d (d.put x (.file content)) where
  workingDirectory := rfl
  entries y := by
    by_cases hy : y = x
    · subst hy
      refine .inr ⟨hnot, ?_, q, hpath, hlocate⟩
      rw [entry?_put_self (ne_nil_of_no_directory hnot)]
      nofun
    · exact .inl (entry?_put_of_ne hy)

/-- Files that the cache has may change in the source. -/
theorem Fetches.of_edits (h : Fetches settings d p answer d) (hhome : AtHome settings home d)
    (hplain : IsPlain p) (hedits : Edits settings paths d d')
    (hpaths : ∀ q, paths q → IsPlain q)
    (hcached : ∀ q, paths q → NotAbove q p ∧ ∃ content, Fetches settings d q (.ok content) d) :
    Fetches settings d' p answer d' := by
  have hgrows := hedits.grows
  have hentry := hedits.entry?_cases hpaths
  refine h.of_spares hhome hplain ⟨⟨hgrows, ?_⟩, ?_, ?_⟩
  · intro pre x hpre hwalk hfile
    rcases hentry x with heq | ⟨hnot, q, root, -, hroot, rfl⟩
    · rwa [Disk.IsFile, heq]
    · -- what is on the way to the cache is not in the source
      rcases place_of_outer hhome.tree hhome.leads hplain (.refl d) hpre hwalk with
        hdirectory | hprefix
      · exact absurd hdirectory hnot
      · exact absurd (prefix_of_outer hprefix) (hhome.not_prefix hroot _ _)
  · rcases hentry (home ++ pieces p) with heq | ⟨-, q, root, -, hroot, hx⟩
    · exact heq
    · exact absurd (hx ▸ List.prefix_rfl) (hhome.not_prefix hroot (pieces q) (pieces p))
  · intro e hcache
    by_cases hfound : ∃ root, RootAt settings d root
    · obtain ⟨root, hroot⟩ := hfound
      refine read_congr hgrows hroot hplain fun pre hpre => ?_
      rcases hentry (root ++ pre) with heq | ⟨-, q, root', hq, hroot', hx⟩
      · exact heq
      · obtain rfl := hroot.unique hroot'
        obtain rfl := List.append_cancel_left hx
        obtain ⟨habove, content, hfetches⟩ := hcached q hq
        have hread := hfetches.read_of_ok (hpaths q hq)
        rw [place_eq_iff.mpr (pieces_eq_iff.mp (habove hpre)), hcache] at hread
        cases hread
    · apply read_of_entries hedits.workingDirectory
      intro x
      rcases hentry x with heq | ⟨-, q, root, -, hroot, -⟩
      · exact heq
      · exact absurd ⟨root, hroot⟩ hfound

end Source

end ClusterMigration
