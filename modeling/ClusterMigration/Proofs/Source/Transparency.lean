import ClusterMigration.Proofs.Component.Gather
import ClusterMigration.Proofs.Source.Cache
import ClusterMigration.Proofs.Storage.Room

/-!
# Transparent caches

Over a source whose answers never change a cache that starts without files is not noticed.
Each path gets the answer of the source; the cache has the files that were served, and no
others; and the source is asked for a file again only if it has not served it. The main
statement is `cache_transparent`. It rests on `Mirrors`, the invariant of one request after
the other, which `Mirrors.request` preserves.
-/

namespace ClusterMigration

namespace Source

open Disk

variable {cache path p q : String} {source : Files} {d d' d₀ : Disk} {log : List Access}
  {home : List String} {before paths : List String} {answer : Except FetchError Bytes}
  {content : Bytes}

/-! ## One request -/

/-- A source of unchanging answers. What it is asked for is written down. -/
def answering (source : Files) (path : String) :
    StateM (List Access × Disk) (Except FetchError Bytes) :=
  noted ⟨.source, .read, path⟩ (pure (source path))

def through (cache : String) (source : Files) (path : String) :
    StateM (List Access × Disk) (Except FetchError Bytes) :=
  readCached (observed .cache Disk.system) cache (answering source) path

def asked (log : List Access) : List String :=
  (log.filter (·.use == .source)).map (·.path)

theorem asked_append (log more : List Access) : asked (log ++ more) = asked log ++ asked more := by
  simp [asked]

theorem asked_of_cache {more : List Access} (h : ∀ a ∈ more, a.use = .cache) : asked more = [] := by
  rw [asked, List.map_eq_nil_iff, List.filter_eq_nil_iff]
  intro a ha
  rw [h a ha]
  decide

/-- What can become of a request: the answer, the paths that the source is asked for, and the
disk. -/
inductive Passes (cache : String) (source : Files) (d : Disk) (path : String) :
    Except FetchError Bytes → List String → Disk → Prop
  | hit {content : Bytes} (hcache : d.read (place cache path) = .ok content) :
      Passes cache source d path (.ok content) [] d
  | refused {e : FileError} {e' : FetchError} (hcache : d.read (place cache path) = .error e)
      (hsource : source path = .error e') : Passes cache source d path (.error e') [path] d
  | kept {e : FileError} {content : Bytes} {d' : Disk}
      (hcache : d.read (place cache path) = .error e) (hsource : source path = .ok content)
      (hstored : d.stored (place cache path) content = (.ok (), d')) :
      Passes cache source d path (.ok content) [path] d'
  | notKept {e e' : FileError} {content : Bytes} {d' : Disk}
      (hcache : d.read (place cache path) = .error e) (hsource : source path = .ok content)
      (hstored : d.stored (place cache path) content = (.error e', d')) :
      Passes cache source d path (.error (.notKept (place cache path) e'.message)) [path] d'

def goOn (cache : String) (source : Files) (path : String) :
    Except FileError Bytes → StateM (List Access × Disk) (Except FetchError Bytes)
  | .ok content => do
    (observed .cache Disk.system).heed (.cacheHit path)
    return .ok content
  | .error _ => do
    (observed .cache Disk.system).heed (.cacheMiss path)
    keep (observed .cache Disk.system) (place cache path) (← answering source path)

theorem through_eq (cache : String) (source : Files) (path : String) :
    through cache source path =
      (observed .cache Disk.system).read (place cache path) >>= goOn cache source path := by
  unfold through readCached
  refine bind_congr fun answer => ?_
  cases answer <;> rfl

theorem run_keep (file : String) (content : Bytes) (d : Disk) :
    (keep Disk.system file (.ok content)).run d =
      match d.stored file content with
      | (.ok (), d') => (.ok content, d')
      | (.error e, d') => (.error (.notKept file e.message), d') := by
  rw [keep, run_bind, run_put]
  rcases d.stored file content with ⟨result, d'⟩
  cases result <;> rfl

theorem observes_keep_cache (file : String) (answer : Except FetchError Bytes) :
    Observes (·.use = .cache) (keep Disk.system file answer)
      (keep (observed .cache Disk.system) file answer) := by
  refine observes_keep (fun content => ?_) answer
  exact observes_put (s := Disk.system) rfl fun _ _ _ _ => rfl

theorem run_through_of_error {e : FileError} (hcache : d.read (place cache path) = .error e)
    (source : Files) (log : List Access) :
    (through cache source path).run (log, d) =
      (keep (observed .cache Disk.system) (place cache path) (source path)).run
        (log ++ [⟨.cache, .read, place cache path⟩, ⟨.source, .read, path⟩], d) := by
  rw [through_eq, observed_read, run_noted_bind, run_read, hcache, goOn, run_heed_bind, run_heed,
    answering, run_noted_bind, List.append_assoc]
  rfl

theorem passes_through (cache : String) (source : Files) (path : String) (log : List Access)
    (d : Disk) :
    ∃ answer more d', (through cache source path).run (log, d) = (answer, log ++ more, d') ∧
      Passes cache source d path answer (asked more) d' := by
  cases hcache : d.read (place cache path) with
  | ok content =>
      refine ⟨.ok content, [⟨.cache, .read, place cache path⟩], d, ?_, .hit hcache⟩
      rw [through_eq, observed_read, run_noted_bind, run_read, hcache]
      rfl
  | error e =>
      obtain ⟨more, hrun, hmore⟩ := observes_keep_cache (place cache path) (source path)
        (log ++ [⟨.cache, .read, place cache path⟩, ⟨.source, .read, path⟩]) d
      rw [← run_through_of_error hcache, List.append_assoc] at hrun
      have hasked : asked ([⟨.cache, .read, place cache path⟩, ⟨.source, .read, path⟩] ++ more) =
          [path] := by
        rw [asked_append, asked_of_cache hmore]
        rfl
      refine ⟨_, _, _, hrun, ?_⟩
      rw [hasked]
      cases hsource : source path with
      | error e' => exact .refused hcache hsource
      | ok content =>
          rw [run_keep]
          rcases hstored : d.stored (place cache path) content with ⟨result, d'⟩
          cases result with
          | error e' => exact .notKept hcache hsource hstored
          | ok _ => exact .kept hcache hsource hstored

/-! ## What the source is asked for -/

/-- Plain paths of which none goes on where another ends, and a source that has the same for
paths that lead to the same file. -/
structure Askable (source : Files) (paths : List String) : Prop where
  plain : ∀ p ∈ paths, IsPlain p
  apart : ∀ p ∈ paths, ∀ q ∈ paths, NotAbove p q
  alike : ∀ p ∈ paths, ∀ q ∈ paths, pieces p = pieces q →
    ∀ content, source p = .ok content → source q = .ok content

/-- Of the requests before, the source is asked each time for what it does not have, and once
for each file that it has. -/
structure Counted (source : Files) (before asks : List String) : Prop where
  sublist : asks.Sublist before
  failing : ∀ p e, source p = .error e → asks.count p = before.count p
  serving : ∀ p ∈ before, ∀ content, source p = .ok content →
    (asks.filter fun q => pieces q = pieces p).length = 1

theorem filter_concat_of_ne {asks : List String} (h : pieces p ≠ pieces q) :
    ((asks ++ [p]).filter fun r => pieces r = pieces q) =
      asks.filter fun r => pieces r = pieces q := by
  simp [List.filter_append, h]

theorem Counted.nil (source : Files) : Counted source [] [] :=
  ⟨.slnil, fun _ _ _ => rfl, fun _ hp => nomatch hp⟩

theorem Counted.hit {asks : List String} (h : Counted source before asks)
    (hsource : source p = .ok content) (hq : q ∈ before) (hpieces : pieces q = pieces p)
    {content' : Bytes} (hsource' : source q = .ok content') :
    Counted source (before ++ [p]) asks where
  sublist := h.sublist.trans (List.sublist_append_left before [p])
  failing r e hr := by
    have hne : p ≠ r := by
      rintro rfl
      rw [hsource] at hr
      cases hr
    rw [h.failing r e hr, List.count_append, List.count_singleton, beq_false_of_ne hne]
    rfl
  serving r hr c hc := by
    rcases List.mem_append.mp hr with hr | hr
    · exact h.serving r hr c hc
    · obtain rfl := List.mem_singleton.mp hr
      rw [← hpieces]
      exact h.serving q hq content' hsource'

theorem Counted.failed {asks : List String} {e : FetchError} (h : Counted source before asks)
    (hsource : source p = .error e)
    (halike : ∀ q ∈ before, pieces q = pieces p → ∀ content, source q ≠ .ok content) :
    Counted source (before ++ [p]) (asks ++ [p]) where
  sublist := h.sublist.append (List.Sublist.refl [p])
  failing r e' hr := by rw [List.count_append, List.count_append, h.failing r e' hr]
  serving r hr c hc := by
    rcases List.mem_append.mp hr with hr | hr
    · rw [filter_concat_of_ne fun heq => halike r hr heq.symm c hc]
      exact h.serving r hr c hc
    · obtain rfl := List.mem_singleton.mp hr
      rw [hsource] at hc
      cases hc

theorem Counted.first {asks : List String} (h : Counted source before asks)
    (hsource : source p = .ok content) (hnew : ∀ q ∈ before, pieces q ≠ pieces p) :
    Counted source (before ++ [p]) (asks ++ [p]) where
  sublist := h.sublist.append (List.Sublist.refl [p])
  failing r e hr := by rw [List.count_append, List.count_append, h.failing r e hr]
  serving r hr c hc := by
    rcases List.mem_append.mp hr with hr | hr
    · rw [filter_concat_of_ne fun heq => hnew r hr heq.symm]
      exact h.serving r hr c hc
    · obtain rfl := List.mem_singleton.mp hr
      have hnone : asks.filter (fun q => pieces q = pieces r) = [] := by
        rw [List.filter_eq_nil_iff]
        intro q hq
        simpa using hnew q (h.sublist.subset hq)
      simp [List.filter_append, hnone]

/-! ## What the cache has -/

/-- A cache that has no files, on a disk with room for what the source has of the paths. -/
structure Vacant (cache : String) (home : List String) (source : Files) (paths : List String)
    (d : Disk) : Prop where
  tree : d.IsTree
  leads : LeadsTo d cache home
  empty : ∀ x, home <+: x → ¬ d.IsFile x
  room : ∀ p ∈ paths, ∀ content, source p = .ok content →
    (d.stored (place cache p) content).1 = .ok ()

/-- What a disk that was `d₀` has become by the requests before: the cache has the files that
were served, and for them there are directories. -/
structure Mirrors (cache : String) (home : List String) (source : Files) (d₀ : Disk)
    (before : List String) (d : Disk) : Prop where
  grows : Grows d₀ d
  tree : d.IsTree
  entries : ∀ x, d.entry? x = d₀.entry? x ∨
    (∃ p ∈ before, d₀.entry? x = none ∧ d.entry? x = some .directory ∧
      x <+: home ++ (pieces p).dropLast) ∨
    ∃ p ∈ before, ∃ content, source p = .ok content ∧ x = home ++ pieces p ∧
      d.entry? x = some (.file content)
  served : ∀ p ∈ before, ∀ content, source p = .ok content → d.read (place cache p) = .ok content

theorem file_of_read (hleads : LeadsTo d cache home) (hplain : IsPlain p)
    (h : d.read (place cache p) = .ok content) :
    d.entry? (home ++ pieces p) = some (.file content) := by
  obtain ⟨x, hlocate, hfile⟩ := read_eq_ok.mp h
  obtain ⟨-, rfl⟩ := place_of_locate hleads hplain hlocate
  exact hfile

theorem Mirrors.entries_concat (h : Mirrors cache home source d₀ before d) (p : String)
    (x : List String) :
    d.entry? x = d₀.entry? x ∨
    (∃ q ∈ before ++ [p], d₀.entry? x = none ∧ d.entry? x = some .directory ∧
      x <+: home ++ (pieces q).dropLast) ∨
    ∃ q ∈ before ++ [p], ∃ content, source q = .ok content ∧ x = home ++ pieces q ∧
      d.entry? x = some (.file content) := by
  rcases h.entries x with heq | ⟨q, hq, hdirectory⟩ | ⟨q, hq, hserved⟩
  · exact .inl heq
  · exact .inr (.inl ⟨q, List.mem_append_left _ hq, hdirectory⟩)
  · exact .inr (.inr ⟨q, List.mem_append_left _ hq, hserved⟩)

section

variable (hvacant : Vacant cache home source paths d₀) (haskable : Askable source paths)

include hvacant haskable

theorem Mirrors.source_of_read (h : Mirrors cache home source d₀ before d)
    (hbefore : ∀ q ∈ before, q ∈ paths) (hp : p ∈ paths)
    (hcache : d.read (place cache p) = .ok content) :
    source p = .ok content ∧ ∃ q ∈ before, pieces q = pieces p ∧ source q = .ok content := by
  have hfile := file_of_read (hvacant.leads.of_grows h.grows) (haskable.plain p hp) hcache
  rcases h.entries (home ++ pieces p) with
    heq | ⟨q, -, -, hdirectory, -⟩ | ⟨q, hq, c, hc, hx, hentry⟩
  · exact absurd ⟨content, heq.symm.trans hfile⟩ (hvacant.empty _ (List.prefix_append ..))
  · rw [hdirectory] at hfile
    cases hfile
  · have hpieces : pieces p = pieces q := List.append_cancel_left hx
    rw [hentry] at hfile
    cases hfile
    exact ⟨haskable.alike q (hbefore q hq) p hp hpieces.symm content hc, q, hq, hpieces.symm, hc⟩

omit hvacant haskable in
theorem Mirrors.stays (h : Mirrors cache home source d₀ before d)
    (hsame : ∀ content, source p = .ok content → d.read (place cache p) = .ok content) :
    Mirrors cache home source d₀ (before ++ [p]) d where
  grows := h.grows
  tree := h.tree
  entries := h.entries_concat p
  served q hq := by
    rcases List.mem_append.mp hq with hq | hq
    · exact h.served q hq
    · obtain rfl := List.mem_singleton.mp hq
      exact hsame

omit haskable in
theorem Vacant.exists_stored (hp : p ∈ paths) (hsource : source p = .ok content) :
    ∃ d', d₀.stored (place cache p) content = (.ok (), d') := by
  have hok := hvacant.room p hp content hsource
  rcases hstored : d₀.stored (place cache p) content with ⟨result, d'⟩
  rw [hstored] at hok
  dsimp only at hok
  exact ⟨d', by rw [hok]⟩

theorem Mirrors.room (h : Mirrors cache home source d₀ before d)
    (hbefore : ∀ q ∈ before, q ∈ paths) (hp : p ∈ paths) (hsource : source p = .ok content) :
    d.Room (home ++ pieces p) := by
  have hroom : d₀.Room (home ++ pieces p) := by
    obtain ⟨d₁, hstored⟩ := hvacant.exists_stored hp hsource
    exact line_of_stored hvacant.tree hvacant.leads (haskable.plain p hp) hstored
  constructor
  · rintro x hx hne ⟨c, hc⟩
    rcases h.entries x with heq | ⟨q, -, -, hdirectory, -⟩ | ⟨q, hq, c', -, rfl, -⟩
    · exact hroom.line x hx hne ⟨c, heq.symm.trans hc⟩
    · rw [hdirectory] at hc
      cases hc
    · have hprefix : pieces q <+: pieces p := (List.prefix_append_right_inj home).mp hx
      rw [haskable.apart q (hbefore q hq) p hp hprefix] at hne
      exact hne rfl
  · intro hdirectory
    rcases h.entries (home ++ pieces p) with
      heq | ⟨q, hq, -, -, hline⟩ | ⟨q, hq, c, -, -, hfile⟩
    · exact hroom.place (heq.symm.trans hdirectory)
    · have hprefix : pieces p <+: pieces q :=
        (List.prefix_append_right_inj home).mp (prefix_of_outer hline)
      rw [haskable.apart p hp q (hbefore q hq) hprefix] at hline
      exact ne_of_prefix_outer hline rfl
    · rw [hdirectory] at hfile
      cases hfile

theorem Mirrors.makesRoom (h : Mirrors cache home source d₀ before d)
    (hbefore : ∀ q ∈ before, q ∈ paths) (hp : p ∈ paths) (hsource : source p = .ok content) :
    ∃ d', d.stored (place cache p) content = (.ok (), d') := by
  obtain ⟨d₁, hstored⟩ := hvacant.exists_stored hp hsource
  have hroom := h.room hvacant haskable hbefore hp hsource
  exact stored_of_room hvacant.leads (haskable.plain p hp) hstored h.grows h.tree hroom content

theorem Mirrors.kept (h : Mirrors cache home source d₀ before d)
    (hbefore : ∀ q ∈ before, q ∈ paths) (hp : p ∈ paths) (hsource : source p = .ok content)
    (hnew : ∀ q ∈ before, pieces q ≠ pieces p)
    (hstored : d.stored (place cache p) content = (.ok (), d')) :
    Mirrors cache home source d₀ (before ++ [p]) d' := by
  have hplain := haskable.plain p hp
  have hleads := hvacant.leads.of_grows h.grows
  have hadds : Adds (home ++ pieces p) d d' := by
    have hmore := stored_adds h.tree hleads hplain content
    rwa [← place, hstored] at hmore
  have hread : d'.read (place cache p) = .ok content := read_of_stored hplain hstored
  have hfile := file_of_read (hleads.of_grows hadds.grows) hplain hread
  have htree : d'.IsTree := by
    have hlater : (d.stored (place cache p) content).2.IsTree :=
      stored_isTree h.tree hplain content
    rwa [hstored] at hlater
  refine ⟨h.grows.trans hadds.grows, htree, fun x => ?_, fun q hq c hc => ?_⟩
  · have hlast : p ∈ before ++ [p] := List.mem_append_right _ (List.mem_singleton_self p)
    by_cases hx : x = home ++ pieces p
    · exact .inr (.inr ⟨p, hlast, content, hsource, hx, hx ▸ hfile⟩)
    · rcases hadds.entries x with heq | ⟨hnone, hdirectory, hline⟩ | ⟨hsame, -⟩
      · rw [heq]
        exact h.entries_concat p x
      · refine .inr (.inl ⟨p, hlast, ?_, hdirectory, prefix_outer hline hx⟩)
        rcases h.entries x with hbefore | ⟨q, -, -, hthere, -⟩ | ⟨q, -, c, -, -, hthere⟩
        · rw [← hbefore, hnone]
        · rw [hnone] at hthere
          cases hthere
        · rw [hnone] at hthere
          cases hthere
      · exact absurd hsame hx
  · rcases List.mem_append.mp hq with hq | hq
    · refine read_of_grows hadds.grows (h.served q hq c hc) fun x hlocate => ?_
      obtain ⟨-, rfl⟩ := place_of_locate hleads (haskable.plain q (hbefore q hq)) hlocate
      refine hadds.entry?_eq fun hline => ?_
      have hprefix : pieces q <+: pieces p := (List.prefix_append_right_inj home).mp hline
      exact hnew q hq (haskable.apart q (hbefore q hq) p hp hprefix)
    · obtain rfl := List.mem_singleton.mp hq
      rw [hsource] at hc
      cases hc
      exact hread

/-- A request gets the answer of the source. A file that was served before is not asked for
again, and one that the source does not have leaves the disk alone. -/
theorem Mirrors.request (h : Mirrors cache home source d₀ before d)
    (hcounted : Counted source before (asked log)) (hbefore : ∀ q ∈ before, q ∈ paths)
    (hp : p ∈ paths) :
    ∃ more d', (through cache source p).run (log, d) = (source p, log ++ more, d') ∧
      Mirrors cache home source d₀ (before ++ [p]) d' ∧
      Counted source (before ++ [p]) (asked (log ++ more)) ∧
      ∀ e, source p = .error e → d' = d := by
  obtain ⟨answer, more, d', hrun, hpasses⟩ := passes_through cache source p log d
  have hunserved {e : FileError} (hcache : d.read (place cache p) = .error e) :
      ∀ q ∈ before, pieces q = pieces p → ∀ content, source q ≠ .ok content := by
    intro q hq hpieces content hsource
    have hread := h.served q hq content hsource
    rw [place_eq_iff.mpr (pieces_eq_iff.mp hpieces), hcache] at hread
    cases hread
  refine ⟨more, d', ?_⟩
  rw [hrun, asked_append]
  generalize asked more = asks at hpasses
  cases hpasses with
  | @hit content hcache =>
      obtain ⟨hsource, q, hq, hpieces, hsource'⟩ :=
        h.source_of_read hvacant haskable hbefore hp hcache
      refine ⟨by rw [hsource], h.stays fun c hc => ?_, ?_, fun e he => rfl⟩
      · rw [hsource] at hc
        cases hc
        exact hcache
      · rw [List.append_nil]
        exact hcounted.hit hsource hq hpieces hsource'
  | refused hcache hsource =>
      refine ⟨by rw [hsource], h.stays fun c hc => ?_, ?_, fun e he => rfl⟩
      · rw [hsource] at hc
        cases hc
      · exact hcounted.failed hsource (hunserved hcache)
  | kept hcache hsource hstored =>
      have hnew : ∀ q ∈ before, pieces q ≠ pieces p := by
        intro q hq hpieces
        have hsource' := haskable.alike p hp q (hbefore q hq) hpieces.symm _ hsource
        exact hunserved hcache q hq hpieces _ hsource'
      refine ⟨by rw [hsource], h.kept hvacant haskable hbefore hp hsource hnew hstored,
        hcounted.first hsource hnew, fun e he => ?_⟩
      rw [hsource] at he
      cases he
  | notKept hcache hsource hstored =>
      -- there is room for the file, so it has been kept
      obtain ⟨after, hkept⟩ := h.makesRoom hvacant haskable hbefore hp hsource
      rw [hkept] at hstored
      cases hstored

/-! ## One request after the other -/

omit hvacant haskable in
theorem run_mapM_concat {σ α β : Type} (f : α → StateM σ β) (xs : List α) (x : α) (st : σ) :
    ((xs ++ [x]).mapM f).run st =
      (((xs.mapM f).run st).1 ++ [((f x).run ((xs.mapM f).run st).2).1],
        ((f x).run ((xs.mapM f).run st).2).2) := by
  rw [List.mapM_append, List.mapM_cons, List.mapM_nil]
  rfl

theorem mirrors_run {done : List String} (hdone : ∀ q ∈ done, q ∈ paths) :
    ∃ log d, (done.mapM (through cache source)).run ([], d₀) = (done.map source, log, d) ∧
      Mirrors cache home source d₀ done d ∧ Counted source done (asked log) := by
  induction done using List.reverseRecOn with
  | nil =>
      refine ⟨[], d₀, rfl, ⟨.refl d₀, hvacant.tree, fun _ => .inl rfl, ?_⟩, .nil source⟩
      exact fun p hp => nomatch hp
  | append_singleton done p ih =>
      obtain ⟨hbefore, hp⟩ := List.forall_mem_append.mp hdone
      obtain ⟨log, d, hrun, hmirrors, hcounted⟩ := ih hbefore
      obtain ⟨more, d', hthrough, hmirrors', hcounted', -⟩ :=
        hmirrors.request hvacant haskable hcounted hbefore (hp p (List.mem_singleton_self p))
      refine ⟨log ++ more, d', ?_, hmirrors', hcounted'⟩
      rw [run_mapM_concat, hrun]
      dsimp only
      rw [hthrough, List.map_append]
      rfl

end

/-- However many of the paths have been asked for, each got the answer of the source. The cache
has the files that were served and no others, and elsewhere on the disk nothing is new but
directories. The source was asked each time for what it does not have and once for each file
that it has. What it does not have leaves the disk alone when it is asked for next. -/
theorem cache_transparent (hvacant : Vacant cache home source paths d₀)
    (haskable : Askable source paths) {done : List String} (hdone : done <+: paths) :
    ∃ log d, (done.mapM (through cache source)).run ([], d₀) = (done.map source, log, d) ∧
      (∀ x content, home <+: x → (d.entry? x = some (.file content) ↔
        ∃ p ∈ done, source p = .ok content ∧ x = home ++ pieces p)) ∧
      (∀ x, ¬ home <+: x → d.entry? x = d₀.entry? x ∨
        d₀.entry? x = none ∧ d.entry? x = some .directory) ∧
      Counted source done (asked log) ∧
      ∀ p e, done ++ [p] <+: paths → source p = .error e →
        (((done ++ [p]).mapM (through cache source)).run ([], d₀)).2.2 = d := by
  have hbefore : ∀ q ∈ done, q ∈ paths := fun q hq => hdone.subset hq
  obtain ⟨log, d, hrun, hmirrors, hcounted⟩ := mirrors_run hvacant haskable hbefore
  refine ⟨log, d, hrun, fun x content hx => ⟨fun hfile => ?_, ?_⟩, fun x hx => ?_, hcounted,
    fun p e hnext hsource => ?_⟩
  · rcases hmirrors.entries x with heq | ⟨q, -, -, hdirectory, -⟩ | ⟨q, hq, c, hc, hplace, hserved⟩
    · exact absurd ⟨content, heq.symm.trans hfile⟩ (hvacant.empty x hx)
    · rw [hdirectory] at hfile
      cases hfile
    · rw [hserved] at hfile
      cases hfile
      exact ⟨q, hq, hc, hplace⟩
  · rintro ⟨q, hq, hc, rfl⟩
    exact file_of_read (hvacant.leads.of_grows hmirrors.grows) (haskable.plain q (hbefore q hq))
      (hmirrors.served q hq content hc)
  · rcases hmirrors.entries x with heq | ⟨q, -, hnone, hdirectory, -⟩ | ⟨q, -, c, -, rfl, -⟩
    · exact .inl heq
    · exact .inr ⟨hnone, hdirectory⟩
    · exact absurd (List.prefix_append home (pieces q)) hx
  · have hp : p ∈ paths := hnext.subset (List.mem_append_right _ (List.mem_singleton_self p))
    obtain ⟨more, d', hthrough, -, -, hsame⟩ :=
      hmirrors.request hvacant haskable hcounted hbefore hp
    rw [run_mapM_concat, hrun]
    dsimp only
    rw [hthrough]
    exact hsame e hsource

section

private def oneFile : Files := fun path =>
  if Path.relative path = "etc/x" then .ok [1] else .error (.unreadable path "gone")

private def emptyCache : Disk where
  entries := [(["out"], .directory), (["out", ".cache"], .directory)]

private def fourPaths : List String := ["/etc/x", "/etc/y", "//etc/x", "/etc/y"]

theorem cache_transparent_fourPaths :
    ∃ log d, (fourPaths.mapM (through "out/.cache" oneFile)).run ([], emptyCache) =
        ([.ok [1], .error (.unreadable "/etc/y" "gone"), .ok [1],
          .error (.unreadable "/etc/y" "gone")], log, d) ∧
      d.entry? ["out", ".cache", "etc", "x"] = some (.file [1]) ∧
      (asked log).count "/etc/y" = 2 ∧
      ((asked log).filter fun q => pieces q = pieces "/etc/x").length = 1 := by
  have hserved : oneFile "/etc/x" = .ok [1] := by decide +kernel
  have hmissing : oneFile "/etc/y" = .error (.unreadable "/etc/y" "gone") := by decide +kernel
  have hanswers : fourPaths.map oneFile =
      [.ok [1], .error (.unreadable "/etc/y" "gone"), .ok [1],
        .error (.unreadable "/etc/y" "gone")] := by
    decide +kernel
  have hvacant : Vacant "out/.cache" ["out", ".cache"] oneFile fourPaths emptyCache := by
    refine ⟨isTree_of_entries rfl (by decide), .of_directory (by decide +kernel) rfl, ?_, ?_⟩
    · rintro x hx ⟨c, hc⟩
      cases x with
      | nil => cases hc
      | cons name names =>
          obtain ⟨before, after, hentries, -⟩ := List.lookup_eq_some_iff.mp hc
          have hmem : (name :: names, Entry.file c) ∈ emptyCache.entries := by
            rw [hentries]
            exact List.mem_append_right _ (List.mem_cons_self ..)
          simp [emptyCache] at hmem
    · intro p hp content hsource
      simp only [fourPaths, List.mem_cons, List.not_mem_nil, or_false] at hp
      rcases hp with rfl | rfl | rfl | rfl
      · cases hserved.symm.trans hsource
        decide +kernel
      · cases hmissing.symm.trans hsource
      · have hslashes : oneFile "//etc/x" = .ok [1] := by decide +kernel
        cases hslashes.symm.trans hsource
        decide +kernel
      · cases hmissing.symm.trans hsource
  have haskable : Askable oneFile fourPaths := by
    refine ⟨by decide +kernel, by decide +kernel, ?_⟩
    intro p _ q _ hpieces content hsource
    unfold oneFile at hsource ⊢
    rw [← pieces_eq_iff.mp hpieces]
    split at hsource
    · rename_i hfile
      rw [if_pos hfile, hsource]
    · cases hsource
  obtain ⟨log, d, hrun, hfiles, -, hcounted, -⟩ :=
    cache_transparent hvacant haskable (List.prefix_refl fourPaths)
  refine ⟨log, d, by rw [hrun, hanswers], ?_, ?_, ?_⟩
  · exact (hfiles _ [1] (by decide)).mpr ⟨"/etc/x", by decide, hserved, by decide +kernel⟩
  · rw [hcounted.failing "/etc/y" _ hmissing]
    decide
  · exact hcounted.serving "/etc/x" (by decide) [1] hserved

end

end Source

end ClusterMigration
