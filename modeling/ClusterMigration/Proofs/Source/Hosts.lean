import ClusterMigration.Proofs.Source.Cache

/-!
# Caches of hosts

Each host has a cache of its own below the output directory; that of the host without a name is
around those of the others. The main statement, `hosts_apart`, says that a file of one host and
a file of another have one place in the caches just if the name of the one host leads to the
file that is asked for under the other, which has none, and that a host is otherwise never
served what was kept for another.
-/

namespace ClusterMigration

namespace Source

open Disk

variable {s t : Settings} {d d' later : Disk} {p q : String} {x : List String} {content : Bytes}

/-! ## Places in caches -/

def commonCache (settings : Settings) : String := Path.join settings.outputDirectory ".cache"

def hostPieces (settings : Settings) (path : String) : List String :=
  if settings.hostname = "" then pieces path else settings.hostname :: pieces path

/-- The name of a host, unless it has none, is one piece of a path. -/
def IsHost (settings : Settings) : Prop :=
  settings.hostname = "" ∨ Path.IsName settings.hostname

theorem commonCache_ne_empty (settings : Settings) : commonCache settings ≠ "" :=
  Path.join_ne_empty (by decide) _

theorem endsInSlash_commonCache (settings : Settings) :
    Path.endsInSlash (commonCache settings) = false :=
  Path.endsInSlash_join (by decide) _

theorem segments_cons {name : String} (h : '/' ∉ name.toList) (path : String) :
    Path.segments (name ++ "/" ++ path) = name :: Path.segments path := by
  have htext : (name ++ "/" ++ path).toList = name.toList ++ '/' :: path.toList := by simp
  rw [Path.segments, htext, Path.splitAtSlashes_append, Path.splitAtSlashes_eq_singleton h]
  simp [Path.segments]

theorem exists_place_eq (h : IsHost s) (p : String) :
    ∃ rest, Path.isAbsolute rest = false ∧ Path.segments rest = hostPieces s p ∧
      place s.cacheDirectory p = Path.join (commonCache s) rest := by
  rcases h with hempty | hname
  · refine ⟨Path.relative p, Path.isAbsolute_relative p, ?_, ?_⟩
    · rw [hostPieces, if_pos hempty, pieces]
    · simp [place, Settings.cacheDirectory, hempty, commonCache]
  · have hne := hname.ne_empty
    have hcache : s.cacheDirectory = commonCache s ++ "/" ++ s.hostname := by
      rw [← Path.join_eq_slash (Path.isAbsolute_of_isName hname) (commonCache_ne_empty s)
        (endsInSlash_commonCache s)]
      simp [Settings.cacheDirectory, hne, commonCache]
    have hrest : Path.isAbsolute (s.hostname ++ "/" ++ Path.relative p) = false := by
      rw [Path.isAbsolute_slash hne, Path.isAbsolute_of_isName hname]
    refine ⟨s.hostname ++ "/" ++ Path.relative p, hrest, ?_, ?_⟩
    · rw [hostPieces, if_neg hne, segments_cons hname.no_slash, pieces]
    · have hslash : place s.cacheDirectory p = s.cacheDirectory ++ "/" ++ Path.relative p :=
        Path.join_eq_slash (Path.isAbsolute_relative p)
          (by rw [hcache]; simp [hne])
          (by rw [hcache]; exact Path.endsInSlash_slash hname _)
      rw [hslash, hcache, Path.join_eq_slash hrest (commonCache_ne_empty s)
        (endsInSlash_commonCache s)]
      simp only [String.append_assoc]

/-- The first host has no name, and the path that is asked for under it leads through the name
of the second host to the file of that host. -/
def Covers (s : Settings) (p : String) (t : Settings) (q : String) : Prop :=
  s.hostname = "" ∧ pieces p = t.hostname :: pieces q

def Meet (s : Settings) (p : String) (t : Settings) (q : String) : Prop :=
  Covers s p t q ∨ Covers t q s p

theorem hostPieces_eq_iff (hne : s.hostname ≠ t.hostname) :
    hostPieces s p = hostPieces t q ↔ Meet s p t q := by
  by_cases hs : s.hostname = "" <;> by_cases ht : t.hostname = ""
  · exact absurd (hs.trans ht.symm) hne
  · simp [hostPieces, Meet, Covers, hs, ht]
  · simp [hostPieces, Meet, Covers, hs, ht, eq_comm]
  · simp [hostPieces, Meet, Covers, hs, ht, hne]

theorem place_eq_place_iff (hout : s.outputDirectory = t.outputDirectory)
    (hne : s.hostname ≠ t.hostname) (hs : IsHost s) (ht : IsHost t) :
    place s.cacheDirectory p = place t.cacheDirectory q ↔ Meet s p t q := by
  obtain ⟨rest, habsolute, hpieces, hplace⟩ := exists_place_eq hs p
  obtain ⟨rest', habsolute', hpieces', hplace'⟩ := exists_place_eq ht q
  have hcommon : commonCache t = commonCache s := by rw [commonCache, commonCache, hout]
  rw [hplace, hplace', hcommon, Path.join_inj habsolute habsolute', ← Path.segments_inj, hpieces,
    hpieces', hostPieces_eq_iff hne]

/-! ## Places on a disk -/

theorem isPlain_hostPieces (hs : IsHost s) (hp : IsPlain p) :
    ∀ name ∈ hostPieces s p, Path.IsName name := by
  intro name hname
  rcases hs with hempty | hhost
  · rw [hostPieces, if_pos hempty] at hname
    exact hp name hname
  · rw [hostPieces, if_neg hhost.ne_empty] at hname
    rcases List.mem_cons.mp hname with rfl | hname
    · exact hhost
    · exact hp name hname

theorem exists_locate_eq (hs : IsHost s) (hp : IsPlain p)
    (h : d.locate (place s.cacheDirectory p) = .ok x) :
    ∃ common, d.walk (d.origin (Path.isAbsolute (commonCache s)))
        (Disk.names (commonCache s)) = .ok common ∧ x = common ++ hostPieces s p := by
  obtain ⟨rest, habsolute, hpieces, hplace⟩ := exists_place_eq hs p
  have hplain : Path.IsPlain rest := by
    rw [Path.IsPlain, hpieces]
    exact isPlain_hostPieces hs hp
  rw [hplace] at h
  have hwalk := locate_eq_ok h (Path.endsInSlash_join_of_isPlain hplain)
  rw [Path.isAbsolute_join habsolute, names_below hplain] at hwalk
  obtain ⟨common, hcommon, hfile⟩ := walk_append_eq_ok.mp hwalk
  rw [← hpieces]
  exact ⟨common, hcommon, walk_eq_append (leadIn_of_isPlain hplain) hfile⟩

theorem hostPieces_of_locate (hout : s.outputDirectory = t.outputDirectory) (hs : IsHost s)
    (ht : IsHost t) (hp : IsPlain p) (hq : IsPlain q)
    (hp' : d.locate (place s.cacheDirectory p) = .ok x)
    (hq' : d.locate (place t.cacheDirectory q) = .ok x) : hostPieces s p = hostPieces t q := by
  have hsame : commonCache t = commonCache s := by rw [commonCache, commonCache, hout]
  obtain ⟨common, hcommon, hx⟩ := exists_locate_eq hs hp hp'
  obtain ⟨common', hcommon', hx'⟩ := exists_locate_eq ht hq hq'
  rw [hsame, hcommon] at hcommon'
  obtain rfl := Except.ok.inj hcommon'
  exact List.append_cancel_left (hx.symm.trans hx')

theorem meet_of_locate (hout : s.outputDirectory = t.outputDirectory)
    (hne : s.hostname ≠ t.hostname) (hs : IsHost s) (ht : IsHost t) (hp : IsPlain p)
    (hq : IsPlain q) (hp' : d.locate (place s.cacheDirectory p) = .ok x)
    (hq' : d.locate (place t.cacheDirectory q) = .ok x) : Meet s p t q :=
  (hostPieces_eq_iff hne).mp (hostPieces_of_locate hout hs ht hp hq hp' hq')

/-! ## What is kept by requests -/

theorem endsInSlash_place (hp : IsPlain p) (base : String) :
    Path.endsInSlash (place base p) = false := Path.endsInSlash_join_of_isPlain hp

theorem fetched_grows (hp : IsPlain p) : Grows d (fetched s d p).2 := by
  rcases hfetched : fetched s d p with ⟨answer, d'⟩
  rcases (fetched_eq_iff.mp hfetched).disk_cases with rfl | ⟨content, -, rfl⟩
  · exact .refl _
  · dsimp only
    exact stored_grows (endsInSlash_place hp _) content

theorem file_of_fetched (hp : IsPlain p)
    (h : Disk.entry? (fetched s d p).2 x = some (.file content)) :
    d.entry? x = some (.file content) ∨
      (fetched s d p).2.locate (place s.cacheDirectory p) = .ok x ∧
        d.read (place s.sourceRoot p) = .ok content := by
  rcases hfetched : fetched s d p with ⟨answer, d'⟩
  rw [hfetched] at h
  rcases (fetched_eq_iff.mp hfetched).disk_cases with rfl | ⟨kept, hsource, rfl⟩
  · exact .inl h
  · dsimp only at h ⊢
    rcases file_of_stored (endsInSlash_place hp _) h with hbefore | ⟨hlocate, rfl⟩
    · exact .inl hbefore
    · exact .inr ⟨hlocate, hsource⟩

/-- The disk after requests one after the other, each under settings of its own. -/
def requested (d : Disk) (requests : List (Settings × String)) : Disk :=
  requests.foldl (fun d r => (fetched r.1 d r.2).2) d

theorem requested_cons (d : Disk) (r : Settings × String) (rest : List (Settings × String)) :
    requested d (r :: rest) = requested (fetched r.1 d r.2).2 rest := by
  rw [requested, List.foldl_cons, requested]

theorem requested_grows {requests : List (Settings × String)}
    (h : ∀ r ∈ requests, IsPlain r.2) : Grows d (requested d requests) := by
  induction requests generalizing d with
  | nil => exact .refl d
  | cons r rest ih =>
      obtain ⟨hr, hrest⟩ := List.forall_mem_cons.mp h
      rw [requested_cons]
      exact (fetched_grows hr).trans (ih hrest)

/-- A request under settings that may be those of another host, for a file whose place is not
that of a file of the host, unless it is asked for under the same host. -/
structure Neighbour (t : Settings) (q : String) (r : Settings × String) : Prop where
  outputDirectory : r.1.outputDirectory = t.outputDirectory
  host : IsHost r.1
  plain : IsPlain r.2
  apart : r.1.hostname ≠ t.hostname → ¬ Meet r.1 r.2 t q

theorem Neighbour.same {r : Settings × String} (h : Neighbour t q r) (ht : IsHost t)
    (hq : IsPlain q) (hr : d.locate (place r.1.cacheDirectory r.2) = .ok x)
    (hq' : d.locate (place t.cacheDirectory q) = .ok x) :
    r.1.hostname = t.hostname ∧ pieces r.2 = pieces q := by
  by_cases hhost : r.1.hostname = t.hostname
  · have hpieces := hostPieces_of_locate h.outputDirectory h.host ht h.plain hq hr hq'
    refine ⟨hhost, ?_⟩
    by_cases hempty : t.hostname = ""
    · rwa [hostPieces, hostPieces, if_pos hempty, if_pos (hhost.trans hempty)] at hpieces
    · have hempty' : r.1.hostname ≠ "" := hhost ▸ hempty
      rw [hostPieces, hostPieces, if_neg hempty, if_neg hempty'] at hpieces
      exact (List.cons.inj hpieces).2
  · exact absurd (meet_of_locate h.outputDirectory hhost h.host ht h.plain hq hr hq')
      (h.apart hhost)

/-- At the place of a file in the cache of a host requests leave nothing new but what was asked
for under that host, as the source had it then. -/
theorem file_of_requested {requests : List (Settings × String)} (ht : IsHost t) (hq : IsPlain q)
    (hrequests : ∀ r ∈ requests, Neighbour t q r)
    (hlocate : (requested d requests).locate (place t.cacheDirectory q) = .ok x)
    (h : Disk.entry? (requested d requests) x = some (.file content)) :
    d.entry? x = some (.file content) ∨
      ∃ before r after, requests = before ++ r :: after ∧ r.1.hostname = t.hostname ∧
        pieces r.2 = pieces q ∧
        (requested d before).read (place r.1.sourceRoot r.2) = .ok content := by
  induction requests generalizing d with
  | nil => exact .inl h
  | cons r rest ih =>
      obtain ⟨hr, hrest⟩ := List.forall_mem_cons.mp hrequests
      rw [requested_cons] at hlocate h
      rcases ih hrest hlocate h with hbefore | ⟨before, r', after, rfl, hhost, hpieces, hread⟩
      · rcases file_of_fetched hr.plain hbefore with hfile | ⟨hplace, hread⟩
        · exact .inl hfile
        · have hgrows : Grows (fetched r.1 d r.2).2 (requested (fetched r.1 d r.2).2 rest) :=
            requested_grows fun r hr => (hrest r hr).plain
          obtain ⟨hhost, hpieces⟩ := hr.same ht hq (hgrows.locate hplace) hlocate
          exact .inr ⟨[], r, rest, rfl, hhost, hpieces, by rw [requested, List.foldl_nil, hread]⟩
      · exact .inr ⟨r :: before, r', after, rfl, hhost, hpieces, by rw [requested_cons, hread]⟩

/-- Files that are asked for under two hosts have one place in the caches, in text and on a
disk, just if one of the hosts has no name and the path under it leads through the name of the
other to the file of that one. What a host is served, whatever was asked for before under it
and under others for files that do not meet its own, was in its cache from the beginning or was
in the source when the same file was asked for under the same host. -/
theorem hosts_apart (hout : s.outputDirectory = t.outputDirectory)
    (hne : s.hostname ≠ t.hostname) (hs : IsHost s) (ht : IsHost t) (hp : IsPlain p)
    (hq : IsPlain q) :
    (place s.cacheDirectory p = place t.cacheDirectory q ↔ Meet s p t q) ∧
    (∀ (d : Disk) x, d.locate (place s.cacheDirectory p) = .ok x →
      d.locate (place t.cacheDirectory q) = .ok x → Meet s p t q) ∧
    ∀ d requests, (∀ r ∈ requests, Neighbour t q r) →
      ∀ content, (fetched t (requested d requests) q).1 = .ok content →
        (∃ x, (requested d requests).locate (place t.cacheDirectory q) = .ok x ∧
          d.entry? x = some (.file content)) ∨
        ∃ before r after, requests ++ [(t, q)] = before ++ r :: after ∧
          r.1.hostname = t.hostname ∧ pieces r.2 = pieces q ∧
          (requested d before).read (place r.1.sourceRoot r.2) = .ok content := by
  refine ⟨place_eq_place_iff hout hne hs ht,
    fun d x => meet_of_locate hout hne hs ht hp hq, ?_⟩
  intro d requests hrequests content hserved
  rcases hfetched : fetched t (requested d requests) q with ⟨answer, d'⟩
  rw [hfetched] at hserved
  dsimp only at hserved
  subst hserved
  cases fetched_eq_iff.mp hfetched with
  | hit hcache =>
      obtain ⟨x, hlocate, hfile⟩ := read_eq_ok.mp hcache
      rcases file_of_requested ht hq hrequests hlocate hfile with
        hbefore | ⟨before, r, after, rfl, hr⟩
      · exact .inl ⟨x, hlocate, hbefore⟩
      · exact .inr ⟨before, r, after ++ [(t, q)], by simp, hr⟩
  | kept hcache hsource hstored => exact .inr ⟨requests, (t, q), [], rfl, rfl, rfl, hsource⟩

section

private def hostAt (hostname root : String) : Settings :=
  { hostname := hostname, sourceRoot := root }

/-- Two directories of files of the same name, and a directory that is named as a host. -/
private def twoRoots : Disk where
  entries := [
    (["one"], .directory), (["one", "etc"], .directory), (["one", "etc", "x"], .file [1]),
    (["one", "first"], .directory), (["one", "first", "etc"], .directory),
    (["one", "first", "etc", "x"], .file [3]),
    (["two"], .directory), (["two", "etc"], .directory), (["two", "etc", "x"], .file [2])]

private def first : Settings × String := (hostAt "first" "/one", "/etc/x")

private def second : Settings × String := (hostAt "second" "/two", "/etc/x")

theorem hosts_apart_two :
    place first.1.cacheDirectory first.2 ≠ place second.1.cacheDirectory second.2 ∧
    (fetched second.1 (requested twoRoots [first]) second.2).1 = .ok [2] ∧
    ((∃ x, (requested twoRoots [first]).locate (place second.1.cacheDirectory second.2) = .ok x ∧
        twoRoots.entry? x = some (.file [2])) ∨
      ∃ before r after, [first] ++ [second] = before ++ r :: after ∧
        r.1.hostname = "second" ∧ pieces r.2 = pieces second.2 ∧
        (requested twoRoots before).read (place r.1.sourceRoot r.2) = .ok [2]) := by
  have hne : first.1.hostname ≠ second.1.hostname := by decide
  have hfirst : IsHost first.1 := .inr (by decide)
  have hsecond : IsHost second.1 := .inr (by decide)
  have happart : ¬ Meet first.1 first.2 second.1 second.2 := by
    rintro (⟨hempty, -⟩ | ⟨hempty, -⟩) <;> exact absurd hempty (by decide)
  have hserved : (fetched second.1 (requested twoRoots [first]) second.2).1 = .ok [2] := by
    decide +kernel
  have hneighbour : Neighbour second.1 second.2 first := ⟨rfl, hfirst, by decide, fun _ => happart⟩
  obtain ⟨hplace, -, hsource⟩ := hosts_apart (s := first.1) (t := second.1) (p := first.2)
    (q := second.2) rfl hne hfirst hsecond (by decide) (by decide)
  exact ⟨fun h => happart (hplace.mp h), hserved,
    hsource twoRoots [first] (List.forall_mem_singleton.mpr hneighbour) [2] hserved⟩

/-- The host without a name keeps a file where another host looks for one of its own. -/
theorem hosts_meet :
    (hostAt "" "/one").outputDirectory = (hostAt "first" "/two").outputDirectory ∧
      (hostAt "" "/one").hostname ≠ (hostAt "first" "/two").hostname ∧
      IsHost (hostAt "" "/one") ∧ IsHost (hostAt "first" "/two") ∧
      IsPlain "/first/etc/x" ∧ IsPlain "/etc/x" ∧
      place (hostAt "" "/one").cacheDirectory "/first/etc/x" =
        place (hostAt "first" "/two").cacheDirectory "/etc/x" ∧
      (fetched (hostAt "first" "/two") twoRoots "/etc/x").1 = .ok [2] ∧
      (fetched (hostAt "first" "/two")
        (requested twoRoots [(hostAt "" "/one", "/first/etc/x")]) "/etc/x").1 = .ok [3] := by
  refine ⟨rfl, by decide, .inl rfl, .inr (by decide), by decide, by decide, by decide +kernel,
    by decide +kernel, by decide +kernel⟩

end

end Source

end ClusterMigration
