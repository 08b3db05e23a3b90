import ClusterMigration.Proofs.Storage.Opening

/-!
# Putting a file again

A file is put below a directory by a path without any way around. Directories are made for it,
also where it cannot be written then. Whoever puts it again finds what the first attempt has
left and fares alike, which is `stored_again`, and what has failed once fails for the same
reason wherever what was there is there, which is `stored_of_holds`. What is new on the disk
afterwards are the file and directories on the line to it, as `stored_adds` says.
-/

namespace ClusterMigration

namespace Disk

open ClusterMigration.Path (IsPlain)

variable {d d' : Disk} {base path : String} {place : List String} {content : Bytes}
  {e : FileError} {result : Except FileError Unit}

/-! ## Paths below a directory -/

theorem leadIn_of_isPlain (h : IsPlain path) : LeadIn (Path.segments path) :=
  fun name hname => ⟨(h name hname).ne_dot, (h name hname).ne_dots⟩

theorem leadIn_outer (h : IsPlain path) : LeadIn (Path.segments path).dropLast :=
  fun name hname => leadIn_of_isPlain h name ((List.dropLast_prefix _).subset hname)

theorem names_below (h : IsPlain path) (base : String) :
    Disk.names (Path.join base path) = Disk.names base ++ Path.segments path := by
  rw [Path.names_join h.isAbsolute, Path.names_of_isPlain h]

theorem valid_components (path : String) : Valid (Path.components path) :=
  fun _ hname => Path.of_mem_components hname

theorem valid_outer (path : String) : Valid (Path.components path).dropLast :=
  fun name hname => valid_components path name ((List.dropLast_prefix _).subset hname)

theorem undotted_outer (hplain : IsPlain path) {pre : List String}
    (hpre : pre <+: (Path.components (Path.join base path)).dropLast) :
    undotted pre <+: undotted (Disk.names base) ++ (Path.segments path).dropLast := by
  have houter : undotted (Path.components (Path.join base path)).dropLast =
      undotted (Disk.names base) ++ (Path.segments path).dropLast := by
    rw [Path.components_join hplain, List.dropLast_append_of_ne_nil (Path.segments_ne_nil path),
      undotted_append, undotted_components, undotted_of_leadIn (leadIn_outer hplain)]
  rw [← houter]
  exact hpre.filter _

theorem walk_outer (htree : d.IsTree) (hgrows : Grows d d') {pre : List String}
    (hpre : pre <+: (Path.components (Path.join base path)).dropLast) :
    d'.walk (d'.origin (Path.isAbsolute base)) pre =
      d'.walk (d'.origin (Path.isAbsolute base)) (undotted pre) := by
  refine walk_components ?_ (hpre.trans (List.dropLast_prefix _))
  rw [hgrows.origin]
  exact hgrows.directory _ (htree.origin _)

theorem LeadsTo.steady (h : LeadsTo d base place) (htree : d.IsTree) (hplain : IsPlain path) :
    Steady d (Path.isAbsolute base) (Path.components (Path.join base path)).dropLast := by
  intro d' hgrows pre x hpre hwalk hthere
  rw [walk_outer htree hgrows hpre] at hwalk
  rw [walk_outer htree (.refl d) hpre]
  exact h.walk_of_entry htree hgrows (leadIn_outer hplain) (undotted_outer hplain hpre) hwalk hthere

theorem place_of_outer (htree : d.IsTree) (hleads : LeadsTo d base place) (hplain : IsPlain path)
    (hgrows : Grows d d') {pre x : List String}
    (hpre : pre <+: (Path.components (Path.join base path)).dropLast)
    (hwalk : d'.walk (d'.origin (Path.isAbsolute base)) pre = .ok x) :
    d.entry? x = some .directory ∨ x <+: place ++ (Path.segments path).dropLast := by
  rw [walk_outer htree hgrows hpre] at hwalk
  exact hleads.place_of_walk hgrows (leadIn_outer hplain) (undotted_outer hplain hpre) hwalk

theorem prefix_of_outer {q : List String} (h : q <+: place ++ (Path.segments path).dropLast) :
    q <+: place ++ Path.segments path :=
  h.trans ((List.prefix_append_right_inj place).mpr (List.dropLast_prefix _))

/-! ## Attempts -/

def stored (d : Disk) (file : String) (content : Bytes) : Except FileError Unit × Disk :=
  ((storage (m := StateM Disk)).put file content).run d

def openedFor (d : Disk) (file : String) : Except FileError Unit × Disk :=
  d.opened (Path.isAbsolute file) (Path.components file).dropLast

theorem stored_eq (d : Disk) (file : String) (content : Bytes) :
    d.stored file content =
      match d.openedFor file with
      | (.error e, d') => (.error e, d')
      | (.ok (), d') =>
        match d'.write file content with
        | .ok d'' => (.ok (), d'')
        | .error e => (.error e, d') := by
  rw [stored, run_put, openedFor, opened]
  rcases ((storage (m := StateM Disk)).makeDirectories (Path.isAbsolute file)
    (Path.components file).dropLast.reverse).run d with ⟨result, d'⟩
  cases result <;> rfl

theorem stored_eq_error {file : String} (h : d.stored file content = (.error e, d')) :
    d.openedFor file = (.error e, d') ∨
      d.openedFor file = (.ok (), d') ∧ d'.write file content = .error e := by
  rw [stored_eq] at h
  split at h
  · rename_i e' d₁ hopened
    cases h
    exact .inl hopened
  · rename_i d₁ hopened
    split at h
    · cases h
    · rename_i e' hwrite
      cases h
      exact .inr ⟨hopened, hwrite⟩

theorem stored_eq_ok {file : String} (h : d.stored file content = (.ok (), d')) :
    ∃ d₁, d.openedFor file = (.ok (), d₁) ∧ d₁.write file content = .ok d' := by
  rw [stored_eq] at h
  split at h
  · cases h
  · rename_i d₁ hopened
    split at h
    · rename_i d₂ hwrite
      cases h
      exact ⟨d₁, hopened, hwrite⟩
    · cases h

theorem opens_of_openedFor {file : String} (h : d.openedFor file = (result, d')) :
    Opens (Path.isAbsolute file) (· <+: (Path.components file).dropLast) d d' := by
  have hopens := opened_opens d (Path.isAbsolute file) (valid_outer file)
  rwa [← openedFor, h] at hopens

def Houses (d : Disk) (base path : String) (outer : List String) : Prop :=
  d.walk (d.origin (Path.isAbsolute base))
      (Disk.names base ++ (Path.segments path).dropLast) = .ok outer ∧
    d.entry? outer = some .directory

theorem Houses.of_grows {outer : List String} (h : d.Houses base path outer)
    (hgrows : Grows d d') : d'.Houses base path outer := by
  refine ⟨?_, hgrows.directory _ h.2⟩
  rw [hgrows.origin]
  exact hgrows.walk h.1

theorem exists_houses (htree : d.IsTree) (hplain : IsPlain path)
    (h : d.openedFor (Path.join base path) = (.ok (), d')) :
    ∃ outer, d'.Houses base path outer := by
  have hgrows : Grows d d' := (opens_of_openedFor h).grows
  have hnames : undotted (Disk.names base ++ (Path.segments path).dropLast) =
      undotted (Path.components (Path.join base path)).dropLast := by
    rw [Path.components_join hplain, List.dropLast_append_of_ne_nil (Path.segments_ne_nil path),
      undotted_append, undotted_append, undotted_components]
  have hvalid : Valid (Path.components (Path.join base path)).dropLast := valid_outer _
  rw [openedFor, Path.isAbsolute_join hplain.isAbsolute] at h
  generalize (Path.components (Path.join base path)).dropLast = names at h hnames hvalid
  have hwalk : ∃ outer, d'.walk (d'.origin (Path.isAbsolute base)) (undotted names) = .ok outer ∧
      d'.entry? outer = some .directory := by
    by_cases hne : names = []
    · subst hne
      refine ⟨d'.origin (Path.isAbsolute base), rfl, ?_⟩
      rw [hgrows.origin]
      exact hgrows.directory _ (htree.origin _)
    · obtain ⟨outer, hreach, houter⟩ := opened_eq_ok hne hvalid h
      exact ⟨outer, walk_undotted (walk_of_reach hne hvalid hreach), houter⟩
  obtain ⟨outer, hwalk, houter⟩ := hwalk
  rw [← hnames] at hwalk
  exact ⟨outer, walk_of_undotted hwalk houter, houter⟩

/-! ## Writing -/

theorem write_eq {file : String} (hends : Path.endsInSlash file = false) (d : Disk)
    (content : Bytes) :
    d.write file content = (d.locate file).bind fun place =>
      match d.entry? place with
      | some .directory => .error .aDirectory
      | _ => .ok (d.put place (.file content)) := by
  rw [write, locate, hends]
  cases d.start file with
  | error e => rfl
  | ok here =>
      cases hwalk : d.walk here (Disk.names file) with
      | error e => simp [bind, Except.bind, hwalk]
      | ok place =>
          rcases hentry : d.entry? place with _ | _ | _ <;>
            simp [bind, Except.bind, hwalk, hentry]

theorem start_bind {α : Type} (d d' : Disk) (file : String) (next : Except FileError α) :
    ((d.start file).bind fun _ => next) = (d'.start file).bind fun _ => next := by
  unfold start
  split
  · rfl
  · split
    · rfl
    · split <;> rfl

theorem locate_join (hplain : IsPlain path) (d : Disk) (base : String) :
    d.locate (Path.join base path) = (d.start (Path.join base path)).bind fun _ =>
      d.walk (d.origin (Path.isAbsolute base)) (Disk.names base ++ Path.segments path) := by
  rw [locate, Path.endsInSlash_join_of_isPlain hplain, names_below hplain]
  cases hstart : d.start (Path.join base path) with
  | error e => rfl
  | ok here =>
      obtain ⟨rfl, -⟩ := start_eq_ok hstart
      rw [Path.isAbsolute_join hplain.isAbsolute]
      simp [bind, Except.bind]

theorem locate_congr (hplain : IsPlain path)
    (h : d'.walk (d'.origin (Path.isAbsolute base)) (Disk.names base ++ Path.segments path) =
      d.walk (d.origin (Path.isAbsolute base)) (Disk.names base ++ Path.segments path)) :
    d'.locate (Path.join base path) = d.locate (Path.join base path) := by
  rw [locate_join hplain, locate_join hplain, h, start_bind d' d]

theorem Houses.locate_eq {outer : List String} (h : d.Houses base path outer)
    (hplain : IsPlain path) (hgrows : Grows d d') :
    d'.locate (Path.join base path) = d.locate (Path.join base path) := by
  have h' := h.of_grows hgrows
  have hsplit : Disk.names base ++ Path.segments path =
      Disk.names base ++ (Path.segments path).dropLast ++
        [(Path.segments path).getLast (Path.segments_ne_nil path)] := by
    rw [List.append_assoc, List.dropLast_concat_getLast]
  apply locate_congr hplain
  rw [hsplit, walk_append d', walk_append d, h.1, h'.1]
  exact walk_singleton_congr h.2 h'.2 _

theorem write_error {outer : List String} (hplain : IsPlain path)
    (h : d.Houses base path outer) (hgrows : Grows d d')
    (hwrite : d.write (Path.join base path) content = .error e) :
    d'.write (Path.join base path) content = .error e := by
  have hends : Path.endsInSlash (Path.join base path) = false :=
    Path.endsInSlash_join_of_isPlain hplain
  rw [write_eq hends] at hwrite ⊢
  rw [h.locate_eq hplain hgrows]
  cases hlocate : d.locate (Path.join base path) with
  | error e' =>
      rw [hlocate] at hwrite
      exact hwrite
  | ok file =>
      rw [hlocate] at hwrite
      rcases hentry : d.entry? file with _ | _ | _
      · simp [Except.bind, hentry] at hwrite
      · simp [Except.bind, hentry] at hwrite
      · simp only [Except.bind, hentry] at hwrite
        simp only [Except.bind, hgrows.directory _ hentry]
        exact hwrite

theorem write_eq_ok {file : String} (hends : Path.endsInSlash file = false)
    (hwrite : d.write file content = .ok d') :
    ∃ place, d.locate file = .ok place ∧ d.entry? place ≠ some .directory ∧
      d' = d.put place (.file content) := by
  rw [write_eq hends] at hwrite
  cases hlocate : d.locate file with
  | error e =>
      rw [hlocate] at hwrite
      cases hwrite
  | ok place =>
      rw [hlocate] at hwrite
      simp only [Except.bind] at hwrite
      split at hwrite
      · cases hwrite
      · rename_i hnot
        cases hwrite
        exact ⟨place, rfl, hnot, rfl⟩

theorem read_of_write {file : String} (hends : Path.endsInSlash file = false)
    (hwrite : d.write file content = .ok d') : d'.read file = .ok content := by
  obtain ⟨place, hlocate, hnot, rfl⟩ := write_eq_ok hends hwrite
  have hlocate' := (grows_put (e := .file content) hnot).locate hlocate
  rw [read, find, hlocate']
  simp only [bind, Except.bind, entry?_put_self (ne_nil_of_no_directory hnot)]

/-! ## Attempts that are made again -/

/-- A second attempt fares like the first one and changes nothing. -/
theorem stored_again (htree : d.IsTree) (hleads : LeadsTo d base place) (hplain : IsPlain path)
    (h : d.stored (Path.join base path) content = (.error e, d')) :
    d'.stored (Path.join base path) content = (.error e, d') := by
  have hsteady := hleads.steady htree hplain
  rw [← Path.isAbsolute_join hplain.isAbsolute] at hsteady
  have hagain {result : Except FileError Unit}
      (hopened : d.openedFor (Path.join base path) = (result, d')) :
      d'.openedFor (Path.join base path) = (result, d') :=
    opened_again htree (valid_outer _) hsteady hopened
  rcases stored_eq_error h with hopened | ⟨hopened, hwrite⟩
  · rw [stored_eq, hagain hopened]
  · rw [stored_eq, hagain hopened]
    simp only [hwrite]

theorem stored_of_holds (htree : d.IsTree) (hleads : LeadsTo d base place)
    (hplain : IsPlain path) (h : d.stored (Path.join base path) content = (.error e, d))
    (hholds : Holds (Path.isAbsolute base) (Path.components (Path.join base path)).dropLast d d') :
    d'.stored (Path.join base path) content = (.error e, d') := by
  have hsteady := hleads.steady htree hplain
  rw [← Path.isAbsolute_join hplain.isAbsolute] at hsteady hholds
  have hagain {result : Except FileError Unit}
      (hopened : d.openedFor (Path.join base path) = (result, d)) :
      d'.openedFor (Path.join base path) = (result, d') :=
    opened_of_holds htree (valid_outer _) hsteady hopened hholds
  rcases stored_eq_error h with hopened | ⟨hopened, hwrite⟩
  · rw [stored_eq, hagain hopened]
  · obtain ⟨outer, houses⟩ := exists_houses htree hplain hopened
    rw [stored_eq, hagain hopened]
    simp only [write_error hplain houses hholds.grows hwrite]

theorem read_of_stored (hplain : IsPlain path)
    (h : d.stored (Path.join base path) content = (.ok (), d')) :
    d'.read (Path.join base path) = .ok content := by
  obtain ⟨d₁, -, hwrite⟩ := stored_eq_ok h
  exact read_of_write (Path.endsInSlash_join_of_isPlain hplain) hwrite

/-! ## What is new -/

/-- On the second disk there are directories on the line to a file that were not on the first,
and the file may be another one. -/
structure Adds (file : List String) (d d' : Disk) : Prop where
  workingDirectory : d'.workingDirectory = d.workingDirectory
  entries : ∀ q, d'.entry? q = d.entry? q ∨
    d.entry? q = none ∧ d'.entry? q = some .directory ∧ q <+: file ∨
    (q = file ∧ d.entry? q ≠ some .directory ∧ d'.IsFile q)

theorem Adds.refl (file : List String) (d : Disk) : Adds file d d := ⟨rfl, fun _ => .inl rfl⟩

theorem Adds.grows {file : List String} (h : Adds file d d') : Grows d d' where
  workingDirectory := h.workingDirectory
  directory q hq := by
    rcases h.entries q with heq | ⟨hnone, -⟩ | ⟨-, hnot, -⟩
    · rw [heq, hq]
    · rw [hnone] at hq
      cases hq
    · exact absurd hq hnot

theorem Adds.holds {file names : List String} {absolute : Bool} (h : Adds file d d') :
    Holds absolute names d d' where
  grows := h.grows
  file := by
    rintro - x - - ⟨c, hc⟩
    rcases h.entries x with heq | ⟨hnone, -⟩ | ⟨-, -, hfile⟩
    · exact ⟨c, heq.trans hc⟩
    · rw [hnone] at hc
      cases hc
    · exact hfile

theorem Adds.entry?_eq {file q : List String} (h : Adds file d d') (hq : ¬ q <+: file) :
    d'.entry? q = d.entry? q := by
  rcases h.entries q with heq | ⟨-, -, hprefix⟩ | ⟨rfl, -⟩
  · exact heq
  · exact absurd hprefix hq
  · exact absurd List.prefix_rfl hq

theorem openedFor_adds (htree : d.IsTree) (hleads : LeadsTo d base place)
    (hplain : IsPlain path) :
    Adds (place ++ Path.segments path) d (d.openedFor (Path.join base path)).2 := by
  have hopens := opened_opens d (Path.isAbsolute (Path.join base path))
    (valid_outer (Path.join base path))
  rw [← openedFor, Path.isAbsolute_join hplain.isAbsolute] at hopens
  refine ⟨hopens.workingDirectory, fun q => ?_⟩
  rcases hopens.entries q with heq | ⟨hnone, hdirectory, pre, hpre, hwalk⟩
  · exact .inl heq
  · rcases place_of_outer htree hleads hplain hopens.grows hpre hwalk with hbefore | hline
    · rw [hnone] at hbefore
      cases hbefore
    · exact .inr (.inl ⟨hnone, hdirectory, prefix_of_outer hline⟩)

theorem locate_eq_ok {file : String} {x : List String} (h : d.locate file = .ok x)
    (hends : Path.endsInSlash file = false) :
    d.walk (d.origin (Path.isAbsolute file)) (Disk.names file) = .ok x := by
  rw [locate, hends] at h
  cases hstart : d.start file with
  | error e =>
      rw [hstart] at h
      cases h
  | ok here =>
      obtain ⟨rfl, -⟩ := start_eq_ok hstart
      rw [hstart] at h
      simpa [bind, Except.bind] using h

theorem place_of_locate (hleads : LeadsTo d base place) (hplain : IsPlain path) {x : List String}
    (h : d.locate (Path.join base path) = .ok x) :
    d.walk (d.origin (Path.isAbsolute base)) (Disk.names base ++ Path.segments path) = .ok x ∧
      x = place ++ Path.segments path := by
  have hwalk := locate_eq_ok h (Path.endsInSlash_join_of_isPlain hplain)
  rw [Path.isAbsolute_join hplain.isAbsolute, names_below hplain] at hwalk
  exact ⟨hwalk, hleads.walk_names (leadIn_of_isPlain hplain) hwalk⟩

theorem stored_adds (htree : d.IsTree) (hleads : LeadsTo d base place) (hplain : IsPlain path)
    (content : Bytes) :
    Adds (place ++ Path.segments path) d (d.stored (Path.join base path) content).2 := by
  have hadds := openedFor_adds htree hleads hplain
  rcases hstored : d.stored (Path.join base path) content with ⟨result, d'⟩
  cases result with
  | error e =>
      rcases stored_eq_error hstored with hopened | ⟨hopened, -⟩
      · rwa [hopened] at hadds
      · rwa [hopened] at hadds
  | ok _ =>
      obtain ⟨d₁, hopened, hwrite⟩ := stored_eq_ok hstored
      rw [hopened] at hadds
      obtain ⟨x, hlocate, hnot, rfl⟩ :=
        write_eq_ok (Path.endsInSlash_join_of_isPlain hplain) hwrite
      obtain ⟨-, rfl⟩ := place_of_locate (hleads.of_grows hadds.grows) hplain hlocate
      refine ⟨hadds.workingDirectory, fun q => ?_⟩
      by_cases hq : q = place ++ Path.segments path
      · subst hq
        refine .inr (.inr ⟨rfl, fun hdirectory => hnot (hadds.grows.directory _ hdirectory), ?_⟩)
        exact ⟨content, entry?_put_self (ne_nil_of_no_directory hnot)⟩
      · dsimp only
        rw [entry?_put_of_ne hq]
        rcases hadds.entries q with heq | hnew | ⟨hfile, -⟩
        · exact .inl heq
        · exact .inr (.inl hnew)
        · exact absurd hfile hq

theorem stored_isTree (htree : d.IsTree) (hplain : IsPlain path) (content : Bytes) :
    (d.stored (Path.join base path) content).2.IsTree := by
  have hopenedTree : (d.openedFor (Path.join base path)).2.IsTree := htree.opened (valid_outer _)
  rcases hstored : d.stored (Path.join base path) content with ⟨result, d'⟩
  cases result with
  | error e =>
      rcases stored_eq_error hstored with hopened | ⟨hopened, -⟩
      · rwa [hopened] at hopenedTree
      · rwa [hopened] at hopenedTree
  | ok _ =>
      obtain ⟨d₁, hopened, hwrite⟩ := stored_eq_ok hstored
      rw [hopened] at hopenedTree
      have hends : Path.endsInSlash (Path.join base path) = false :=
        Path.endsInSlash_join_of_isPlain hplain
      obtain ⟨x, hlocate, hnot, rfl⟩ := write_eq_ok hends hwrite
      exact hopenedTree.put (hopenedTree.origin _) (locate_eq_ok hlocate hends) hnot

theorem file_of_openedFor {file : String} {q : List String} {c : Bytes}
    (hopened : d.openedFor file = (result, d')) (h : d'.entry? q = some (.file c)) :
    d.entry? q = some (.file c) := by
  rcases (opens_of_openedFor hopened).entries q with heq | ⟨-, hdirectory, -⟩
  · rw [← heq, h]
  · rw [h] at hdirectory
    cases hdirectory

theorem isFile_of_stored_error
    (h : d.stored (Path.join base path) content = (.error e, d')) {q : List String}
    (hq : d'.IsFile q) : d'.entry? q = d.entry? q := by
  obtain ⟨c, hc⟩ := hq
  rcases stored_eq_error h with hopened | ⟨hopened, -⟩
  · rw [hc, file_of_openedFor hopened hc]
  · rw [hc, file_of_openedFor hopened hc]

theorem stored_grows {file : String} (hends : Path.endsInSlash file = false) (content : Bytes) :
    Grows d (d.stored file content).2 := by
  rcases hstored : d.stored file content with ⟨result, d'⟩
  cases result with
  | error e =>
      rcases stored_eq_error hstored with hopened | ⟨hopened, -⟩
      · exact (opens_of_openedFor hopened).grows
      · exact (opens_of_openedFor hopened).grows
  | ok _ =>
      obtain ⟨d₁, hopened, hwrite⟩ := stored_eq_ok hstored
      obtain ⟨x, -, hnot, rfl⟩ := write_eq_ok hends hwrite
      exact (opens_of_openedFor hopened).grows.trans (grows_put hnot)

theorem file_of_stored {file : String} {q : List String} {c : Bytes}
    (hends : Path.endsInSlash file = false)
    (h : Disk.entry? (d.stored file content).2 q = some (.file c)) :
    d.entry? q = some (.file c) ∨ (d.stored file content).2.locate file = .ok q ∧ c = content := by
  rcases hstored : d.stored file content with ⟨result, d'⟩
  rw [hstored] at h
  cases result with
  | error e =>
      rcases stored_eq_error hstored with hopened | ⟨hopened, -⟩
      · exact .inl (file_of_openedFor hopened h)
      · exact .inl (file_of_openedFor hopened h)
  | ok _ =>
      obtain ⟨d₁, hopened, hwrite⟩ := stored_eq_ok hstored
      obtain ⟨x, hlocate, hnot, rfl⟩ := write_eq_ok hends hwrite
      by_cases hx : q = x
      · subst hx
        dsimp only at h
        rw [entry?_put_self (ne_nil_of_no_directory hnot)] at h
        cases h
        exact .inr ⟨(grows_put hnot).locate hlocate, rfl⟩
      · dsimp only at h
        rw [entry?_put_of_ne hx] at h
        exact .inl (file_of_openedFor hopened h)

/-! ## Reading -/

theorem read_eq_ok {file : String} :
    d.read file = .ok content ↔ ∃ x, d.locate file = .ok x ∧ d.entry? x = some (.file content) := by
  rw [read, find]
  cases hlocate : d.locate file with
  | error e => simp [bind, Except.bind]
  | ok x =>
      rcases hentry : d.entry? x with _ | c | _
      · simp [bind, Except.bind, hentry]
      · simp [bind, Except.bind, hentry]
      · simp [bind, Except.bind, hentry]

theorem walk_of_entries (h : ∀ q, d'.entry? q = d.entry? q) (here names : List String) :
    d'.walk here names = d.walk here names := by
  induction names generalizing here with
  | nil => rfl
  | cons name rest ih => simp only [walk, h, ih]

theorem read_of_entries (hworking : d'.workingDirectory = d.workingDirectory)
    (h : ∀ q, d'.entry? q = d.entry? q) (file : String) : d'.read file = d.read file := by
  simp only [read, find, locate, start, hworking, walk_of_entries h, h]

theorem read_of_grows {file : String} (hgrows : Grows d d') (h : d.read file = .ok content)
    (hsame : ∀ x, d.locate file = .ok x → d'.entry? x = d.entry? x) :
    d'.read file = .ok content := by
  obtain ⟨x, hlocate, hentry⟩ := read_eq_ok.mp h
  refine read_eq_ok.mpr ⟨x, hgrows.locate hlocate, ?_⟩
  rw [hsame x hlocate, hentry]

theorem read_before (htree : d.IsTree) (hleads : LeadsTo d base place) (hgrows : Grows d d')
    (hplain : IsPlain path)
    (hsame : d'.IsFile (place ++ Path.segments path) →
      d'.entry? (place ++ Path.segments path) = d.entry? (place ++ Path.segments path))
    (h : d'.read (Path.join base path) = .ok content) :
    d.read (Path.join base path) = .ok content := by
  obtain ⟨x, hlocate, hentry⟩ := read_eq_ok.mp h
  obtain ⟨hwalk, rfl⟩ := place_of_locate (hleads.of_grows hgrows) hplain hlocate
  rw [hsame ⟨content, hentry⟩] at hentry
  have hbefore := hleads.walk_names_of_entry htree hgrows (leadIn_of_isPlain hplain)
    (Path.segments_ne_nil path) hwalk (by simp [hentry])
  rw [locate_congr hplain (hwalk.trans hbefore.symm)] at hlocate
  exact read_eq_ok.mpr ⟨_, hlocate, hentry⟩

/-- What is read below a directory depends on what is there and on the way to it. -/
theorem read_congr {root : List String} (hgrows : Grows d d')
    (hroot : d.walk (d.origin (Path.isAbsolute base)) (Disk.names base) = .ok root)
    (hplain : IsPlain path)
    (hsame : ∀ pre, pre <+: Path.segments path → d'.entry? (root ++ pre) = d.entry? (root ++ pre)) :
    d'.read (Path.join base path) = d.read (Path.join base path) := by
  have hin : LeadIn (Path.segments path) := leadIn_of_isPlain hplain
  have hroot' : d'.walk (d'.origin (Path.isAbsolute base)) (Disk.names base) = .ok root := by
    rw [hgrows.origin]
    exact hgrows.walk hroot
  have hlocate : d'.locate (Path.join base path) = d.locate (Path.join base path) := by
    apply locate_congr hplain
    rw [walk_append d', walk_append d, hroot, hroot']
    exact walk_congr hin hsame
  rw [read, read, find, find, hlocate]
  cases hplace : d.locate (Path.join base path) with
  | error e => rfl
  | ok x =>
      have hwalk := locate_eq_ok hplace (Path.endsInSlash_join_of_isPlain hplain)
      rw [Path.isAbsolute_join hplain.isAbsolute, names_below hplain, walk_append, hroot] at hwalk
      obtain rfl := walk_eq_append hin hwalk
      simp only [bind, Except.bind, hsame _ List.prefix_rfl]

end Disk

end ClusterMigration
