import ClusterMigration.Proofs.Storage.Path
import ClusterMigration.Storage.Disk

/-!
# What a file leaves on a disk

A file is put into a directory by way of the names that lead there, and directories that
are missing are made on the way. Nothing else is touched, which is what `put_name` says.
-/

namespace ClusterMigration

namespace Disk

variable {d d₁ d₂ d₃ : Disk} {here place q : List String} {path name : String} {e : Entry}
  {content : Bytes}

/-! ## Entries -/

theorem lookup_filter_ne {entries : List (List String × Entry)} (h : q ≠ place) :
    (entries.filter (·.1 != place)).lookup q = entries.lookup q := by
  induction entries with
  | nil => rfl
  | cons x rest ih =>
      rcases x with ⟨at', e⟩
      by_cases hplace : at' = place
      · have hq : (q == at') = false := by simpa [hplace] using h
        rw [List.filter_cons_of_neg (by simp [hplace]), ih, List.lookup_cons, hq]
      · rw [List.filter_cons_of_pos (by simp [hplace]), List.lookup_cons, List.lookup_cons, ih]

theorem entry?_put_self (h : place ≠ []) : Disk.entry? (d.put place e) place = some e := by
  cases place with
  | nil => exact absurd rfl h
  | cons name rest => simp [put, entry?]

theorem entry?_put_of_ne (h : q ≠ place) : Disk.entry? (d.put place e) q = d.entry? q := by
  cases q with
  | nil => rfl
  | cons name rest =>
      have hq : (name :: rest == place) = false := by simpa using h
      simp only [put, entry?, List.lookup_cons, hq, lookup_filter_ne h]

/-! ## Walks -/

def origin (d : Disk) (absolute : Bool) : List String :=
  if absolute then [] else d.workingDirectory

/-- Directories stay, and the others start where they did. -/
structure Grows (d₁ d₂ : Disk) : Prop where
  workingDirectory : d₂.workingDirectory = d₁.workingDirectory
  directory : ∀ q, d₁.entry? q = some .directory → d₂.entry? q = some .directory

theorem Grows.refl (d : Disk) : Grows d d := ⟨rfl, fun _ hq => hq⟩

theorem Grows.trans {d₃ : Disk} (h : Grows d₁ d₂) (h' : Grows d₂ d₃) : Grows d₁ d₃ :=
  ⟨h'.workingDirectory.trans h.workingDirectory, fun q hq => h'.directory q (h.directory q hq)⟩

theorem Grows.origin (h : Grows d₁ d₂) (absolute : Bool) :
    d₂.origin absolute = d₁.origin absolute := by
  rw [Disk.origin, Disk.origin, h.workingDirectory]

theorem Grows.walk (h : Grows d₁ d₂) {names : List String}
    (hwalk : d₁.walk here names = .ok place) : d₂.walk here names = .ok place := by
  induction names generalizing here with
  | nil => exact hwalk
  | cons name rest ih =>
      unfold Disk.walk at hwalk ⊢
      split at hwalk
      · cases hwalk
      · cases hwalk
      · rename_i hdirectory
        rw [h.directory _ hdirectory]
        split at hwalk
        · rename_i hdot
          simpa only [if_pos hdot] using ih hwalk
        · rename_i hdot
          split at hwalk
          · rename_i hdots
            simpa only [if_neg hdot, if_pos hdots] using ih hwalk
          · rename_i hdots
            split at hwalk
            · cases hwalk
            · rename_i hlong
              simpa only [if_neg hdot, if_neg hdots, if_neg hlong] using ih hwalk

theorem walk_append (d : Disk) (here names more : List String) :
    d.walk here (names ++ more) = (d.walk here names).bind (d.walk · more) := by
  induction names generalizing here with
  | nil => rfl
  | cons name rest ih =>
      rw [List.cons_append, walk, walk]
      split
      · rfl
      · rfl
      · simp only [apply_ite (Except.bind · (d.walk · more)), ih]
        rfl

theorem walk_name (h : Path.IsName name) (hwalk : d.walk here [name] = .ok place) :
    d.entry? here = some .directory ∧ place = here ++ [name] := by
  unfold walk at hwalk
  split at hwalk
  · cases hwalk
  · cases hwalk
  · rename_i hdirectory
    rw [if_neg h.ne_dot, if_neg h.ne_dots] at hwalk
    split at hwalk
    · cases hwalk
    · cases hwalk
      exact ⟨hdirectory, rfl⟩

theorem start_eq_ok (h : d.start path = .ok here) :
    here = d.origin (Path.isAbsolute path) ∧ path.toList.contains '\x00' = false ∧
      path ≠ "" ∧ path.utf8ByteSize ≤ pathLimit := by
  unfold start at h
  split at h
  · cases h
  · split at h
    · cases h
    · split at h
      · cases h
      · cases h
        exact ⟨rfl, by simp_all, by simp_all, by omega⟩

theorem start_of_bounds (hzero : path.toList.contains '\x00' = false) (hne : path ≠ "")
    (hsize : path.utf8ByteSize ≤ pathLimit) :
    d.start path = .ok (d.origin (Path.isAbsolute path)) := by
  rw [start, hzero, if_neg (by decide), if_neg (by simpa using hne), if_neg (by omega)]
  rfl

/-! ## Directories on the way -/

/-- The second disk is the first one with directories made where some of the ways lead. -/
structure Opens (absolute : Bool) (ways : List String → Prop) (d₁ d₂ : Disk) : Prop where
  workingDirectory : d₂.workingDirectory = d₁.workingDirectory
  entries : ∀ q, d₂.entry? q = d₁.entry? q ∨
    d₁.entry? q = none ∧ d₂.entry? q = some .directory ∧
      ∃ names, ways names ∧ d₂.walk (d₂.origin absolute) names = .ok q

variable {absolute : Bool} {ways more : List String → Prop}

theorem Opens.refl (d : Disk) : Opens absolute ways d d := ⟨rfl, fun _ => .inl rfl⟩

theorem Opens.grows (h : Opens absolute ways d₁ d₂) : Grows d₁ d₂ where
  workingDirectory := h.workingDirectory
  directory q hq := by
    rcases h.entries q with heq | ⟨hnone, -⟩
    · rw [heq, hq]
    · rw [hnone] at hq
      cases hq

theorem Opens.mono (h : Opens absolute ways d₁ d₂) (hmore : ∀ names, ways names → more names) :
    Opens absolute more d₁ d₂ := by
  refine ⟨h.workingDirectory, fun q => (h.entries q).imp_right ?_⟩
  rintro ⟨hnone, hdirectory, names, hnames, hwalk⟩
  exact ⟨hnone, hdirectory, names, hmore names hnames, hwalk⟩

theorem Opens.trans (h : Opens absolute ways d₁ d₂) (h' : Opens absolute ways d₂ d₃) :
    Opens absolute ways d₁ d₃ := by
  refine ⟨h'.workingDirectory.trans h.workingDirectory, fun q => ?_⟩
  rcases h.entries q with heq | ⟨hnone, hdirectory, names, hnames, hwalk⟩
  · rw [← heq]
    exact h'.entries q
  · refine .inr ⟨hnone, h'.grows.directory q hdirectory, names, hnames, ?_⟩
    rw [h'.grows.origin]
    exact h'.grows.walk hwalk

theorem grows_put (h : d.entry? place ≠ some .directory) : Grows d (d.put place e) where
  workingDirectory := rfl
  directory q hq := by
    rw [entry?_put_of_ne, hq]
    rintro rfl
    exact h hq

theorem ne_nil_of_no_directory (h : d.entry? place ≠ some .directory) : place ≠ [] := by
  rintro rfl
  exact h rfl

theorem opens_of_makeDirectory {names : List String} (hne : names ≠ [])
    (hnames : ∀ name ∈ names, name ≠ "" ∧ '/' ∉ name.toList)
    (h : d₁.makeDirectory (Path.ofComponents absolute names) = .ok d₂) :
    Opens absolute (· = names) d₁ d₂ := by
  unfold makeDirectory at h
  cases hstart : d₁.start (Path.ofComponents absolute names) with
  | error e =>
      rw [hstart] at h
      cases h
  | ok here =>
      obtain ⟨rfl, -⟩ := start_eq_ok hstart
      rw [Path.isAbsolute_ofComponents hne hnames] at hstart
      rw [hstart, Path.names_ofComponents hne hnames] at h
      simp only [bind, Except.bind] at h
      split at h
      · cases h
      · rename_i place hwalk
        split at h
        · cases h
        · rename_i hnone
          cases h
          have hnot : d₁.entry? place ≠ some .directory := by simp [hnone]
          refine ⟨rfl, fun q => ?_⟩
          by_cases hq : q = place
          · subst hq
            exact .inr ⟨hnone, entry?_put_self (ne_nil_of_no_directory hnot), names, rfl,
              (grows_put hnot).walk hwalk⟩
          · exact .inl (entry?_put_of_ne hq)

/-! ## Runs -/

/-- Whatever becomes of the action, the disk before and the one after it are related. -/
def Leaves {α : Type} (relation : Disk → Disk → Prop) (action : StateM Disk α) : Prop :=
  ∀ d, relation d (action.run d).2

theorem leaves_pure {α : Type} (a : α) : Leaves (Opens absolute ways) (pure a) :=
  fun d => .refl d

theorem Leaves.bind {α β : Type} {action : StateM Disk α} {next : α → StateM Disk β}
    (h : Leaves (Opens absolute ways) action) (hnext : ∀ a, Leaves (Opens absolute ways) (next a)) :
    Leaves (Opens absolute ways) (action >>= next) := by
  intro d
  rw [StateT.run_bind]
  exact (h d).trans (hnext _ _)

theorem leaves_isDirectory (path : String) :
    Leaves (Opens absolute ways) ((storage (m := StateM Disk)).isDirectory path) :=
  fun d => .refl d

theorem run_update (change : Disk → Except FileError Disk) (d : Disk) :
    (update (m := StateM Disk) change).run d =
      match change d with
      | .ok d' => (.ok (), d')
      | .error e => (.error e, d) := by
  have hrun : (update (m := StateM Disk) change).run d =
      StateT.run (m := Id) (match change d with
        | .ok d' => do
          set d'
          return .ok ()
        | .error e => return .error e) d := rfl
  rw [hrun]
  cases change d <;> rfl

theorem leaves_makeDirectory {names : List String} (hne : names ≠ [])
    (hnames : ∀ name ∈ names, name ≠ "" ∧ '/' ∉ name.toList) :
    Leaves (Opens absolute (· = names))
      ((storage (m := StateM Disk)).makeDirectory (Path.ofComponents absolute names)) := by
  intro d
  change Opens _ _ d ((update (m := StateM Disk) _).run d).2
  rw [run_update]
  split
  · rename_i d' h
    exact opens_of_makeDirectory hne hnames h
  · exact .refl d

theorem Leaves.mono {α : Type} {action : StateM Disk α} (h : Leaves (Opens absolute ways) action)
    (hmore : ∀ names, ways names → more names) : Leaves (Opens absolute more) action :=
  fun d => (h d).mono hmore

theorem leaves_settleDirectory (path : String) (result : Except FileError Unit) :
    Leaves (Opens absolute ways)
      ((storage (m := StateM Disk)).settleDirectory path result) := by
  cases result with
  | ok _ => exact leaves_pure _
  | error e =>
      refine (leaves_isDirectory path).bind fun b => ?_
      cases b <;> exact leaves_pure _

theorem leaves_makeDirectories {names : List String}
    (hnames : ∀ name ∈ names, name ≠ "" ∧ '/' ∉ name.toList) :
    Leaves (Opens absolute (· <+: names.reverse))
      ((storage (m := StateM Disk)).makeDirectories absolute names) := by
  induction names with
  | nil => exact leaves_pure _
  | cons name outer ih =>
      have hmake : Leaves (Opens absolute (· <+: (name :: outer).reverse))
          ((storage (m := StateM Disk)).makeDirectory
            (Path.ofComponents absolute (name :: outer).reverse)) :=
        (leaves_makeDirectory (by simp) fun n hn => hnames n (List.mem_reverse.mp hn)).mono
          fun names h => h ▸ List.prefix_refl _
      have houter := (ih fun n hn => hnames n (List.mem_cons_of_mem _ hn)).mono fun names h =>
        h.trans (List.reverse_cons ▸ List.prefix_append outer.reverse [name])
      refine hmake.bind fun result => ?_
      split
      · refine houter.bind fun result => ?_
        cases result with
        | error e => exact leaves_pure _
        | ok _ => exact hmake.bind fun result => leaves_settleDirectory _ _
      · exact leaves_settleDirectory _ _

/-! ## Files -/

theorem run_put (path : String) (content : Bytes) (d : Disk) :
    ((storage (m := StateM Disk)).put path content).run d =
      let made := ((storage (m := StateM Disk)).makeDirectories (Path.isAbsolute path)
        (Path.components path).dropLast.reverse).run d
      match made.1 with
      | .error e => (.error e, made.2)
      | .ok () =>
        match made.2.write path content with
        | .ok d' => (.ok (), d')
        | .error e => (.error e, made.2) := by
  rw [Storage.put, StateT.run_bind]
  rcases ((storage (m := StateM Disk)).makeDirectories (Path.isAbsolute path)
    (Path.components path).dropLast.reverse).run d with ⟨result, d'⟩
  cases result with
  | error e => rfl
  | ok _ => exact run_update (·.write path content) d'

section Name

variable {directory : String} (hname : Path.IsName name) (hne : directory ≠ "")
  (hends : Path.endsInSlash directory = false)

include hne in
theorem start_slash (h : d.start (directory ++ "/" ++ name) = .ok here) :
    d.start directory = .ok here := by
  obtain ⟨rfl, hzero, -, hsize⟩ := start_eq_ok h
  rw [Path.isAbsolute_slash hne]
  refine start_of_bounds ?_ hne ?_
  · simp only [String.toList_append, List.contains_eq_mem, List.mem_append,
      decide_eq_false_iff_not, not_or] at hzero ⊢
    exact hzero.1.1
  · simp only [String.utf8ByteSize_append] at hsize
    omega

include hname hne hends

theorem write_name (h : d₁.write (directory ++ "/" ++ name) content = .ok d₂) :
    ∃ m, d₁.locate directory = .ok m ∧ d₁.entry? m = some .directory ∧
      d₁.entry? (m ++ [name]) ≠ some .directory ∧
      d₂ = d₁.put (m ++ [name]) (.file content) := by
  unfold write at h
  cases hstart : d₁.start (directory ++ "/" ++ name) with
  | error e =>
      rw [hstart] at h
      cases h
  | ok here =>
      rw [hstart, Path.endsInSlash_slash hname, Path.names_slash hname] at h
      simp only [bind, Except.bind, Bool.false_eq_true, ↓reduceIte, walk_append] at h
      have hlocate : d₁.locate directory = d₁.walk here (names directory) := by
        simp [locate, start_slash hne hstart, hends, bind, Except.bind]
      cases hwalk : d₁.walk here (names directory) with
      | error e =>
          rw [hwalk] at h
          cases h
      | ok m =>
          cases hplace : d₁.walk m [name] with
          | error e =>
              simp only [hwalk, hplace] at h
              cases h
          | ok place =>
              obtain ⟨hdirectory, rfl⟩ := walk_name hname hplace
              simp only [hwalk, hplace] at h
              refine ⟨m, hlocate.trans hwalk, hdirectory, ?_⟩
              split at h
              · cases h
              · rename_i hnot
                cases h
                exact ⟨hnot, rfl⟩

end Name

/-- The second disk is the first one with the file in the directory and with directories
made on the way to it. -/
structure Gains (directory name : String) (content : Bytes) (d₁ d₂ : Disk) : Prop where
  workingDirectory : d₂.workingDirectory = d₁.workingDirectory
  entries : ∀ q, d₂.entry? q = d₁.entry? q ∨
    (∃ m, d₂.locate directory = .ok m ∧ q = m ++ [name] ∧ d₂.entry? q = some (.file content)) ∨
    d₁.entry? q = none ∧ d₂.entry? q = some .directory ∧
      ∃ names, names <+: Path.components directory ∧
        d₂.walk (d₂.origin (Path.isAbsolute directory)) names = .ok q

variable {directory : String}

theorem Grows.locate (h : Grows d₁ d₂) (hlocate : d₁.locate directory = .ok place) :
    d₂.locate directory = .ok place := by
  unfold Disk.locate at hlocate ⊢
  cases hstart : d₁.start directory with
  | error e =>
      rw [hstart] at hlocate
      cases hlocate
  | ok here =>
      obtain ⟨rfl, hzero, hne, hsize⟩ := start_eq_ok hstart
      rw [hstart] at hlocate
      rw [start_of_bounds hzero hne hsize, h.origin]
      exact h.walk hlocate

theorem gains_of_opens
    (h : Opens (Path.isAbsolute directory) (· <+: Path.components directory) d₁ d₂) :
    Gains directory name content d₁ d₂ :=
  ⟨h.workingDirectory, fun q => (h.entries q).imp_right .inr⟩

theorem gains_of_put
    (h : Opens (Path.isAbsolute directory) (· <+: Path.components directory) d₁ d₂)
    (hlocate : d₂.locate directory = .ok place)
    (hnot : d₂.entry? (place ++ [name]) ≠ some .directory) :
    Gains directory name content d₁ (d₂.put (place ++ [name]) (.file content)) := by
  have hgrows := grows_put (e := .file content) hnot
  refine ⟨h.workingDirectory, fun q => ?_⟩
  by_cases hq : q = place ++ [name]
  · subst hq
    exact .inr (.inl ⟨place, hgrows.locate hlocate, rfl, entry?_put_self (by simp)⟩)
  · rw [entry?_put_of_ne hq]
    refine (h.entries q).imp_right fun hnew => .inr ?_
    obtain ⟨hnone, hdirectory, names, hnames, hwalk⟩ := hnew
    refine ⟨hnone, hdirectory, names, hnames, ?_⟩
    rw [hgrows.origin]
    exact hgrows.walk hwalk

theorem put_name (hname : Path.IsName name) (hne : directory ≠ "")
    (hends : Path.endsInSlash directory = false) (content : Bytes) (d : Disk) :
    let after := ((storage (m := StateM Disk)).put (directory ++ "/" ++ name) content).run d
    Gains directory name content d after.2 ∧
      (after.1 = .ok () → ∃ m, after.2.locate directory = .ok m ∧
        Disk.entry? after.2 m = some .directory ∧
        Disk.entry? after.2 (m ++ [name]) = some (.file content)) := by
  intro after
  have houter : (Path.components (directory ++ "/" ++ name)).dropLast.reverse =
      (Path.components directory).reverse := by
    rw [Path.components_slash hname, List.dropLast_concat]
  have hopens : Leaves (Opens (Path.isAbsolute directory) (· <+: Path.components directory))
      ((storage (m := StateM Disk)).makeDirectories (Path.isAbsolute directory)
        (Path.components directory).reverse) := by
    have hnames : ∀ n ∈ (Path.components directory).reverse, n ≠ "" ∧ '/' ∉ n.toList :=
      fun n hn => Path.of_mem_components (List.mem_reverse.mp hn)
    have h : Leaves (Opens (Path.isAbsolute directory)
        (· <+: (Path.components directory).reverse.reverse)) _ := leaves_makeDirectories hnames
    rwa [List.reverse_reverse] at h
  have hafter := run_put (directory ++ "/" ++ name) content d
  rw [houter, Path.isAbsolute_slash hne] at hafter
  specialize hopens d
  generalize ((storage (m := StateM Disk)).makeDirectories (Path.isAbsolute directory)
        (Path.components directory).reverse).run d = made at hafter hopens
  obtain ⟨result, d'⟩ := made
  simp only [after, hafter]
  cases result with
  | error e => exact ⟨gains_of_opens hopens, nofun⟩
  | ok _ =>
      dsimp only
      cases hwrite : d'.write (directory ++ "/" ++ name) content with
      | error e => exact ⟨gains_of_opens hopens, nofun⟩
      | ok d'' =>
          obtain ⟨m, hlocate, hdirectory, hnot, rfl⟩ := write_name hname hne hends hwrite
          have hgrows := grows_put (e := .file content) hnot
          exact ⟨gains_of_put hopens hlocate hnot, fun _ => ⟨m, hgrows.locate hlocate,
            hgrows.directory m hdirectory, entry?_put_self (by simp)⟩⟩

end Disk

end ClusterMigration
