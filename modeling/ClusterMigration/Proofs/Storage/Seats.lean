import ClusterMigration.Proofs.Storage.Room

/-!
# Files one after the other

Once the directories for a file are there the file has its seat, and putting it changes what is
in that seat and nothing else. Files that have their seats may be put in any number: each seat
holds what came last, which is `entry?_fill_of_last`, and to put all of them again makes no
difference, which is `entry?_fill_again`.
-/

namespace ClusterMigration

namespace Disk

variable {d d' p : Disk} {absolute : Bool} {names place place' q : List String}
  {file file' name base directory : String} {content : Bytes}

/-! ## Directories that are there -/

def Stands (d : Disk) (absolute : Bool) (names : List String) : Prop :=
  names = [] ∨ ∃ place, d.reach absolute names = .ok place ∧ d.entry? place = some .directory

theorem Stands.opened (hvalid : Valid names) (h : d.Stands absolute names) :
    d.opened absolute names = (.ok (), d) := by
  by_cases hne : names = []
  · subst hne
    rfl
  · obtain ⟨place, hreach, hplace⟩ := h.resolve_left hne
    exact opened_of_directory hne hvalid hreach hplace

theorem Stands.of_grows (hvalid : Valid names) (h : d.Stands absolute names)
    (hgrows : Grows d d') : d'.Stands absolute names := by
  by_cases hne : names = []
  · exact .inl hne
  · obtain ⟨place, hreach, hplace⟩ := h.resolve_left hne
    exact .inr ⟨place, hgrows.reach hne hvalid hreach, hgrows.directory _ hplace⟩

theorem stands_of_opened (hvalid : Valid names) (h : d.opened absolute names = (.ok (), p)) :
    p.Stands absolute names := by
  by_cases hne : names = []
  · exact .inl hne
  · exact .inr (opened_eq_ok hne hvalid h)

theorem stands_of_reach_concat (hvalid : Valid (names ++ [name]))
    (h : d.reach absolute (names ++ [name]) = .ok place) : d.Stands absolute names := by
  by_cases hne : names = []
  · exact .inl hne
  · have hfits : Fits absolute (names ++ [name]) := fits_of_reach_eq_ok (by simp) hvalid h
    have hnames : Valid names := fun n hn => hvalid n (List.mem_append_left _ hn)
    obtain ⟨m, hm, hstep⟩ := walk_append_eq_ok.mp (walk_of_reach (by simp) hvalid h)
    refine .inr ⟨m, ?_, directory_of_walk_cons hstep⟩
    rw [reach_of_fits hne hnames (fits_of_concat hne hfits), hm]

theorem opened_concat_eq_ok (hvalid : Valid (names ++ [name]))
    (h : d.opened absolute (names ++ [name]) = (.ok (), p)) :
    ∃ p₀, d.opened absolute names = (.ok (), p₀) ∧
      p₀.settled absolute (names ++ [name]) = (.ok (), p) := by
  have hnames : Valid names := fun n hn => hvalid n (List.mem_append_left _ hn)
  by_cases hmissing : d.reach absolute (names ++ [name]) = .error .notFound
  · rw [opened_concat hvalid, hmissing] at h
    rcases hopened : d.opened absolute names with ⟨result, p₀⟩
    rw [hopened] at h
    cases result with
    | error e => cases h
    | ok _ => exact ⟨p₀, rfl, h⟩
  · rw [opened_eq_settled hvalid hmissing] at h
    refine ⟨d, Stands.opened hnames ?_, h⟩
    cases hreach : d.reach absolute (names ++ [name]) with
    | ok place => exact stands_of_reach_concat hvalid hreach
    | error e =>
        rw [settled, hreach] at h
        cases h

theorem settled_name (hname : Path.IsName name) (hvalid : Valid (names ++ [name]))
    (h : d.settled absolute (names ++ [name]) = (.ok (), p)) :
    Grows d p ∧ ∀ q, (∀ m, q ≠ m ++ [name]) → p.entry? q = d.entry? q := by
  rw [settled] at h
  split at h
  · cases h
  · rename_i place hreach
    split at h
    · rename_i hnone
      cases h
      obtain ⟨m, -, hstep⟩ := walk_append_eq_ok.mp (walk_of_reach (by simp) hvalid hreach)
      obtain ⟨-, rfl⟩ := walk_name hname hstep
      exact ⟨grows_put (by simp [hnone]), fun q hq => entry?_put_of_ne (hq m)⟩
    · cases h
    · cases h
      exact ⟨.refl d, fun _ _ => rfl⟩

/-! ## Seats -/

/-- The directories for the file are there, and no directory is in its place. -/
structure Seat (d : Disk) (file : String) (place : List String) : Prop where
  ends : Path.endsInSlash file = false
  outer : d.Stands (Path.isAbsolute file) (Path.components file).dropLast
  located : d.locate file = .ok place
  free : d.entry? place ≠ some .directory

theorem Seat.stored (h : d.Seat file place) (content : Bytes) :
    d.stored file content = (.ok (), d.put place (.file content)) := by
  have hopened : d.openedFor file = (.ok (), d) := h.outer.opened (valid_outer file)
  have hwrite := write_of_locate h.ends h.located h.free content
  rw [stored_eq, hopened]
  simp only [hwrite]

theorem Seat.of_grows (h : d.Seat file place) (hgrows : Grows d d')
    (hfree : d'.entry? place ≠ some .directory) : d'.Seat file place where
  ends := h.ends
  outer := h.outer.of_grows (valid_outer file) hgrows
  located := hgrows.locate h.located
  free := hfree

theorem entry?_put_ne_directory (h : d.entry? q ≠ some .directory)
    (h' : d.entry? place ≠ some .directory) (content : Bytes) :
    Disk.entry? (d.put place (.file content)) q ≠ some .directory := by
  by_cases hq : q = place
  · subst hq
    rw [entry?_put_self (ne_nil_of_no_directory h)]
    nofun
  · rwa [entry?_put_of_ne hq]

theorem Seat.put (h : d.Seat file place) (h' : d.Seat file' place') (content : Bytes) :
    (d.put place' (.file content)).Seat file place :=
  h.of_grows (grows_put h'.free) (entry?_put_ne_directory h.free h'.free content)

theorem Seat.ne_nil (h : d.Seat file place) : place ≠ [] := ne_nil_of_no_directory h.free

theorem exists_seat (hends : Path.endsInSlash file = false)
    (h : d.stored file content = (.ok (), d')) :
    ∃ p place, d.openedFor file = (.ok (), p) ∧ p.Seat file place := by
  obtain ⟨p, hopened, hwrite⟩ := stored_eq_ok h
  obtain ⟨place, hlocated, hfree, -⟩ := write_eq_ok hends hwrite
  exact ⟨p, place, hopened, hends, stands_of_opened (valid_outer file) hopened, hlocated, hfree⟩

theorem read_of_seat (h : d.Seat file place) (hentry : d.entry? place = some (.file content)) :
    d.read file = .ok content := by
  rw [read, find, h.located]
  simp only [bind, Except.bind, hentry]

theorem exists_seating {ws : List (String × Bytes)}
    (h : ∀ w ∈ ws, ∃ place, d.Seat w.1 place) :
    ∃ seat : String → List String, ∀ w ∈ ws, d.Seat w.1 (seat w.1) := by
  refine ⟨fun file => (d.locate file).toOption.getD [], fun w hw => ?_⟩
  obtain ⟨place, hplace⟩ := h w hw
  change d.Seat w.1 ((d.locate w.1).toOption.getD [])
  rw [hplace.located]
  exact hplace

/-! ## Files of a list -/

/-- The files of the list are put one after the other, and each time it works. -/
inductive Puts : Disk → List (String × Bytes) → Disk → Prop where
  | nil (d : Disk) : Puts d [] d
  | cons {d d₁ d' : Disk} {file : String} {content : Bytes} {ws : List (String × Bytes)}
    (h : d.stored file content = (.ok (), d₁)) (hrest : Puts d₁ ws d') :
    Puts d ((file, content) :: ws) d'

variable {ws vs before after : List (String × Bytes)} {seat : String → List String}

theorem Puts.of_append (h : Puts d (ws ++ vs) d') : ∃ d₁, Puts d ws d₁ ∧ Puts d₁ vs d' := by
  induction ws generalizing d with
  | nil => exact ⟨d, .nil d, h⟩
  | cons w ws ih =>
      cases h with
      | cons hstored hrest =>
          obtain ⟨d₁, hws, hvs⟩ := ih hrest
          exact ⟨d₁, .cons hstored hws, hvs⟩

theorem Puts.of_openedFor (h : Puts p ws d') (hseats : ∀ w ∈ ws, p.Seat w.1 (seat w.1))
    (hopened : ∀ w ∈ ws.head?, d.openedFor w.1 = (.ok (), p)) (hnil : ws = [] → p = d) :
    Puts d ws d' := by
  cases h with
  | nil => exact hnil rfl ▸ .nil _
  | @cons _ d₁ _ file content ws hstored hrest =>
      have hseat := hseats _ List.mem_cons_self
      have hfirst : d.openedFor file = (.ok (), p) := hopened (file, content) rfl
      have hagain : p.openedFor file = (.ok (), p) := hseat.outer.opened (valid_outer file)
      have hsame : d.stored file content = p.stored file content := by
        rw [stored_eq d, stored_eq p, hfirst, hagain]
      exact .cons (hsame.trans hstored) hrest

def fill (seat : String → List String) (d : Disk) (ws : List (String × Bytes)) : Disk :=
  ws.foldl (fun d w => d.put (seat w.1) (.file w.2)) d

theorem fill_append (d : Disk) (ws vs : List (String × Bytes)) :
    fill seat d (ws ++ vs) = fill seat (fill seat d ws) vs := List.foldl_append

theorem puts_fill (hseats : ∀ w ∈ ws, d.Seat w.1 (seat w.1)) : Puts d ws (fill seat d ws) := by
  induction ws generalizing d with
  | nil => exact .nil d
  | cons w ws ih =>
      have hw := hseats w List.mem_cons_self
      have hrest : Puts (d.put (seat w.1) (.file w.2)) ws (fill seat d (w :: ws)) :=
        ih fun v hv => (hseats v (List.mem_cons_of_mem _ hv)).put hw w.2
      exact .cons (hw.stored w.2) hrest

theorem fill_grows (hseats : ∀ w ∈ ws, d.Seat w.1 (seat w.1)) : Grows d (fill seat d ws) := by
  induction ws generalizing d with
  | nil => exact .refl d
  | cons w ws ih =>
      have hw := hseats w List.mem_cons_self
      apply (grows_put hw.free).trans
      exact ih fun v hv => (hseats v (List.mem_cons_of_mem _ hv)).put hw w.2

theorem Seat.fill (h : d.Seat file place) (hseats : ∀ w ∈ ws, d.Seat w.1 (seat w.1)) :
    (fill seat d ws).Seat file place := by
  induction ws generalizing d with
  | nil => exact h
  | cons w ws ih =>
      have hw := hseats w List.mem_cons_self
      apply ih (h.put hw w.2)
      exact fun v hv => (hseats v (List.mem_cons_of_mem _ hv)).put hw w.2

theorem entry?_fill_of_ne (h : ∀ w ∈ ws, seat w.1 ≠ q) :
    Disk.entry? (fill seat d ws) q = d.entry? q := by
  induction ws generalizing d with
  | nil => rfl
  | cons w ws ih =>
      have hw : q ≠ seat w.1 := (h w List.mem_cons_self).symm
      rw [fill, List.foldl_cons, ← fill, ih fun v hv => h v (List.mem_cons_of_mem _ hv),
        entry?_put_of_ne hw]

theorem entry?_fill_of_last (hws : ws = before ++ (file, content) :: after)
    (hne : seat file ≠ []) (hafter : ∀ w ∈ after, seat w.1 ≠ seat file) :
    Disk.entry? (fill seat d ws) (seat file) = some (.file content) := by
  have hsplit : fill seat d ws =
      fill seat ((fill seat d before).put (seat file) (.file content)) after := by
    rw [hws, fill_append]
    rfl
  rw [hsplit, entry?_fill_of_ne hafter, entry?_put_self hne]

theorem read_fill_of_last (hseats : ∀ w ∈ ws, d.Seat w.1 (seat w.1))
    (hws : ws = before ++ (file, content) :: after)
    (hafter : ∀ w ∈ after, seat w.1 ≠ seat file) : (fill seat d ws).read file = .ok content := by
  have hseat : d.Seat file (seat file) :=
    hseats (file, content) (hws ▸ List.mem_append_right _ List.mem_cons_self)
  exact read_of_seat (hseat.fill hseats) (entry?_fill_of_last hws hseat.ne_nil hafter)

theorem entry?_fill_congr (hseats : ∀ w ∈ ws, seat w.1 ≠ [])
    (h : (∃ w ∈ ws, seat w.1 = q) ∨ d.entry? q = d'.entry? q) :
    Disk.entry? (fill seat d ws) q = Disk.entry? (fill seat d' ws) q := by
  induction ws generalizing d d' with
  | nil => exact h.resolve_left (by simp)
  | cons w ws ih =>
      -- With the first file in its seat the disks are alike there, if they were not before.
      change Disk.entry? (fill seat (d.put (seat w.1) (.file w.2)) ws) q =
        Disk.entry? (fill seat (d'.put (seat w.1) (.file w.2)) ws) q
      apply ih fun v hv => hseats v (List.mem_cons_of_mem _ hv)
      have hw : seat w.1 ≠ [] := hseats w List.mem_cons_self
      by_cases hq : q = seat w.1
      · right
        rw [hq, entry?_put_self hw, entry?_put_self hw]
      · rw [entry?_put_of_ne hq, entry?_put_of_ne hq]
        refine h.imp_left ?_
        rintro ⟨v, hv, hseat⟩
        rcases List.mem_cons.mp hv with rfl | hv
        · exact absurd hseat.symm hq
        · exact ⟨v, hv, hseat⟩

theorem entry?_fill_again (hseats : ∀ w ∈ ws, seat w.1 ≠ []) (q : List String) :
    Disk.entry? (fill seat (fill seat d ws) ws) q = Disk.entry? (fill seat d ws) q := by
  apply entry?_fill_congr hseats
  by_cases hq : ∃ w ∈ ws, seat w.1 = q
  · exact .inl hq
  · exact .inr (entry?_fill_of_ne fun w hw heq => hq ⟨w, hw, heq⟩)

theorem fill_workingDirectory (d : Disk) (ws : List (String × Bytes)) :
    (fill seat d ws).workingDirectory = d.workingDirectory := by
  induction ws generalizing d with
  | nil => rfl
  | cons w ws ih => exact ih _

/-! ## Files in one directory -/

theorem valid_concat (hname : Path.IsName name) (directory : String) :
    Valid (Path.components directory ++ [name]) := by
  rw [← Path.components_join_of_isName hname]
  exact valid_components _

theorem openedFor_join (hname : Path.IsName name) (d : Disk) (base : String) :
    d.openedFor (Path.join base name) = d.opened (Path.isAbsolute base) (Path.components base) := by
  rw [openedFor, Path.isAbsolute_join (Path.isAbsolute_of_isName hname),
    Path.components_join_of_isName hname, List.dropLast_concat]

def LiesAt (d : Disk) (directory : String) (names place : List String) : Prop :=
  ∃ here, d.walk (d.origin (Path.isAbsolute directory)) (Disk.names directory) = .ok here ∧
    place = here ++ names

theorem LiesAt.of_grows (h : d.LiesAt directory names place) (hgrows : Grows d d') :
    d'.LiesAt directory names place := by
  obtain ⟨here, hwalk, hplace⟩ := h
  refine ⟨here, ?_, hplace⟩
  rw [hgrows.origin]
  exact hgrows.walk hwalk

theorem LiesAt.eq_iff {names' : List String} (h : d.LiesAt directory names place)
    (h' : d.LiesAt directory names' place') : place = place' ↔ names = names' := by
  obtain ⟨here, hwalk, rfl⟩ := h
  obtain ⟨here', hwalk', rfl⟩ := h'
  rw [hwalk] at hwalk'
  cases hwalk'
  exact List.append_cancel_left_eq here names names' ▸ Iff.rfl

theorem liesAt_of_locate (hname : Path.IsName name)
    (h : d.locate (Path.join directory name) = .ok place) : d.LiesAt directory [name] place := by
  have hwalk := locate_eq_ok h (Path.endsInSlash_join hname directory)
  rw [Path.isAbsolute_join (Path.isAbsolute_of_isName hname),
    names_below (Path.isPlain_of_isName hname), Path.segments_of_isName hname] at hwalk
  obtain ⟨here, hhere, hstep⟩ := walk_append_eq_ok.mp hwalk
  exact ⟨here, hhere, (walk_name hname hstep).2⟩

theorem LiesAt.of_join (hname : Path.IsName name)
    (h : d.LiesAt (Path.join directory name) names place) :
    d.LiesAt directory (name :: names) place := by
  obtain ⟨m, hwalk, rfl⟩ := h
  rw [Path.isAbsolute_join (Path.isAbsolute_of_isName hname),
    names_below (Path.isPlain_of_isName hname), Path.segments_of_isName hname] at hwalk
  obtain ⟨here, hhere, hstep⟩ := walk_append_eq_ok.mp hwalk
  obtain ⟨-, rfl⟩ := walk_name hname hstep
  exact ⟨here, hhere, by simp⟩

theorem exists_seat_beside (hname : Path.IsName name) {other : String}
    (hother : Path.IsName other) (hne : name ≠ other)
    (hopened : d.opened (Path.isAbsolute directory) (Path.components directory ++ [other]) =
      (.ok (), p))
    (h : d.stored (Path.join directory name) content = (.ok (), d')) :
    ∃ place, p.Seat (Path.join directory name) place := by
  have hvalid := valid_concat hother directory
  obtain ⟨p₀, hfirst, hsettled⟩ := opened_concat_eq_ok hvalid hopened
  obtain ⟨hgrows, hsame⟩ := settled_name hother hvalid hsettled
  obtain ⟨p₁, place, hopened', hseat⟩ := exists_seat (Path.endsInSlash_join hname directory) h
  rw [openedFor_join hname, hfirst] at hopened'
  cases hopened'
  obtain ⟨here, -, rfl⟩ := liesAt_of_locate hname hseat.located
  refine ⟨here ++ [name], hseat.of_grows hgrows ?_⟩
  rw [hsame]
  · exact hseat.free
  · intro m heq
    exact hne (List.singleton_inj.mp (List.append_inj' heq rfl).2)

end Disk

end ClusterMigration
