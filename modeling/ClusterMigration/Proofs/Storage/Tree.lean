import ClusterMigration.Proofs.Storage.Disk

/-!
# Disks as trees

On a disk every entry lies in a directory. So what a path without two dots leads to tells which
directories are on the way, and to make directories that are missing changes nothing for those
who find their way already. The main statements are about paths that lead to a place whether or
not all of the directories on the way are there by now: `LeadsTo.walk_of_entry` and
`LeadsTo.place_of_walk`.
-/

namespace ClusterMigration

namespace Disk

variable {d d' : Disk} {here place : List String} {names ns : List String}

/-- Every entry lies in a directory, and paths that are not absolute start in one. -/
structure IsTree (d : Disk) : Prop where
  workingDirectory : d.entry? d.workingDirectory = some .directory
  parent : ∀ here name, d.entry? (here ++ [name]) ≠ none → d.entry? here = some .directory

/-- It is enough to look at the entries that there are. -/
theorem isTree_of_entries (hworking : d.entry? d.workingDirectory = some .directory)
    (h : ∀ x ∈ d.entries, d.entry? x.1.dropLast = some .directory) : d.IsTree := by
  refine ⟨hworking, fun here name hthere => ?_⟩
  obtain ⟨e, he⟩ := Option.ne_none_iff_exists'.mp hthere
  have hlookup : d.entries.lookup (here ++ [name]) = some e := by
    cases here <;> exact he
  obtain ⟨before, after, hentries, -⟩ := List.lookup_eq_some_iff.mp hlookup
  have hmem : (here ++ [name], e) ∈ d.entries := by
    rw [hentries]
    exact List.mem_append_right _ (List.mem_cons_self ..)
  simpa using h _ hmem

theorem IsTree.origin (h : d.IsTree) (absolute : Bool) :
    d.entry? (d.origin absolute) = some .directory := by
  cases absolute
  · exact h.workingDirectory
  · rfl

theorem IsTree.directory (h : d.IsTree) {more : List String} (hne : more ≠ [])
    (hthere : d.entry? (here ++ more) ≠ none) : d.entry? here = some .directory := by
  induction more generalizing here with
  | nil => exact absurd rfl hne
  | cons name rest ih =>
      have hsplit : here ++ name :: rest = here ++ [name] ++ rest := by simp
      rw [hsplit] at hthere
      have hname : d.entry? (here ++ [name]) ≠ none := by
        by_cases hrest : rest = []
        · rwa [hrest, List.append_nil] at hthere
        · rw [ih hrest hthere]
          exact Option.some_ne_none _
      exact h.parent here name hname

/-! ## Names that lead in -/

def LeadIn (names : List String) : Prop := ∀ name ∈ names, name ≠ "." ∧ name ≠ ".."

theorem LeadIn.append (h : LeadIn names) (hns : LeadIn ns) : LeadIn (names ++ ns) :=
  fun name hname => (List.mem_append.mp hname).elim (h name) (hns name)

theorem walk_in {name : String} (hdirectory : d.entry? here = some .directory)
    (hname : name ≠ "." ∧ name ≠ "..") :
    d.walk here (name :: names) =
      if nameLimit < name.utf8ByteSize then .error .nameTooLong
      else d.walk (here ++ [name]) names := by
  rw [walk, hdirectory]
  simp only [if_neg hname.1, if_neg hname.2]

theorem directory_of_walk_cons {name : String} (h : d.walk here (name :: names) = .ok place) :
    d.entry? here = some .directory := by
  unfold walk at h
  split at h
  · cases h
  · cases h
  · assumption

theorem directory_of_walk (h : d.walk here names = .ok place)
    (hplace : d.entry? place = some .directory) : d.entry? here = some .directory := by
  cases names with
  | nil =>
      cases h
      exact hplace
  | cons name rest => exact directory_of_walk_cons h

theorem walk_eq_append (hin : LeadIn names) (h : d.walk here names = .ok place) :
    place = here ++ names := by
  induction names generalizing here with
  | nil =>
      cases h
      exact (List.append_nil _).symm
  | cons name rest ih =>
      obtain ⟨hname, hrest⟩ := List.forall_mem_cons.mp hin
      rw [walk_in (directory_of_walk_cons h) hname] at h
      split at h
      · cases h
      · rw [ih hrest h, List.append_assoc]
        rfl

theorem IsTree.walk_of_entry (htree : d.IsTree) (hin : LeadIn names)
    (h : d'.walk here names = .ok place) (hthere : d.entry? place ≠ none) :
    d.walk here names = .ok place := by
  induction names generalizing here with
  | nil => exact h
  | cons name rest ih =>
      obtain ⟨hname, hrest⟩ := List.forall_mem_cons.mp hin
      have hplace : place = here ++ name :: rest := walk_eq_append hin h
      have hdirectory : d.entry? here = some .directory :=
        htree.directory (List.cons_ne_nil _ _) (hplace ▸ hthere)
      rw [walk_in (directory_of_walk_cons h) hname] at h
      rw [walk_in hdirectory hname]
      split at h
      · cases h
      · rename_i hlimit
        rw [if_neg hlimit]
        exact ih hrest h

theorem walk_congr (hin : LeadIn names)
    (h : ∀ pre, pre <+: names → d'.entry? (here ++ pre) = d.entry? (here ++ pre)) :
    d'.walk here names = d.walk here names := by
  induction names generalizing here with
  | nil => rfl
  | cons name rest ih =>
      obtain ⟨hname, hrest⟩ := List.forall_mem_cons.mp hin
      have hhere : d'.entry? here = d.entry? here := by
        simpa using h [] (List.nil_prefix)
      have hstep : d'.walk (here ++ [name]) rest = d.walk (here ++ [name]) rest := by
        refine ih hrest fun pre hpre => ?_
        have hpre' : name :: pre <+: name :: rest := (List.prefix_cons_inj name).mpr hpre
        simpa using h (name :: pre) hpre'
      rw [walk, walk, hhere]
      simp only [if_neg hname.1, if_neg hname.2, hstep]

/-! ## Dots -/

/-- A dot stands for nothing, where there is a directory. -/
def undotted (names : List String) : List String := names.filter (· != ".")

theorem undotted_append (names ns : List String) :
    undotted (names ++ ns) = undotted names ++ undotted ns := List.filter_append ..

theorem undotted_of_leadIn (h : LeadIn names) : undotted names = names :=
  List.filter_eq_self.mpr fun name hname => bne_iff_ne.mpr (h name hname).1

theorem walk_dot (hdirectory : d.entry? here = some .directory) :
    d.walk here ("." :: names) = d.walk here names := by
  rw [walk, hdirectory]
  rfl

theorem walk_append_eq_ok :
    d.walk here (names ++ ns) = .ok place ↔
      ∃ m, d.walk here names = .ok m ∧ d.walk m ns = .ok place := by
  rw [walk_append]
  cases d.walk here names with
  | error e => simp [Except.bind]
  | ok m => simp [Except.bind]

theorem walk_cons_eq_ok {name : String} :
    d.walk here (name :: names) = .ok place ↔
      ∃ m, d.walk here [name] = .ok m ∧ d.walk m names = .ok place := by
  rw [← walk_append_eq_ok]
  rfl

theorem undotted_cons {name : String} (h : name ≠ ".") :
    undotted (name :: names) = name :: undotted names :=
  List.filter_cons_of_pos (bne_iff_ne.mpr h)

theorem undotted_dot : undotted ("." :: names) = undotted names :=
  List.filter_cons_of_neg (by simp)

theorem walk_undotted (h : d.walk here names = .ok place) :
    d.walk here (undotted names) = .ok place := by
  induction names generalizing here with
  | nil => exact h
  | cons name rest ih =>
      by_cases hdot : name = "."
      · subst hdot
        rw [walk_dot (directory_of_walk_cons h)] at h
        rw [undotted_dot]
        exact ih h
      · obtain ⟨m, hname, hrest⟩ := walk_cons_eq_ok.mp h
        rw [undotted_cons hdot]
        exact walk_cons_eq_ok.mpr ⟨m, hname, ih hrest⟩

theorem walk_of_undotted (h : d.walk here (undotted names) = .ok place)
    (hplace : d.entry? place = some .directory) : d.walk here names = .ok place := by
  induction names generalizing here with
  | nil => exact h
  | cons name rest ih =>
      by_cases hdot : name = "."
      · subst hdot
        rw [walk_dot (directory_of_walk h hplace)]
        rw [undotted_dot] at h
        exact ih h
      · rw [undotted_cons hdot] at h
        obtain ⟨m, hname, hrest⟩ := walk_cons_eq_ok.mp h
        exact walk_cons_eq_ok.mpr ⟨m, hname, ih hrest⟩

theorem undotted_components (path : String) :
    undotted (Path.components path) = undotted (Disk.names path) := by
  rw [Path.components_eq, Disk.names]
  obtain ⟨first, rest, hpieces⟩ := List.exists_cons_of_ne_nil (Path.segments_ne_nil path)
  have hrest : undotted (rest.filter fun name => !name.isEmpty && name != ".") =
      undotted (rest.filter (!·.isEmpty)) := by
    simp only [undotted, List.filter_filter]
    apply List.filter_congr
    intro name _
    cases name.isEmpty <;> simp
  have hsplit : first :: rest = [first] ++ rest := rfl
  rw [hpieces, Path.namesAmong, undotted_append, hrest, hsplit, List.filter_append,
    undotted_append]

theorem walk_components (hdirectory : d.entry? here = some .directory) {path : String}
    (h : names <+: Path.components path) : d.walk here names = d.walk here (undotted names) := by
  rw [Path.components_eq] at h
  obtain ⟨first, rest, hpieces⟩ := List.exists_cons_of_ne_nil (Path.segments_ne_nil path)
  rw [hpieces, Path.namesAmong] at h
  have hundotted {more : List String}
      (hmore : more <+: rest.filter fun name => !name.isEmpty && name != ".") :
      undotted more = more := by
    apply List.filter_eq_self.mpr
    intro name hname
    have hkept := (List.mem_filter.mp (hmore.subset hname)).2
    exact (Bool.and_eq_true_iff.mp hkept).2
  cases hfirst : first.isEmpty with
  | true =>
      have hmore : names <+: rest.filter fun name => !name.isEmpty && name != "." := by
        simpa [hfirst] using h
      rw [hundotted hmore]
  | false =>
      cases names with
      | nil => rfl
      | cons name more =>
          have hcons : name :: more <+:
              first :: rest.filter fun name => !name.isEmpty && name != "." := by
            simpa [hfirst] using h
          obtain ⟨rfl, hmore⟩ := List.cons_prefix_cons.mp hcons
          by_cases hdot : name = "."
          · subst hdot
            rw [undotted_dot, hundotted hmore, walk_dot hdirectory]
          · rw [undotted_cons hdot, hundotted hmore]

/-! ## Errors that stay -/

def IsFile (d : Disk) (place : List String) : Prop :=
  ∃ content, d.entry? place = some (.file content)

structure Holds (absolute : Bool) (names : List String) (d d' : Disk) : Prop where
  grows : Grows d d'
  file : ∀ pre place, pre <+: names → d.walk (d.origin absolute) pre = .ok place →
    d.IsFile place → d'.IsFile place

theorem walk_singleton_congr (hhere : d.entry? here = some .directory)
    (hhere' : d'.entry? here = some .directory) (name : String) :
    d'.walk here [name] = d.walk here [name] := by
  simp only [walk, hhere, hhere']

theorem walk_error (hgrows : Grows d d')
    (hfile : ∀ pre place, pre <+: names → d.walk here pre = .ok place → d.IsFile place →
      d'.IsFile place)
    {e : FileError} (h : d.walk here names = .error e) (hne : e ≠ .notFound) :
    d'.walk here names = .error e := by
  induction names generalizing here with
  | nil => cases h
  | cons name rest ih =>
      cases hhere : d.entry? here with
      | none =>
          rw [walk, hhere] at h
          cases h
          exact absurd rfl hne
      | some entry =>
          cases entry with
          | file content =>
              obtain ⟨content', hcontent'⟩ := hfile [] here List.nil_prefix rfl ⟨content, hhere⟩
              rw [walk, hhere] at h
              rw [walk, hcontent']
              exact h
          | directory =>
              have hhere' : d'.entry? here = some .directory := hgrows.directory here hhere
              have hstep := walk_singleton_congr hhere hhere' name
              have hsplit : name :: rest = [name] ++ rest := rfl
              rw [hsplit, walk_append] at h ⊢
              rw [hstep]
              cases hname : d.walk here [name] with
              | error e' =>
                  rw [hname] at h
                  exact h
              | ok m =>
                  rw [hname] at h
                  refine ih (fun pre place hpre hwalk => ?_) h
                  exact hfile (name :: pre) place ((List.prefix_cons_inj name).mpr hpre)
                    (walk_cons_eq_ok.mpr ⟨m, hname, hwalk⟩)

/-! ## Trees stay trees -/

theorem IsTree.directory_dropLast (htree : d.IsTree) (hhere : d.entry? here = some .directory) :
    d.entry? here.dropLast = some .directory := by
  by_cases hnil : here = []
  · rw [hnil]
    rfl
  · have hsplit : here.dropLast ++ [here.getLast hnil] = here := List.dropLast_concat_getLast hnil
    apply htree.parent here.dropLast (here.getLast hnil)
    rw [hsplit, hhere]
    exact Option.some_ne_none _

theorem IsTree.parent_of_walk (htree : d.IsTree) (hhere : d.entry? here = some .directory)
    (h : d.walk here names = .ok place) (hplace : d.entry? place = none) :
    ∃ outer name, place = outer ++ [name] ∧ d.entry? outer = some .directory := by
  induction names generalizing here with
  | nil =>
      cases h
      rw [hhere] at hplace
      cases hplace
  | cons name rest ih =>
      obtain ⟨m, hname, hrest⟩ := walk_cons_eq_ok.mp h
      cases hm : d.entry? m with
      | some entry =>
          cases rest with
          | nil =>
              cases hrest
              rw [hm] at hplace
              cases hplace
          | cons next rest => exact ih (directory_of_walk_cons hrest) hrest
      | none =>
          -- then the walk has just come here by a name, and this is its end
          cases rest with
          | cons next rest =>
              rw [directory_of_walk_cons hrest] at hm
              cases hm
          | nil =>
              cases hrest
              rw [walk, hhere] at hname
              simp only [walk] at hname
              split at hname
              · cases hname
                rw [hhere] at hm
                cases hm
              · split at hname
                · cases hname
                  rw [htree.directory_dropLast hhere] at hm
                  cases hm
                · split at hname
                  · cases hname
                  · cases hname
                    exact ⟨here, name, rfl, hhere⟩

theorem IsTree.put (htree : d.IsTree) {e : Entry} (hhere : d.entry? here = some .directory)
    (h : d.walk here names = .ok place) (hplace : d.entry? place ≠ some .directory) :
    (d.put place e).IsTree := by
  have hgrows : Grows d (d.put place e) := grows_put hplace
  have houter : ∃ outer name, place = outer ++ [name] ∧ d.entry? outer = some .directory := by
    cases hentry : d.entry? place with
    | none => exact htree.parent_of_walk hhere h hentry
    | some entry =>
        have hne : place ≠ [] := ne_nil_of_no_directory hplace
        have hsplit : place.dropLast ++ [place.getLast hne] = place :=
          List.dropLast_concat_getLast hne
        refine ⟨place.dropLast, place.getLast hne, hsplit.symm,
          htree.parent place.dropLast (place.getLast hne) ?_⟩
        rw [hsplit, hentry]
        exact Option.some_ne_none _
  obtain ⟨outer, name, rfl, houter⟩ := houter
  constructor
  · exact hgrows.directory _ htree.workingDirectory
  · intro here last hthere
    by_cases hlast : here ++ [last] = outer ++ [name]
    · obtain ⟨rfl, -⟩ := List.append_inj' hlast rfl
      exact hgrows.directory _ houter
    · rw [entry?_put_of_ne hlast] at hthere
      exact hgrows.directory _ (htree.parent here last hthere)

/-! ## Where a path leads -/

/-- The path leads to the place once the directories on the way have been made that are
missing. Two dots in it lead out of directories that are there. -/
inductive LeadsTo (d : Disk) (path : String) (place : List String) : Prop
  | intro {front rest here : List String} (hnames : undotted (Disk.names path) = front ++ rest)
      (hrest : LeadIn rest) (hwalk : d.walk (d.origin (Path.isAbsolute path)) front = .ok here)
      (hhere : d.entry? here = some .directory) (hplace : place = here ++ rest)

variable {path : String} {pre x : List String}

theorem LeadsTo.of_grows (h : LeadsTo d path place) (hgrows : Grows d d') :
    LeadsTo d' path place := by
  obtain ⟨hnames, hrest, hwalk, hhere, hplace⟩ := h
  refine .intro hnames hrest ?_ (hgrows.directory _ hhere) hplace
  rw [hgrows.origin]
  exact hgrows.walk hwalk

theorem LeadsTo.of_directory
    (hwalk : d.walk (d.origin (Path.isAbsolute path)) (Disk.names path) = .ok place)
    (hplace : d.entry? place = some .directory) : LeadsTo d path place :=
  .intro (List.append_nil _).symm nofun (walk_undotted hwalk) hplace (List.append_nil _).symm

theorem IsTree.leadsTo (htree : d.IsTree) (hdots : ".." ∉ Disk.names path) :
    LeadsTo d path (d.origin (Path.isAbsolute path) ++ undotted (Disk.names path)) := by
  refine .intro (List.nil_append _).symm (fun name hname => ?_) rfl (htree.origin _) rfl
  obtain ⟨hmem, hdot⟩ := List.mem_filter.mp hname
  refine ⟨bne_iff_ne.mp hdot, ?_⟩
  rintro rfl
  exact hdots hmem

theorem LeadsTo.walk_names (h : LeadsTo d path place) (hin : LeadIn ns)
    (hwalk : d.walk (d.origin (Path.isAbsolute path)) (Disk.names path ++ ns) = .ok x) :
    x = place ++ ns := by
  obtain @⟨front, rest, here, hnames, hrest, hfront, -, rfl⟩ := h
  have hundotted := walk_undotted hwalk
  rw [undotted_append, undotted_of_leadIn hin, hnames, List.append_assoc] at hundotted
  obtain ⟨m, hm, hmore⟩ := walk_append_eq_ok.mp hundotted
  rw [hfront] at hm
  cases hm
  rw [walk_eq_append (hrest.append hin) hmore, List.append_assoc]

/-- What a part of the way leads to was a directory before, or it is on the line from where
the last two dots have led. -/
theorem LeadsTo.walk_cases (h : LeadsTo d path place) (hgrows : Grows d d') (hin : LeadIn ns)
    (hpre : pre <+: undotted (Disk.names path) ++ ns)
    (hwalk : d'.walk (d'.origin (Path.isAbsolute path)) pre = .ok x) :
    (d.walk (d.origin (Path.isAbsolute path)) pre = .ok x ∧ d.entry? x = some .directory) ∨
      ∃ here front w, pre = front ++ w ∧ LeadIn w ∧
        d.walk (d.origin (Path.isAbsolute path)) front = .ok here ∧ d'.walk here w = .ok x ∧
        x <+: place ++ ns := by
  obtain @⟨front, rest, here, hnames, hrest, hfront, hhere, rfl⟩ := h
  rw [hgrows.origin] at hwalk
  rw [hnames, List.append_assoc] at hpre
  rcases List.prefix_or_prefix_of_prefix hpre (List.prefix_append front (rest ++ ns)) with
    hshort | ⟨w, rfl⟩
  · left
    obtain ⟨more, rfl⟩ := hshort
    obtain ⟨m, hm, hmore⟩ := walk_append_eq_ok.mp hfront
    have hx := hgrows.walk hm
    rw [hwalk] at hx
    cases hx
    exact ⟨hm, directory_of_walk hmore hhere⟩
  · right
    have hw : w <+: rest ++ ns := (List.prefix_append_right_inj front).mp hpre
    have hleadIn : LeadIn w := fun name hname => (hrest.append hin) name (hw.subset hname)
    obtain ⟨m, hm, hmw⟩ := walk_append_eq_ok.mp hwalk
    rw [hgrows.walk hfront] at hm
    cases hm
    refine ⟨here, front, w, rfl, hleadIn, hfront, hmw, ?_⟩
    rw [walk_eq_append hleadIn hmw, List.append_assoc]
    exact (List.prefix_append_right_inj here).mpr hw

theorem LeadsTo.walk_of_entry (h : LeadsTo d path place) (htree : d.IsTree)
    (hgrows : Grows d d') (hin : LeadIn ns) (hpre : pre <+: undotted (Disk.names path) ++ ns)
    (hwalk : d'.walk (d'.origin (Path.isAbsolute path)) pre = .ok x)
    (hthere : d.entry? x ≠ none) :
    d.walk (d.origin (Path.isAbsolute path)) pre = .ok x := by
  rcases h.walk_cases hgrows hin hpre hwalk with ⟨hbefore, -⟩ | h
  · exact hbefore
  · obtain ⟨here, front, w, rfl, hw, hfront, hmore, -⟩ := h
    exact walk_append_eq_ok.mpr ⟨here, hfront, htree.walk_of_entry hw hmore hthere⟩

theorem LeadsTo.place_of_walk (h : LeadsTo d path place) (hgrows : Grows d d') (hin : LeadIn ns)
    (hpre : pre <+: undotted (Disk.names path) ++ ns)
    (hwalk : d'.walk (d'.origin (Path.isAbsolute path)) pre = .ok x) :
    d.entry? x = some .directory ∨ x <+: place ++ ns := by
  rcases h.walk_cases hgrows hin hpre hwalk with ⟨-, hdirectory⟩ | h
  · exact .inl hdirectory
  · obtain ⟨here, front, w, -, -, -, -, hplace⟩ := h
    exact .inr hplace

theorem LeadsTo.walk_names_of_entry (h : LeadsTo d path place) (htree : d.IsTree)
    (hgrows : Grows d d') (hin : LeadIn ns) (hne : ns ≠ [])
    (hwalk : d'.walk (d'.origin (Path.isAbsolute path)) (Disk.names path ++ ns) = .ok x)
    (hthere : d.entry? x ≠ none) :
    d.walk (d.origin (Path.isAbsolute path)) (Disk.names path ++ ns) = .ok x := by
  have hundotted := walk_undotted hwalk
  rw [undotted_append, undotted_of_leadIn hin] at hundotted
  have hbefore := h.walk_of_entry htree hgrows hin List.prefix_rfl hundotted hthere
  obtain ⟨m, hm, hmore⟩ := walk_append_eq_ok.mp hbefore
  obtain ⟨name, rest, rfl⟩ := List.exists_cons_of_ne_nil hne
  have hdirectory : d.entry? m = some .directory := directory_of_walk_cons hmore
  exact walk_append_eq_ok.mpr ⟨m, walk_of_undotted hm hdirectory, hmore⟩

end Disk

end ClusterMigration
