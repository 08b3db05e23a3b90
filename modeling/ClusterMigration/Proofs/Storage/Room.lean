import ClusterMigration.Proofs.Storage.Storing

/-!
# Room for a file

A file that can be put below a directory finds no file on the line to it and no directory in
its place, which is `line_of_stored`. As long as that stays so it can be put, whatever else has
come to the disk: that is `stored_of_room`.
-/

namespace ClusterMigration

namespace Disk

open ClusterMigration.Path (IsPlain)

variable {d d' d₁ : Disk} {base path : String} {here place : List String} {names : List String}
  {content : Bytes}

/-! ## Walks on two disks -/

/-- Names that lead somewhere on one disk do so on another that has no file on the way, unless
something is missing there. -/
theorem walk_of_walk {x : List String} (h : d₁.walk here names = .ok x)
    (hfile : ∀ pre y, pre <+: names → pre ≠ names → d.walk here pre = .ok y → ¬ d.IsFile y) :
    d.walk here names = .ok x ∨ d.walk here names = .error .notFound := by
  induction names generalizing here with
  | nil => exact .inl h
  | cons name rest ih =>
      cases hhere : d.entry? here with
      | none =>
          right
          rw [walk, hhere]
      | some entry =>
          cases entry with
          | file c =>
              exact absurd ⟨c, hhere⟩
                (hfile [] here List.nil_prefix (List.cons_ne_nil _ _).symm rfl)
          | directory =>
              obtain ⟨m, hname, hrest⟩ := walk_cons_eq_ok.mp h
              have hname' : d.walk here [name] = .ok m := by
                rw [walk_singleton_congr (directory_of_walk_cons hname) hhere, hname]
              have hsplit : name :: rest = [name] ++ rest := rfl
              rw [hsplit, walk_append, hname']
              refine ih hrest fun pre y hpre hne hwalk => ?_
              exact hfile (name :: pre) y ((List.prefix_cons_inj name).mpr hpre)
                (fun heq => hne (List.cons.inj heq).2) (walk_cons_eq_ok.mpr ⟨m, hname', hwalk⟩)

theorem not_isFile_of_walk {x y pre : List String} (h : d.walk here names = .ok x)
    (hx : d.entry? x = some .directory) (hpre : pre <+: names) (hwalk : d.walk here pre = .ok y) :
    ¬ d.IsFile y := by
  obtain ⟨more, rfl⟩ := hpre
  obtain ⟨m, hm, hmore⟩ := walk_append_eq_ok.mp h
  rw [hwalk] at hm
  obtain rfl := Except.ok.inj hm
  rintro ⟨c, hc⟩
  rw [directory_of_walk hmore hx] at hc
  cases hc

/-! ## The line to a file -/

theorem prefix_outer {q : List String} (h : q <+: place ++ Path.segments path)
    (hne : q ≠ place ++ Path.segments path) : q <+: place ++ (Path.segments path).dropLast := by
  obtain ⟨more, hmore⟩ := h
  have hmore' : more ≠ [] := by
    rintro rfl
    exact hne (by rw [← hmore, List.append_nil])
  rw [← List.dropLast_append_of_ne_nil (Path.segments_ne_nil path), ← hmore,
    List.dropLast_append_of_ne_nil hmore']
  exact List.prefix_append _ _

theorem ne_of_prefix_outer {q : List String} (h : q <+: place ++ (Path.segments path).dropLast) :
    q ≠ place ++ Path.segments path := by
  rintro rfl
  have hlength := h.length_le
  have hpos := List.length_pos_iff.mpr (Path.segments_ne_nil path)
  rw [List.length_append, List.length_append, List.length_dropLast] at hlength
  omega

/-- No file is on the line to the file, and in its place is no directory. -/
structure Room (d : Disk) (file : List String) : Prop where
  line : ∀ q, q <+: file → q ≠ file → ¬ d.IsFile q
  place : d.entry? file ≠ some .directory

theorem line_of_stored (htree : d.IsTree) (hleads : LeadsTo d base place) (hplain : IsPlain path)
    (h : d.stored (Path.join base path) content = (.ok (), d')) :
    d.Room (place ++ Path.segments path) := by
  obtain ⟨d₁, hopened, hwrite⟩ := stored_eq_ok h
  have hgrows : Grows d d₁ := (opens_of_openedFor hopened).grows
  have htree₁ : d₁.IsTree := by
    have hopens : (d.openedFor (Path.join base path)).2.IsTree := htree.opened (valid_outer _)
    rwa [hopened] at hopens
  have hleads₁ := hleads.of_grows hgrows
  constructor
  · rintro q hq hne ⟨c, hc⟩
    obtain ⟨outer, hwalk, houter⟩ := exists_houses htree hplain hopened
    obtain rfl := hleads₁.walk_names (leadIn_outer hplain) hwalk
    obtain ⟨more, hmore⟩ := prefix_outer hq hne
    have hdirectory : d₁.entry? q = some .directory := by
      by_cases hnil : more = []
      · rw [hnil, List.append_nil] at hmore
        rw [hmore, houter]
      · exact htree₁.directory hnil (by rw [hmore, houter]; exact Option.some_ne_none _)
    rcases (opens_of_openedFor hopened).entries q with heq | ⟨hnone, -⟩
    · rw [hdirectory, hc] at heq
      cases heq
    · rw [hc] at hnone
      cases hnone
  · intro hdirectory
    obtain ⟨x, hlocate, hnot, -⟩ := write_eq_ok (Path.endsInSlash_join_of_isPlain hplain) hwrite
    obtain ⟨-, rfl⟩ := place_of_locate hleads₁ hplain hlocate
    exact hnot (hgrows.directory _ hdirectory)

/-! ## Making room again -/

variable {later : Disk}

theorem openedFor_of_room (hleads : LeadsTo later base place) (hplain : IsPlain path)
    (hopened : d.openedFor (Path.join base path) = (.ok (), d₁))
    (horigin : later.origin (Path.isAbsolute base) = d.origin (Path.isAbsolute base))
    (htree : later.IsTree) (hroom : later.Room (place ++ Path.segments path)) :
    ∃ after, later.openedFor (Path.join base path) = (.ok (), after) := by
  rcases hlater : later.openedFor (Path.join base path) with ⟨result, after⟩
  have hgrows : Grows later after := (opens_of_openedFor hlater).grows
  have hgrows₁ : Grows d d₁ := (opens_of_openedFor hopened).grows
  have hnone : ∀ pre y, pre <+: (Path.components (Path.join base path)).dropLast →
      after.walk (after.origin (Path.isAbsolute base)) pre = .ok y → ¬ after.IsFile y := by
    rintro pre y hpre hwalk ⟨c, hc⟩
    rcases place_of_outer htree hleads hplain hgrows hpre hwalk with hdirectory | hline
    · rw [hgrows.directory _ hdirectory] at hc
      cases hc
    · exact hroom.line y (prefix_of_outer hline) (ne_of_prefix_outer hline)
        ⟨c, file_of_openedFor hlater hc⟩
  cases result with
  | ok _ => exact ⟨after, rfl⟩
  | error e =>
      exfalso
      rw [openedFor, Path.isAbsolute_join hplain.isAbsolute] at hlater hopened
      have hvalid := valid_outer (Path.join base path)
      have hsteady := hleads.steady htree hplain
      generalize (Path.components (Path.join base path)).dropLast = names at *
      by_cases hne : names = []
      · subst hne
        cases hlater
      · obtain ⟨x, hreach, -⟩ := opened_eq_ok hne hvalid hopened
        have hfits := fits_of_reach_eq_ok hne hvalid hreach
        have hwalk := walk_of_reach hne hvalid hreach
        rw [hgrows₁.origin, ← horigin, ← hgrows.origin] at hwalk
        have hafter := walk_of_walk hwalk fun pre y hpre _ => hnone pre y hpre
        cases (refuses_of_opened htree hvalid hsteady hlater).1 with
        | unreachable h hfound =>
            rw [reach_of_fits hne hvalid hfits] at h
            rcases hafter with hok | hmissing
            · rw [hok] at h
              cases h
            · rw [hmissing] at h
              cases h
              exact hfound rfl
        | taken h hfile => exact hnone names _ List.prefix_rfl (walk_of_reach hne hvalid h) hfile

theorem locate_of_houses {outer x : List String} (hplain : IsPlain path)
    (horigin : later.origin (Path.isAbsolute base) = d.origin (Path.isAbsolute base))
    (hlocate : d.locate (Path.join base path) = .ok x) (hhouses : later.Houses base path outer) :
    later.locate (Path.join base path) = .ok x := by
  have hwalk := locate_eq_ok hlocate (Path.endsInSlash_join_of_isPlain hplain)
  rw [Path.isAbsolute_join hplain.isAbsolute, names_below hplain] at hwalk
  have hsplit : Disk.names base ++ Path.segments path =
      Disk.names base ++ (Path.segments path).dropLast ++
        [(Path.segments path).getLast (Path.segments_ne_nil path)] := by
    rw [List.append_assoc, List.dropLast_concat_getLast]
  obtain ⟨hdirectories, houter⟩ := hhouses
  have hfound : later.walk (later.origin (Path.isAbsolute base))
      (Disk.names base ++ Path.segments path) ≠ .error .notFound := by
    rw [hsplit, walk_append, hdirectories]
    exact walk_singleton_ne houter
  have hlater : later.walk (later.origin (Path.isAbsolute base))
      (Disk.names base ++ Path.segments path) = .ok x := by
    rw [← horigin] at hwalk
    refine (walk_of_walk hwalk fun pre y hpre hne hy => ?_).resolve_right hfound
    exact not_isFile_of_walk hdirectories houter (prefix_outer hpre hne) hy
  rw [← hlocate]
  exact locate_congr hplain (hlater.trans hwalk.symm)

theorem write_of_locate {file : String} {x : List String}
    (hends : Path.endsInSlash file = false) (hlocate : d.locate file = .ok x)
    (hnot : d.entry? x ≠ some .directory) (content : Bytes) :
    d.write file content = .ok (d.put x (.file content)) := by
  rw [write_eq hends, hlocate]
  simp only [Except.bind]

theorem stored_of_room (hleads : LeadsTo d base place) (hplain : IsPlain path)
    (h : d.stored (Path.join base path) content = (.ok (), d')) (hgrows : Grows d later)
    (htree : later.IsTree) (hroom : later.Room (place ++ Path.segments path))
    (content' : Bytes) :
    ∃ after, later.stored (Path.join base path) content' = (.ok (), after) := by
  obtain ⟨d₁, hopened, hwrite⟩ := stored_eq_ok h
  have hleads' := hleads.of_grows hgrows
  obtain ⟨after, hafter⟩ := openedFor_of_room hleads' hplain hopened (hgrows.origin _) htree hroom
  have hopens := opens_of_openedFor hafter
  rw [Path.isAbsolute_join hplain.isAbsolute] at hopens
  obtain ⟨outer, hhouses⟩ := exists_houses htree hplain hafter
  obtain ⟨x, hlocate₁, -, -⟩ := write_eq_ok (Path.endsInSlash_join_of_isPlain hplain) hwrite
  have hlocate : after.locate (Path.join base path) = .ok x := by
    refine locate_of_houses hplain ?_ hlocate₁ hhouses
    rw [hopens.grows.origin, hgrows.origin, (opens_of_openedFor hopened).grows.origin]
  obtain ⟨-, rfl⟩ := place_of_locate (hleads'.of_grows hopens.grows) hplain hlocate
  have hnot : after.entry? (place ++ Path.segments path) ≠ some .directory := by
    intro hdirectory
    rcases hopens.entries (place ++ Path.segments path) with heq | ⟨hnone, -, pre, hpre, hwalk⟩
    · rw [hdirectory] at heq
      exact hroom.place heq.symm
    · rcases place_of_outer htree hleads' hplain hopens.grows hpre hwalk with hbefore | hline
      · rw [hbefore] at hnone
        cases hnone
      · exact ne_of_prefix_outer hline rfl
  have hput := write_of_locate (Path.endsInSlash_join_of_isPlain hplain) hlocate hnot content'
  refine ⟨after.put (place ++ Path.segments path) (.file content'), ?_⟩
  rw [stored_eq, hafter]
  simp only [hput]

end Disk

end ClusterMigration
