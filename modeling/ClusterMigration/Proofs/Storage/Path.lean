import ClusterMigration.Storage.Disk

/-!
# Names in paths

What stands between the slashes of a path that is put together from a directory and the name
of a file in it.
-/

namespace ClusterMigration

namespace Path

/-- A name that stays where it is used: one piece of a path, and no way around. -/
structure IsName (name : String) : Prop where
  ne_empty : name ≠ ""
  ne_dot : name ≠ "."
  ne_dots : name ≠ ".."
  no_slash : '/' ∉ name.toList

instance (name : String) : Decidable (IsName name) :=
  decidable_of_iff (name ≠ "" ∧ name ≠ "." ∧ name ≠ ".." ∧ '/' ∉ name.toList)
    ⟨fun ⟨hempty, hdot, hdots, hslash⟩ => ⟨hempty, hdot, hdots, hslash⟩,
      fun h => ⟨h.ne_empty, h.ne_dot, h.ne_dots, h.no_slash⟩⟩

/-! ## Pieces -/

theorem splitAtSlashes_ne_nil (text : List Char) : splitAtSlashes text ≠ [] := by
  cases text with
  | nil => simp [splitAtSlashes]
  | cons c rest =>
      rw [splitAtSlashes]
      split
      · simp
      · split <;> simp

theorem splitAtSlashes_append (text more : List Char) :
    splitAtSlashes (text ++ '/' :: more) = splitAtSlashes text ++ splitAtSlashes more := by
  induction text with
  | nil => simp [splitAtSlashes]
  | cons c rest ih =>
      rw [List.cons_append, splitAtSlashes, splitAtSlashes]
      split
      · rw [ih, List.cons_append]
      · rw [ih]
        cases hrest : splitAtSlashes rest with
        | nil => exact absurd hrest (splitAtSlashes_ne_nil rest)
        | cons name names => rfl

theorem splitAtSlashes_eq_singleton {text : List Char} (h : '/' ∉ text) :
    splitAtSlashes text = [text] := by
  induction text with
  | nil => rfl
  | cons c rest ih =>
      obtain ⟨hc, hrest⟩ := not_or.mp (mt List.mem_cons.mpr h)
      rw [splitAtSlashes, if_neg (Ne.symm hc), ih hrest]

theorem no_slash_of_mem_splitAtSlashes {text name : List Char}
    (h : name ∈ splitAtSlashes text) : '/' ∉ name := by
  induction text generalizing name with
  | nil =>
      obtain rfl := List.mem_singleton.mp h
      exact List.not_mem_nil
  | cons c rest ih =>
      rw [splitAtSlashes] at h
      split at h
      · rcases List.mem_cons.mp h with rfl | h
        · exact List.not_mem_nil
        · exact ih h
      · rename_i hc
        cases hrest : splitAtSlashes rest with
        | nil => exact absurd hrest (splitAtSlashes_ne_nil rest)
        | cons first names =>
            rw [hrest] at h ih
            rcases List.mem_cons.mp h with rfl | h
            · exact List.not_mem_cons_of_ne_of_not_mem (Ne.symm hc) (ih (List.mem_cons_self ..))
            · exact ih (List.mem_cons_of_mem _ h)

theorem intercalate_splitAtSlashes (text : List Char) :
    ['/'].intercalate (splitAtSlashes text) = text := by
  induction text with
  | nil => rfl
  | cons c rest ih =>
      rw [splitAtSlashes]
      cases hrest : splitAtSlashes rest with
      | nil => exact absurd hrest (splitAtSlashes_ne_nil rest)
      | cons name names =>
          rw [hrest] at ih
          split
          · rename_i hc
            rw [List.intercalate_cons_cons, ih, hc]
            rfl
          · cases names with
            | nil => simpa using ih
            | cons other names =>
                rw [List.intercalate_cons_cons] at ih ⊢
                rw [← ih]
                rfl

theorem segments_inj {path path' : String} : segments path = segments path' ↔ path = path' := by
  refine ⟨fun h => ?_, congrArg segments⟩
  have hpieces : splitAtSlashes path.toList = splitAtSlashes path'.toList :=
    (List.map_inj_right fun _ _ => String.ofList_inj.mp).mp h
  rw [← String.toList_inj, ← intercalate_splitAtSlashes path.toList, hpieces,
    intercalate_splitAtSlashes]

theorem segments_slash {directory name : String} (h : '/' ∉ name.toList) :
    segments (directory ++ "/" ++ name) = segments directory ++ [name] := by
  have htext : (directory ++ "/" ++ name).toList =
      directory.toList ++ '/' :: name.toList := by
    simp
  rw [segments, htext, splitAtSlashes_append, splitAtSlashes_eq_singleton h]
  simp [segments]

/-! ## Components -/

theorem of_mem_components {path name : String} (h : name ∈ components path) :
    name ≠ "" ∧ '/' ∉ name.toList := by
  have hsegment : name ∈ segments path ∧ name ≠ "" := by
    unfold components at h
    split at h
    · cases h
    · rename_i heq
      rw [heq]
      rcases List.mem_append.mp h with h | h
      · obtain ⟨hmem, hne⟩ := List.mem_filter.mp h
        obtain rfl := List.mem_singleton.mp hmem
        exact ⟨List.mem_cons_self .., by simpa using hne⟩
      · obtain ⟨hmem, hne⟩ := List.mem_filter.mp h
        simp only [Bool.and_eq_true, Bool.not_eq_true', String.isEmpty_eq_false_iff] at hne
        exact ⟨List.mem_cons_of_mem _ hmem, hne.1⟩
  obtain ⟨chars, hchars, rfl⟩ := List.mem_map.mp hsegment.1
  rw [String.toList_ofList]
  exact ⟨hsegment.2, no_slash_of_mem_splitAtSlashes hchars⟩

theorem components_slash {directory name : String} (h : IsName name) :
    components (directory ++ "/" ++ name) = components directory ++ [name] := by
  have hsegments : segments (directory ++ "/" ++ name) = segments directory ++ [name] :=
    segments_slash h.no_slash
  have hname : (!name.isEmpty && name != ".") = true := by
    simp [h.ne_empty, h.ne_dot]
  cases hdirectory : segments directory with
  | nil =>
      rw [segments, List.map_eq_nil_iff] at hdirectory
      exact absurd hdirectory (splitAtSlashes_ne_nil _)
  | cons first rest =>
      rw [hdirectory] at hsegments
      simp only [components, hsegments, hdirectory, List.cons_append, List.filter_append,
        List.append_assoc]
      rw [List.filter_cons_of_pos (p := fun name => !name.isEmpty && name != ".") hname]
      rfl

theorem names_slash {directory name : String} (h : IsName name) :
    Disk.names (directory ++ "/" ++ name) = Disk.names directory ++ [name] := by
  rw [Disk.names, segments_slash h.no_slash, List.filter_append]
  simp [Disk.names, h.ne_empty]

/-! ## Paths that are put together -/

theorem toList_intercalate (names : List String) :
    ("/".intercalate names).toList = ['/'].intercalate (names.map String.toList) := by
  rw [String.toList_intercalate]
  rfl

theorem intercalate_concat {names : List String} (hne : names ≠ []) (name : String) :
    "/".intercalate (names ++ [name]) = "/".intercalate names ++ "/" ++ name := by
  induction names with
  | nil => exact absurd rfl hne
  | cons first rest ih =>
      by_cases hrest : rest = []
      · simp [hrest, String.intercalate_cons_cons]
      · have hconcat : rest ++ [name] ≠ [] := by simp
        rw [List.cons_append, String.intercalate_cons_of_ne_nil hconcat, ih hrest,
          String.intercalate_cons_of_ne_nil hrest]
        simp only [String.append_assoc]

theorem splitAtSlashes_intercalate {names : List (List Char)} (hne : names ≠ [])
    (h : ∀ name ∈ names, '/' ∉ name) :
    splitAtSlashes (['/'].intercalate names) = names := by
  induction names with
  | nil => exact absurd rfl hne
  | cons name names ih =>
      obtain ⟨hname, hnames⟩ := List.forall_mem_cons.mp h
      cases names with
      | nil =>
          rw [List.intercalate_singleton]
          exact splitAtSlashes_eq_singleton hname
      | cons other names =>
          rw [List.intercalate_cons_cons, List.append_assoc, List.singleton_append,
            splitAtSlashes_append, ih (List.cons_ne_nil _ _) hnames,
            splitAtSlashes_eq_singleton hname]
          rfl

theorem segments_intercalate {names : List String} (hne : names ≠ [])
    (h : ∀ name ∈ names, '/' ∉ name.toList) : segments ("/".intercalate names) = names := by
  rw [segments, toList_intercalate, splitAtSlashes_intercalate]
  · simp
  · simpa using hne
  · simpa using h

theorem segments_ofComponents {absolute : Bool} {names : List String} (hne : names ≠ [])
    (h : ∀ name ∈ names, name ≠ "" ∧ '/' ∉ name.toList) :
    segments (ofComponents absolute names) = (if absolute then [""] else []) ++ names := by
  have hsegments := segments_intercalate hne fun name hname => (h name hname).2
  cases absolute with
  | false =>
      have hpath : ofComponents false names = "/".intercalate names := by simp [ofComponents]
      rw [hpath, hsegments]
      rfl
  | true =>
      have htext : (ofComponents true names).toList =
          [] ++ '/' :: ("/".intercalate names).toList := by
        simp [ofComponents]
      rw [segments, htext, splitAtSlashes_append, List.map_append, ← segments, hsegments]
      rfl

theorem names_ofComponents {absolute : Bool} {names : List String} (hne : names ≠ [])
    (h : ∀ name ∈ names, name ≠ "" ∧ '/' ∉ name.toList) :
    Disk.names (ofComponents absolute names) = names := by
  have hfilter : names.filter (!·.isEmpty) = names :=
    List.filter_eq_self.mpr fun name hname => by simp [(h name hname).1]
  rw [Disk.names, segments_ofComponents hne h, List.filter_append, hfilter]
  cases absolute <;> rfl

theorem isAbsolute_ofComponents {absolute : Bool} {names : List String} (hne : names ≠ [])
    (h : ∀ name ∈ names, name ≠ "" ∧ '/' ∉ name.toList) :
    isAbsolute (ofComponents absolute names) = absolute := by
  cases absolute with
  | true => simp [isAbsolute, ofComponents]
  | false =>
      have hpath : ofComponents false names = "/".intercalate names := by simp [ofComponents]
      rw [isAbsolute, hpath, toList_intercalate]
      cases names with
      | nil => exact absurd rfl hne
      | cons name names =>
          obtain ⟨hempty, hslash⟩ := h name (List.mem_cons_self ..)
          obtain ⟨c, chars, hchars⟩ := List.exists_cons_of_ne_nil
            (mt String.toList_eq_nil_iff.mp hempty)
          have hc : c ≠ '/' := by
            rintro rfl
            exact hslash (by simp [hchars])
          cases names with
          | nil => simp [hchars, hc]
          | cons other names => simp [hchars, hc, List.intercalate_cons_cons]

theorem join_eq_slash {base path : String} (hpath : isAbsolute path = false)
    (hbase : base ≠ "") (hends : endsInSlash base = false) :
    join base path = base ++ "/" ++ path := by
  simp [join, hpath, hbase, hends]

theorem isAbsolute_slash {directory : String} (h : directory ≠ "") (name : String) :
    isAbsolute (directory ++ "/" ++ name) = isAbsolute directory := by
  obtain ⟨c, chars, hchars⟩ := List.exists_cons_of_ne_nil
    (mt String.toList_eq_nil_iff.mp h)
  simp [isAbsolute, hchars]

theorem endsInSlash_append {name : String} (h : IsName name) (front : String) :
    endsInSlash (front ++ name) = false := by
  obtain ⟨c, chars, hchars⟩ := List.exists_cons_of_ne_nil
    (mt String.toList_eq_nil_iff.mp h.ne_empty)
  have hlast : (c :: chars).getLast (List.cons_ne_nil _ _) ≠ '/' := fun heq =>
    h.no_slash (hchars ▸ heq ▸ List.getLast_mem _)
  simpa [endsInSlash, hchars, List.getLast?_append, List.getLast?_eq_some_getLast] using hlast

theorem endsInSlash_slash {name : String} (h : IsName name) (directory : String) :
    endsInSlash (directory ++ "/" ++ name) = false := endsInSlash_append h (directory ++ "/")

theorem isAbsolute_of_isName {name : String} (h : IsName name) : isAbsolute name = false := by
  obtain ⟨c, chars, hchars⟩ := List.exists_cons_of_ne_nil
    (mt String.toList_eq_nil_iff.mp h.ne_empty)
  have hc : c ≠ '/' := by
    rintro rfl
    exact h.no_slash (by simp [hchars])
  simp [isAbsolute, hchars, hc]

/-! ## Paths that are joined -/

theorem names_eq (path : String) :
    Disk.names path = ((splitAtSlashes path.toList).filter (!·.isEmpty)).map String.ofList := by
  rw [Disk.names, segments, List.filter_map]
  congr 1
  apply List.filter_congr
  intro name _
  cases name <;> simp

theorem names_relative (path : String) : Disk.names (relative path) = Disk.names path := by
  have hdrop (text : List Char) :
      (splitAtSlashes (text.dropWhile (· == '/'))).filter (!·.isEmpty) =
        (splitAtSlashes text).filter (!·.isEmpty) := by
    induction text with
    | nil => rfl
    | cons c rest ih =>
        by_cases hc : c = '/'
        · simp [hc, splitAtSlashes, ih]
        · simp [hc]
  rw [names_eq, names_eq, relative, String.toList_ofList, hdrop]

theorem isAbsolute_relative (path : String) : isAbsolute (relative path) = false := by
  have hhead := List.head?_dropWhile_not (· == '/') path.toList
  rw [isAbsolute, relative, String.toList_ofList]
  cases hfirst : (path.toList.dropWhile (· == '/')).head? with
  | none => rfl
  | some c =>
      rw [hfirst] at hhead
      simpa using hhead

theorem exists_of_endsInSlash {path : String} (h : endsInSlash path = true) :
    ∃ front, path.toList = front ++ ['/'] := by
  rw [endsInSlash, beq_iff_eq, List.getLast?_eq_some_iff] at h
  exact h

theorem endsInSlash_of_segments {path : String} {pieces more : List String}
    (hsegments : segments path = pieces ++ more) (hne : more ≠ [])
    (h : ∀ name ∈ more, name ≠ "") : endsInSlash path = false := by
  apply Bool.eq_false_iff.mpr
  intro hends
  obtain ⟨front, hfront⟩ := exists_of_endsInSlash hends
  have hlast : (segments path).getLast? = some "" := by
    rw [segments, hfront, splitAtSlashes_append, List.map_append]
    exact List.getLast?_concat ..
  rw [hsegments, List.getLast?_append, List.getLast?_eq_some_getLast hne, Option.some_or] at hlast
  exact h _ (List.getLast_mem hne) (Option.some.inj hlast)

theorem names_join {base path : String} (h : isAbsolute path = false) :
    Disk.names (join base path) = Disk.names base ++ Disk.names path := by
  have hslash (front more : List Char) :
      (splitAtSlashes (front ++ '/' :: more)).filter (!·.isEmpty) =
        (splitAtSlashes front).filter (!·.isEmpty) ++
          (splitAtSlashes more).filter (!·.isEmpty) := by
    rw [splitAtSlashes_append, List.filter_append]
  simp only [names_eq, ← List.map_append]
  congr 1
  rw [join, if_neg (by simp [h])]
  split
  · rename_i hbase
    rw [String.toList_append]
    rcases Bool.or_eq_true_iff.mp hbase with hempty | hends
    · obtain rfl := String.isEmpty_iff.mp hempty
      rfl
    · obtain ⟨front, hfront⟩ := exists_of_endsInSlash hends
      rw [hfront, List.append_assoc, List.singleton_append, hslash, hslash]
      simp [splitAtSlashes]
  · have htext : (base ++ "/" ++ path).toList = base.toList ++ '/' :: path.toList := by simp
    rw [htext, hslash]

theorem isAbsolute_join {base path : String} (h : isAbsolute path = false) :
    isAbsolute (join base path) = isAbsolute base := by
  rw [join, if_neg (by simp [h])]
  by_cases hempty : base = ""
  · subst hempty
    have hjoin : "" ++ path = path := String.empty_append
    rw [if_pos (by rfl), hjoin, h]
    rfl
  · obtain ⟨c, chars, hchars⟩ := List.exists_cons_of_ne_nil (mt String.toList_eq_nil_iff.mp hempty)
    split <;> simp [isAbsolute, hchars]

theorem join_eq_append {base path : String} (h : isAbsolute path = false) :
    join base path = (if base.isEmpty || endsInSlash base then base else base ++ "/") ++ path := by
  rw [join, if_neg (by simp [h])]
  split <;> rfl

theorem join_inj {base path path' : String} (h : isAbsolute path = false)
    (h' : isAbsolute path' = false) : join base path = join base path' ↔ path = path' := by
  rw [join_eq_append h, join_eq_append h', ← String.toList_inj, String.toList_append,
    String.toList_append, List.append_cancel_left_eq, String.toList_inj]

theorem join_ne_empty {name : String} (h : name ≠ "") (base : String) : join base name ≠ "" := by
  have hpos : 0 < name.length := Nat.pos_of_ne_zero (mt String.length_eq_zero_iff.mp h)
  have hlength : 0 < (join base name).length := by
    unfold join
    split
    · exact hpos
    · split
      · rw [String.length_append]
        omega
      · rw [String.length_append]
        omega
  intro heq
  rw [heq] at hlength
  exact absurd hlength (by decide)

theorem endsInSlash_join {name : String} (h : IsName name) (base : String) :
    endsInSlash (join base name) = false := by
  rw [join, if_neg (by simp [isAbsolute_of_isName h])]
  split
  · exact endsInSlash_append h base
  · exact endsInSlash_append h (base ++ "/")

/-! ## Plain paths -/

def IsPlain (path : String) : Prop := ∀ name ∈ segments path, IsName name

theorem IsPlain.isAbsolute {path : String} (h : IsPlain path) : isAbsolute path = false := by
  apply Bool.eq_false_iff.mpr
  intro habsolute
  obtain ⟨rest, hrest⟩ : ∃ rest, path.toList = '/' :: rest := by
    rwa [Path.isAbsolute, beq_iff_eq, List.head?_eq_some_iff] at habsolute
  have hmem : "" ∈ segments path := by
    rw [segments, hrest, splitAtSlashes, if_pos rfl]
    exact List.mem_cons_self ..
  exact (h "" hmem).ne_empty rfl

/-- The names among the pieces of a path: a dot counts at the start only. -/
def namesAmong : List String → List String
  | [] => []
  | first :: rest =>
    [first].filter (!·.isEmpty) ++ rest.filter fun name => !name.isEmpty && name != "."

theorem components_eq (path : String) : components path = namesAmong (segments path) := by
  unfold components namesAmong
  rfl

theorem namesAmong_append {pieces more : List String} (hne : pieces ≠ [])
    (h : ∀ name ∈ more, IsName name) : namesAmong (pieces ++ more) = namesAmong pieces ++ more := by
  obtain ⟨first, rest, rfl⟩ := List.exists_cons_of_ne_nil hne
  have hmore : (more.filter fun name => !name.isEmpty && name != ".") = more := by
    apply List.filter_eq_self.mpr
    intro name hname
    simp [(h name hname).ne_empty, (h name hname).ne_dot]
  simp only [namesAmong, List.cons_append, List.filter_append, hmore, List.append_assoc]

theorem namesAmong_append_empty {pieces : List String} (hne : pieces ≠ []) :
    namesAmong (pieces ++ [""]) = namesAmong pieces := by
  obtain ⟨first, rest, rfl⟩ := List.exists_cons_of_ne_nil hne
  simp [namesAmong]

theorem segments_ne_nil (path : String) : segments path ≠ [] := by
  rw [segments, Ne, List.map_eq_nil_iff]
  exact splitAtSlashes_ne_nil _

theorem segments_join (base : String) {path : String} (h : isAbsolute path = false) :
    base = "" ∧ segments (join base path) = segments path ∨
      ∃ pieces, pieces ≠ [] ∧ (segments base = pieces ∨ segments base = pieces ++ [""]) ∧
        segments (join base path) = pieces ++ segments path := by
  rw [join, if_neg (by simp [h])]
  by_cases hempty : base = ""
  · left
    subst hempty
    have hjoin : "" ++ path = path := String.empty_append
    rw [if_pos (by rfl), hjoin]
    exact ⟨rfl, rfl⟩
  · right
    cases hends : endsInSlash base with
    | true =>
        obtain ⟨front, hfront⟩ := exists_of_endsInSlash hends
        refine ⟨(splitAtSlashes front).map String.ofList, ?_, .inr ?_, ?_⟩
        · rw [Ne, List.map_eq_nil_iff]
          exact splitAtSlashes_ne_nil _
        · rw [segments, hfront, splitAtSlashes_append, List.map_append]
          rfl
        · rw [if_pos (by simp), segments, String.toList_append, hfront, List.append_assoc,
            List.singleton_append, splitAtSlashes_append, List.map_append]
          rfl
    | false =>
        refine ⟨segments base, segments_ne_nil base, .inl rfl, ?_⟩
        have htext : (base ++ "/" ++ path).toList = base.toList ++ '/' :: path.toList := by simp
        rw [if_neg (by simp [hempty]), segments, htext, splitAtSlashes_append, List.map_append]
        rfl

theorem components_join {base path : String} (h : IsPlain path) :
    components (join base path) = components base ++ segments path := by
  have hself : namesAmong (segments path) = segments path := by
    obtain ⟨first, rest, hpieces⟩ := List.exists_cons_of_ne_nil (segments_ne_nil path)
    rw [IsPlain, hpieces] at h
    rw [hpieces]
    obtain ⟨hfirst, hrest⟩ := List.forall_mem_cons.mp h
    have hnames : namesAmong ([first] ++ rest) = namesAmong [first] ++ rest :=
      namesAmong_append (List.cons_ne_nil _ _) hrest
    simpa [namesAmong, hfirst.ne_empty] using hnames
  rcases segments_join base h.isAbsolute with ⟨rfl, hjoin⟩ | ⟨pieces, hne, hbase, hjoin⟩
  · rw [components_eq, components_eq, hjoin, hself]
    rfl
  · rw [components_eq, components_eq, hjoin, namesAmong_append hne h]
    rcases hbase with hbase | hbase
    · rw [hbase]
    · rw [hbase, namesAmong_append_empty hne]

theorem segments_of_isName {name : String} (h : IsName name) : segments name = [name] := by
  rw [segments, splitAtSlashes_eq_singleton h.no_slash, List.map_singleton, String.ofList_toList]

theorem isPlain_of_isName {name : String} (h : IsName name) : IsPlain name := by
  rw [IsPlain, segments_of_isName h]
  exact fun other hother => List.mem_singleton.mp hother ▸ h

theorem components_join_of_isName {name : String} (h : IsName name) (base : String) :
    components (join base name) = components base ++ [name] := by
  rw [components_join (isPlain_of_isName h), segments_of_isName h]

theorem names_of_isPlain {path : String} (h : IsPlain path) :
    Disk.names path = segments path :=
  List.filter_eq_self.mpr fun name hname => by simp [(h name hname).ne_empty]

theorem endsInSlash_join_of_isPlain {base path : String} (h : IsPlain path) :
    endsInSlash (join base path) = false := by
  have hpieces : ∃ pieces, segments (join base path) = pieces ++ segments path := by
    rcases segments_join base h.isAbsolute with ⟨-, hjoin⟩ | ⟨pieces, -, -, hjoin⟩
    · exact ⟨[], hjoin⟩
    · exact ⟨pieces, hjoin⟩
  obtain ⟨pieces, hpieces⟩ := hpieces
  exact endsInSlash_of_segments hpieces (segments_ne_nil path) fun name hname =>
    (h name hname).ne_empty

end Path

end ClusterMigration
