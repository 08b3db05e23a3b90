import ClusterMigration.Proofs.Storage.Tree
import Mathlib.Data.List.Induction

/-!
# Putting a file again

Directories on the way to a file are made before it is written, also where it cannot be written
then. Whoever tries again finds what the first attempt has left and fares alike: that is
`opened_again`. And what has failed once fails for the same reason on every disk that still
holds what was there, which is `opened_of_holds`.
-/

namespace ClusterMigration

namespace Disk

variable {d d' d'' : Disk} {absolute : Bool} {names : List String} {name : String}
  {place : List String} {e : FileError} {result : Except FileError Unit}

/-! ## Directories, one level at a time -/

def Valid (names : List String) : Prop := ∀ name ∈ names, name ≠ "" ∧ '/' ∉ name.toList

def reach (d : Disk) (absolute : Bool) (names : List String) : Except FileError (List String) := do
  d.walk (← d.start (Path.ofComponents absolute names)) names

/-- The directory is made, unless it is there or cannot be made. -/
def settled (d : Disk) (absolute : Bool) (names : List String) : Except FileError Unit × Disk :=
  match d.reach absolute names with
  | .error e => (.error e, d)
  | .ok place =>
    match d.entry? place with
    | none => (.ok (), d.put place .directory)
    | some (.file _) => (.error .alreadyThere, d)
    | some .directory => (.ok (), d)

/-- What has become of making all directories that the names lead to, one inside the other. -/
def opened (d : Disk) (absolute : Bool) (names : List String) : Except FileError Unit × Disk :=
  ((storage (m := StateM Disk)).makeDirectories absolute names.reverse).run d

theorem endsInSlash_ofComponents (hne : names ≠ []) (hvalid : Valid names) :
    Path.endsInSlash (Path.ofComponents absolute names) = false :=
  Path.endsInSlash_of_segments (Path.segments_ofComponents hne hvalid) hne
    fun name hname => (hvalid name hname).1

theorem makeDirectory_eq (d : Disk) (absolute : Bool) (hne : names ≠ []) (hvalid : Valid names) :
    d.makeDirectory (Path.ofComponents absolute names) =
      match d.reach absolute names with
      | .error e => .error e
      | .ok place =>
        match d.entry? place with
        | some _ => .error .alreadyThere
        | none => .ok (d.put place .directory) := by
  rw [makeDirectory, reach, Path.names_ofComponents hne hvalid]
  cases d.start (Path.ofComponents absolute names) with
  | error e => rfl
  | ok here =>
      cases hwalk : d.walk here names with
      | error e => simp [bind, Except.bind, hwalk]
      | ok place => cases hentry : d.entry? place <;> simp [bind, Except.bind, hwalk, hentry]

theorem isDirectory_eq (d : Disk) (absolute : Bool) (hne : names ≠ []) (hvalid : Valid names) :
    d.isDirectory (Path.ofComponents absolute names) =
      match d.reach absolute names with
      | .error _ => false
      | .ok place => d.entry? place == some .directory := by
  rw [isDirectory, find, locate, reach, Path.names_ofComponents hne hvalid,
    endsInSlash_ofComponents hne hvalid]
  cases d.start (Path.ofComponents absolute names) with
  | error e => rfl
  | ok here =>
      cases hwalk : d.walk here names with
      | error e => simp [bind, Except.bind, hwalk]
      | ok place =>
          rcases hentry : d.entry? place with _ | _ | _ <;>
            simp [bind, Except.bind, hwalk, hentry]

theorem run_settleDirectory (path : String) (result : Except FileError Unit) (d : Disk) :
    ((storage (m := StateM Disk)).settleDirectory path result).run d =
      (match result with
        | .ok () => .ok ()
        | .error e => if d.isDirectory path then .ok () else .error e, d) := by
  cases result with
  | ok _ => rfl
  | error e =>
      have hrun : ((storage (m := StateM Disk)).settleDirectory path (.error e)).run d =
          (if d.isDirectory path then pure (.ok ()) else pure (.error e) :
            StateM Disk (Except FileError Unit)).run d := rfl
      rw [hrun]
      cases hcheck : d.isDirectory path <;> simp <;> rfl

theorem run_makeDirectory (path : String) (d : Disk) :
    ((storage (m := StateM Disk)).makeDirectory path).run d =
      match d.makeDirectory path with
      | .ok d' => (.ok (), d')
      | .error e => (.error e, d) := run_update (·.makeDirectory path) d

/-- To make a directory and to see that it is there comes to making it if it is missing. -/
theorem run_settle (d : Disk) (absolute : Bool) (hne : names ≠ []) (hvalid : Valid names) :
    ((storage (m := StateM Disk)).makeDirectory (Path.ofComponents absolute names) >>=
        (storage (m := StateM Disk)).settleDirectory (Path.ofComponents absolute names)).run d =
      d.settled absolute names := by
  have hcheck := isDirectory_eq d absolute hne hvalid
  rw [StateT.run_bind, run_makeDirectory, makeDirectory_eq d absolute hne hvalid, settled]
  cases hreach : d.reach absolute names with
  | error e =>
      rw [hreach] at hcheck
      refine (run_settleDirectory _ _ _).trans ?_
      simp [hcheck]
  | ok place =>
      rw [hreach] at hcheck
      rcases hentry : d.entry? place with _ | _ | _
      · simp only [hentry]
        exact run_settleDirectory _ _ _
      · simp only [hentry]
        refine (run_settleDirectory _ _ _).trans ?_
        simp [hcheck, hentry]
      · simp only [hentry]
        refine (run_settleDirectory _ _ _).trans ?_
        simp [hcheck, hentry]

theorem opened_concat (hvalid : Valid (names ++ [name])) :
    d.opened absolute (names ++ [name]) =
      match d.reach absolute (names ++ [name]) with
      | .error .notFound =>
        match d.opened absolute names with
        | (.error e, d') => (.error e, d')
        | (.ok (), d') => d'.settled absolute (names ++ [name])
      | _ => d.settled absolute (names ++ [name]) := by
  have hne : names ++ [name] ≠ [] := by simp
  have hsettle (d : Disk) := run_settle d absolute hne hvalid
  have hmake := makeDirectory_eq d absolute hne hvalid
  have hpath : (names ++ [name]).reverse = name :: names.reverse := by simp
  have hback : (name :: names.reverse).reverse = names ++ [name] := by simp
  specialize hsettle d
  rw [StateT.run_bind, run_makeDirectory, hmake] at hsettle
  rw [opened, hpath, Storage.makeDirectories]
  simp only [hback]
  rw [StateT.run_bind, run_makeDirectory, hmake]
  cases hreach : d.reach absolute (names ++ [name]) with
  | ok place =>
      rw [hreach] at hsettle
      rcases hentry : d.entry? place with _ | _ | _ <;>
        (simp only [hentry] at hsettle ⊢; exact hsettle)
  | error e =>
      rw [hreach] at hsettle
      cases e with
      | notFound =>
          change ((storage (m := StateM Disk)).makeDirectories absolute names.reverse >>= _).run d =
            _
          rw [StateT.run_bind, ← opened]
          rcases d.opened absolute names with ⟨outer, d'⟩
          cases outer with
          | error e => rfl
          | ok _ => exact run_settle _ absolute hne hvalid
      | _ => exact hsettle

/-! ## Paths that can be walked -/

def Fits (absolute : Bool) (names : List String) : Prop :=
  (Path.ofComponents absolute names).toList.contains '\x00' = false ∧
    (Path.ofComponents absolute names).utf8ByteSize ≤ pathLimit

theorem ofComponents_ne_empty (absolute : Bool) (hne : names ≠ []) (hvalid : Valid names) :
    Path.ofComponents absolute names ≠ "" := by
  intro hempty
  have hnames : Disk.names (Path.ofComponents absolute names) = names :=
    Path.names_ofComponents hne hvalid
  have hnone : Disk.names "" = [] := by decide
  rw [hempty, hnone] at hnames
  exact hne hnames.symm

theorem reach_of_fits (hne : names ≠ []) (hvalid : Valid names) (h : Fits absolute names)
    (d : Disk) : d.reach absolute names = d.walk (d.origin absolute) names := by
  rw [reach, start_of_bounds h.1 (ofComponents_ne_empty absolute hne hvalid) h.2,
    Path.isAbsolute_ofComponents hne hvalid]
  rfl

theorem reach_of_not_fits (hne : names ≠ []) (hvalid : Valid names)
    (h : ¬ Fits absolute names) :
    ∃ e, e ≠ .notFound ∧ ∀ d : Disk, d.reach absolute names = .error e := by
  have hempty := ofComponents_ne_empty absolute hne hvalid
  cases hzero : (Path.ofComponents absolute names).toList.contains '\x00' with
  | true =>
      refine ⟨.zeroInName, by decide, fun d => ?_⟩
      rw [reach, start, if_pos hzero]
      rfl
  | false =>
      refine ⟨.nameTooLong, by decide, fun d => ?_⟩
      have hlong : pathLimit < (Path.ofComponents absolute names).utf8ByteSize := by
        apply Nat.lt_of_not_le
        intro hle
        exact h ⟨hzero, hle⟩
      rw [reach, start, hzero, if_neg (by decide), if_neg (by simpa using hempty), if_pos hlong]
      rfl

theorem fits_of_reach (hne : names ≠ []) (hvalid : Valid names)
    (h : d.reach absolute names = .error .notFound) : Fits absolute names := by
  by_cases hfits : Fits absolute names
  · exact hfits
  · obtain ⟨e, he, hall⟩ := reach_of_not_fits hne hvalid hfits
    rw [hall] at h
    cases h
    exact absurd rfl he

theorem fits_of_reach_eq_ok (hne : names ≠ []) (hvalid : Valid names)
    (h : d.reach absolute names = .ok place) : Fits absolute names := by
  by_cases hfits : Fits absolute names
  · exact hfits
  · obtain ⟨e, -, hall⟩ := reach_of_not_fits hne hvalid hfits
    rw [hall] at h
    cases h

theorem fits_of_concat (hne : names ≠ []) (h : Fits absolute (names ++ [name])) :
    Fits absolute names := by
  have hpath : Path.ofComponents absolute (names ++ [name]) =
      Path.ofComponents absolute names ++ ("/" ++ name) := by
    rw [Path.ofComponents, Path.ofComponents, Path.intercalate_concat hne]
    simp only [String.append_assoc]
  obtain ⟨hzero, hsize⟩ := h
  rw [hpath] at hzero hsize
  constructor
  · simp only [String.toList_append, List.contains_eq_mem, List.mem_append,
      decide_eq_false_iff_not, not_or] at hzero ⊢
    exact hzero.1
  · rw [String.utf8ByteSize_append] at hsize
    omega

theorem walk_of_reach (hne : names ≠ []) (hvalid : Valid names)
    (hreach : d.reach absolute names = .ok place) :
    d.walk (d.origin absolute) names = .ok place := by
  rwa [reach_of_fits hne hvalid (fits_of_reach_eq_ok hne hvalid hreach)] at hreach

theorem Grows.reach (h : Grows d d') (hne : names ≠ []) (hvalid : Valid names)
    (hreach : d.reach absolute names = .ok place) : d'.reach absolute names = .ok place := by
  have hfits := fits_of_reach_eq_ok hne hvalid hreach
  rw [reach_of_fits hne hvalid hfits] at hreach ⊢
  rw [h.origin]
  exact h.walk hreach

theorem reach_concat (hne : names ≠ []) (hvalid : Valid (names ++ [name]))
    (h : Fits absolute (names ++ [name])) (d : Disk) :
    d.reach absolute (names ++ [name]) = (d.reach absolute names).bind (d.walk · [name]) := by
  have hnames : Valid names := fun n hn => hvalid n (List.mem_append_left _ hn)
  rw [reach_of_fits (by simp) hvalid h, reach_of_fits hne hnames (fits_of_concat hne h),
    walk_append]

/-! ## Refusals -/

/-- The last directory cannot be made, and others around it would not help. -/
inductive Refuses (d : Disk) (absolute : Bool) (names : List String) : FileError → Prop
  | unreachable {e : FileError} (h : d.reach absolute names = .error e) (hne : e ≠ .notFound) :
      Refuses d absolute names e
  | taken {place : List String} (h : d.reach absolute names = .ok place) (hfile : d.IsFile place) :
      Refuses d absolute names .alreadyThere

theorem Refuses.settled (h : d.Refuses absolute names e) :
    d.settled absolute names = (.error e, d) := by
  cases h with
  | unreachable h _ => rw [Disk.settled, h]
  | taken h hfile =>
      obtain ⟨content, hcontent⟩ := hfile
      simp only [Disk.settled, h, hcontent]

theorem Refuses.reach_ne (h : d.Refuses absolute names e) :
    d.reach absolute names ≠ .error .notFound := by
  intro heq
  cases h with
  | unreachable h hne =>
      rw [h] at heq
      cases heq
      exact hne rfl
  | taken h _ =>
      rw [h] at heq
      cases heq

theorem opened_eq_settled (hvalid : Valid (names ++ [name]))
    (h : d.reach absolute (names ++ [name]) ≠ .error .notFound) :
    d.opened absolute (names ++ [name]) = d.settled absolute (names ++ [name]) := by
  rw [opened_concat hvalid]
  split
  · rename_i heq
    exact absurd heq h
  · rfl

theorem Refuses.reach_concat_ne (hne : names ≠ []) (hvalid : Valid (names ++ [name]))
    (h : d.Refuses absolute names e) :
    d.reach absolute (names ++ [name]) ≠ .error .notFound := by
  by_cases hfits : Fits absolute (names ++ [name])
  · rw [reach_concat hne hvalid hfits]
    cases h with
    | unreachable h hne =>
        rw [h]
        intro heq
        cases heq
        exact hne rfl
    | taken h hfile =>
        obtain ⟨content, hcontent⟩ := hfile
        rw [h]
        change d.walk _ [name] ≠ _
        rw [walk, hcontent]
        intro heq
        cases heq
  · obtain ⟨e', he', hreach⟩ := reach_of_not_fits (by simp) hvalid hfits
    rw [hreach]
    intro heq
    cases heq
    exact he' rfl

theorem Refuses.opened (hne : names ≠ []) (hvalid : Valid names)
    (h : d.Refuses absolute names e) : d.opened absolute names = (.error e, d) := by
  have hsplit : names.dropLast ++ [names.getLast hne] = names := List.dropLast_concat_getLast hne
  rw [← hsplit] at hvalid h ⊢
  rw [opened_eq_settled hvalid h.reach_ne, h.settled]

theorem Refuses.of_holds (hne : names ≠ []) (hvalid : Valid names)
    (h : d.Refuses absolute names e) (hholds : Holds absolute names d d') :
    d'.Refuses absolute names e := by
  by_cases hfits : Fits absolute names
  · have hreach (d : Disk) := reach_of_fits hne hvalid hfits d
    cases h with
    | unreachable h he =>
        rw [hreach] at h
        refine .unreachable ?_ he
        rw [hreach, hholds.grows.origin]
        exact walk_error hholds.grows hholds.file h he
    | taken h hfile =>
        rw [hreach] at h
        refine .taken ?_ (hholds.file names _ List.prefix_rfl h hfile)
        rw [hreach, hholds.grows.origin]
        exact hholds.grows.walk h
  · obtain ⟨e', he', hreach⟩ := reach_of_not_fits hne hvalid hfits
    cases h with
    | unreachable h he =>
        rw [hreach] at h
        cases h
        exact .unreachable (hreach d') he
    | taken h _ =>
        rw [hreach] at h
        cases h

/-! ## Attempts to make directories -/

/-- What a part of the way leads to has been there by that way, if it has been there at all. -/
def Steady (d : Disk) (absolute : Bool) (names : List String) : Prop :=
  ∀ d', Grows d d' → ∀ pre place, pre <+: names → d'.walk (d'.origin absolute) pre = .ok place →
    d.entry? place ≠ none → d.walk (d.origin absolute) pre = .ok place

theorem Steady.of_concat (h : Steady d absolute (names ++ [name])) : Steady d absolute names :=
  fun d' hgrows pre place hpre =>
    h d' hgrows pre place (hpre.trans (List.prefix_append names [name]))

theorem opened_opens (d : Disk) (absolute : Bool) (hvalid : Valid names) :
    Opens absolute (· <+: names) d (d.opened absolute names).2 := by
  have hopens : Opens absolute (· <+: names.reverse.reverse) d (d.opened absolute names).2 :=
    leaves_makeDirectories (fun name hname => hvalid name (List.mem_reverse.mp hname)) d
  rwa [List.reverse_reverse] at hopens

theorem settled_eq_ok (hne : names ≠ []) (hvalid : Valid names)
    (h : d.settled absolute names = (.ok (), d')) :
    ∃ place, d'.reach absolute names = .ok place ∧ d'.entry? place = some .directory := by
  rw [settled] at h
  split at h
  · cases h
  · rename_i place hreach
    split at h
    · rename_i hnone
      cases h
      have hnot : d.entry? place ≠ some .directory := by simp [hnone]
      exact ⟨place, (grows_put hnot).reach hne hvalid hreach,
        entry?_put_self (ne_nil_of_no_directory hnot)⟩
    · cases h
    · rename_i hdirectory
      cases h
      exact ⟨place, hreach, hdirectory⟩

theorem settled_eq_error (h : d.settled absolute names = (.error e, d')) :
    d' = d ∧ (d.reach absolute names = .error e ∨
      e = .alreadyThere ∧ ∃ place, d.reach absolute names = .ok place ∧ d.IsFile place) := by
  rw [settled] at h
  split at h
  · rename_i hreach
    cases h
    exact ⟨rfl, .inl hreach⟩
  · rename_i place hreach
    split at h
    · cases h
    · rename_i content hcontent
      cases h
      exact ⟨rfl, .inr ⟨rfl, place, hreach, content, hcontent⟩⟩
    · cases h

theorem opened_eq_ok (hne : names ≠ []) (hvalid : Valid names)
    (h : d.opened absolute names = (.ok (), d')) :
    ∃ place, d'.reach absolute names = .ok place ∧ d'.entry? place = some .directory := by
  have hsplit : names.dropLast ++ [names.getLast hne] = names := List.dropLast_concat_getLast hne
  rw [← hsplit] at hne hvalid h ⊢
  rw [opened_concat hvalid] at h
  split at h
  · split at h
    · cases h
    · exact settled_eq_ok hne hvalid h
  · exact settled_eq_ok hne hvalid h

theorem walk_singleton_ne {here : List String} (hhere : d.entry? here = some .directory) :
    d.walk here [name] ≠ .error .notFound := by
  rw [walk, hhere]
  intro h
  simp only [walk] at h
  split at h
  · cases h
  · split at h
    · cases h
    · split at h <;> cases h

theorem reach_ne_of_opened (hvalid : Valid (names ++ [name]))
    (horigin : d'.entry? (d'.origin absolute) = some .directory)
    (h : d.opened absolute names = (.ok (), d')) :
    d'.reach absolute (names ++ [name]) ≠ .error .notFound := by
  by_cases hfits : Fits absolute (names ++ [name])
  · by_cases hne : names = []
    · subst hne
      rw [List.nil_append] at hvalid hfits ⊢
      rw [reach_of_fits (by simp) hvalid hfits]
      exact walk_singleton_ne horigin
    · have hnames : Valid names := fun n hn => hvalid n (List.mem_append_left _ hn)
      obtain ⟨place, hreach, hplace⟩ := opened_eq_ok hne hnames h
      rw [reach_concat hne hvalid hfits, hreach]
      exact walk_singleton_ne hplace
  · obtain ⟨e, he, hall⟩ := reach_of_not_fits (by simp) hvalid hfits
    rw [hall]
    intro heq
    cases heq
    exact he rfl

theorem refuses_of_opened (htree : d.IsTree) (hvalid : Valid names)
    (hsteady : Steady d absolute names) (h : d.opened absolute names = (.error e, d')) :
    d'.Refuses absolute names e ∧ (d' = d ∨ d'.reach absolute names = .error e) := by
  induction names using List.reverseRecOn generalizing d' with
  | nil => cases h
  | append_singleton names name ih =>
      have hnames : Valid names := fun n hn => hvalid n (List.mem_append_left _ hn)
      have hopens := opened_opens d absolute hnames
      by_cases hmissing : d.reach absolute (names ++ [name]) = .error .notFound
      · have hfits : Fits absolute (names ++ [name]) := fits_of_reach (by simp) hvalid hmissing
        rw [opened_concat hvalid, hmissing] at h
        simp only at h
        split at h
        · rename_i e' d₁ houter
          cases h
          have hne : names ≠ [] := by
            rintro rfl
            cases houter
          obtain ⟨hrefuses, hsame⟩ := ih hnames hsteady.of_concat houter
          rcases hsame with rfl | hreach
          · exact absurd hmissing (hrefuses.reach_concat_ne hne hvalid)
          · have hfull : d'.reach absolute (names ++ [name]) = .error e := by
              rw [reach_concat hne hvalid hfits, hreach]
              rfl
            refine ⟨.unreachable hfull ?_, .inr hfull⟩
            rintro rfl
            exact hrefuses.reach_ne hreach
        · rename_i d₁ houter
          rw [houter] at hopens
          obtain ⟨rfl, hcases⟩ := settled_eq_error h
          have horigin : d'.entry? (d'.origin absolute) = some .directory := by
            rw [hopens.grows.origin]
            exact hopens.grows.directory _ (htree.origin absolute)
          have hreached := reach_ne_of_opened hvalid horigin houter
          rcases hcases with hreach | ⟨rfl, place, hreach, content, hcontent⟩
          · refine ⟨.unreachable hreach ?_, .inr hreach⟩
            rintro rfl
            exact hreached hreach
          · -- a file has been there before, and it was no use then to make directories
            exfalso
            have hbefore : d.entry? place = some (.file content) := by
              rcases hopens.entries place with heq | ⟨-, hdirectory, -⟩
              · rw [← heq, hcontent]
              · rw [hcontent] at hdirectory
                cases hdirectory
            rw [reach_of_fits (by simp) hvalid hfits] at hreach hmissing
            have hwalk := hsteady d' hopens.grows _ place List.prefix_rfl hreach (by simp [hbefore])
            rw [hmissing] at hwalk
            cases hwalk
      · rw [opened_eq_settled hvalid hmissing] at h
        obtain ⟨rfl, hcases⟩ := settled_eq_error h
        refine ⟨?_, .inl rfl⟩
        rcases hcases with hreach | ⟨rfl, place, hreach, hfile⟩
        · refine .unreachable hreach ?_
          rintro rfl
          exact hmissing hreach
        · exact .taken hreach hfile

theorem opened_of_directory (hne : names ≠ []) (hvalid : Valid names)
    (hreach : d.reach absolute names = .ok place) (hplace : d.entry? place = some .directory) :
    d.opened absolute names = (.ok (), d) := by
  have hsplit : names.dropLast ++ [names.getLast hne] = names := List.dropLast_concat_getLast hne
  rw [← hsplit] at hvalid hreach ⊢
  rw [opened_eq_settled hvalid (by rw [hreach]; nofun)]
  simp only [settled, hreach, hplace]

/-- A second attempt fares like the first one and changes nothing. -/
theorem opened_again (htree : d.IsTree) (hvalid : Valid names)
    (hsteady : Steady d absolute names) (h : d.opened absolute names = (result, d')) :
    d'.opened absolute names = (result, d') := by
  by_cases hne : names = []
  · subst hne
    cases h
    rfl
  · cases result with
    | ok _ =>
        obtain ⟨place, hreach, hplace⟩ := opened_eq_ok hne hvalid h
        exact opened_of_directory hne hvalid hreach hplace
    | error e => exact (refuses_of_opened htree hvalid hsteady h).1.opened hne hvalid

theorem opened_of_holds (htree : d.IsTree) (hvalid : Valid names)
    (hsteady : Steady d absolute names) (h : d.opened absolute names = (result, d))
    (hholds : Holds absolute names d d') : d'.opened absolute names = (result, d') := by
  by_cases hne : names = []
  · subst hne
    cases h
    rfl
  · cases result with
    | ok _ =>
        obtain ⟨place, hreach, hplace⟩ := opened_eq_ok hne hvalid h
        have hplace' := hholds.grows.directory place hplace
        exact opened_of_directory hne hvalid (hholds.grows.reach hne hvalid hreach) hplace'
    | error e =>
        have hrefuses := (refuses_of_opened htree hvalid hsteady h).1
        exact (hrefuses.of_holds hne hvalid hholds).opened hne hvalid

theorem IsTree.settled (htree : d.IsTree) (hne : names ≠ []) (hvalid : Valid names) :
    (d.settled absolute names).2.IsTree := by
  cases hreach : d.reach absolute names with
  | error e => simpa only [Disk.settled, hreach] using htree
  | ok place =>
      rcases hentry : d.entry? place with _ | _ | _
      · simp only [Disk.settled, hreach, hentry]
        have hnot : d.entry? place ≠ some .directory := by simp [hentry]
        exact htree.put (htree.origin absolute) (walk_of_reach hne hvalid hreach) hnot
      · simpa only [Disk.settled, hreach, hentry] using htree
      · simpa only [Disk.settled, hreach, hentry] using htree

theorem IsTree.opened (htree : d.IsTree) (hvalid : Valid names) :
    (d.opened absolute names).2.IsTree := by
  induction names using List.reverseRecOn with
  | nil => exact htree
  | append_singleton names name ih =>
      have hne : names ++ [name] ≠ [] := by simp
      have houter := ih fun n hn => hvalid n (List.mem_append_left _ hn)
      rw [opened_concat hvalid]
      split
      · split
        · rename_i hopened
          rwa [hopened] at houter
        · rename_i hopened
          rw [hopened] at houter
          exact houter.settled hne hvalid
      · exact htree.settled hne hvalid

end Disk

end ClusterMigration
