import ClusterMigration.Proofs.Report.Document
import ClusterMigration.Proofs.Report.Page
import ClusterMigration.Proofs.Storage.Manifests
import ClusterMigration.Proofs.Storage.Seats

/-!
# What a run leaves in the output directory

Manifests are written at once and may come again under the name of another one; the reports
are kept until the end. Where each of the files could be written, all calls work, whatever
their number and order, and the directory shows what came last. The main statement is
`session_kept`.
-/

namespace ClusterMigration

namespace Destination

open Disk (Puts Seat LiesAt fill)

variable {directory : String} {ds : List Delivery} {reports : List Report} {d d' p : Disk}
  {file : String} {content : Bytes}

/-! ## Calls and files -/

def session {m : Type → Type} [Monad m] (s : System m) (directory : String)
    (ds : List Delivery) :
    m (List (Except DeliveryError Unit) × Except DeliveryError Unit) := do
  let (results, reports) ← (ds.mapM (deliver s directory)).run []
  return (results, ← finish s directory reports)

def reportsOf (ds : List Delivery) : List Report :=
  ds.filterMap fun
    | .report r => some r
    | .manifest _ => none

def manifestWrites (directory : String) (ds : List Delivery) : List (String × Bytes) :=
  ds.filterMap fun
    | .manifest x => some (manifestFile directory x, x.content)
    | .report _ => none

def reportWrites (directory : String) (reports : List Report) : List (String × Bytes) :=
  [(Path.join directory jsonFile, Utf8.encode (Report.jsonText reports)),
    (Path.join directory pageFile, Utf8.encode (Report.pageText reports))]

/-- The files that are written, in order. Without reports there are none that show them. -/
def writes (directory : String) (ds : List Delivery) : List (String × Bytes) :=
  manifestWrites directory ds ++
    if (reportsOf ds).isEmpty then [] else reportWrites directory (reportsOf ds)

theorem mem_manifestWrites {w : String × Bytes} :
    w ∈ manifestWrites directory ds ↔
      ∃ x, .manifest x ∈ ds ∧ w = (manifestFile directory x, x.content) := by
  rw [manifestWrites, List.mem_filterMap]
  constructor
  · rintro ⟨y, hy, hw⟩
    cases y with
    | manifest x => exact ⟨x, hy, (Option.some.inj hw).symm⟩
    | report r => cases hw
  · rintro ⟨x, hx, rfl⟩
    exact ⟨.manifest x, hx, rfl⟩

theorem exists_name_of_mem_reportWrites {w : String × Bytes}
    (h : w ∈ reportWrites directory reports) :
    ∃ name ∈ [jsonFile, pageFile], ∃ content, w = (Path.join directory name, content) := by
  rcases List.mem_cons.mp h with rfl | h
  · exact ⟨jsonFile, by simp, _, rfl⟩
  · obtain rfl := List.mem_singleton.mp h
    exact ⟨pageFile, by simp, _, rfl⟩

theorem mem_writes {w : String × Bytes} (h : w ∈ writes directory ds) :
    (∃ x, .manifest x ∈ ds ∧ w = (manifestFile directory x, x.content)) ∨
      ∃ name ∈ [jsonFile, pageFile], ∃ content, w = (Path.join directory name, content) := by
  rcases List.mem_append.mp h with h | h
  · exact .inl (mem_manifestWrites.mp h)
  · right
    split at h
    · cases h
    · exact exists_name_of_mem_reportWrites h

/-! ## Runs -/

theorem run_write_of_stored (h : d.stored file content = (.ok (), d')) :
    (write Disk.system file content).run d = (.ok (), d') := by
  have hrun := run_write file content d
  change _ = (Except.mapError _ (d.stored file content).1, (d.stored file content).2) at hrun
  rw [hrun, h]
  rfl

theorem run_deliver_manifest {x : Manifest}
    (h : d.stored (manifestFile directory x) x.content = (.ok (), d')) :
    ((deliver Disk.system directory (.manifest x)).run reports).run d =
      ((.ok (), reports), d') := by
  simp only [deliver, StateT.run_bind, StateT.run_monadLift, monadLift_self,
    run_write_of_stored h]
  rfl

theorem run_cons {y : Delivery} {kept later : List Report} {d₁ : Disk}
    {result : Except DeliveryError Unit} {results : List (Except DeliveryError Unit)}
    (h : ((deliver Disk.system directory y).run reports).run d = ((result, kept), d₁))
    (hrest : ((ds.mapM (deliver Disk.system directory)).run kept).run d₁ =
      ((results, later), d')) :
    (((y :: ds).mapM (deliver Disk.system directory)).run reports).run d =
      ((result :: results, later), d') := by
  have hsplit : (((y :: ds).mapM (deliver Disk.system directory)).run reports).run d =
      ((((ds.mapM (deliver Disk.system directory)).run kept).run d₁ >>= fun after =>
        pure ((result :: after.1.1, after.1.2), after.2)) : Id _) := by
    simp only [List.mapM_cons, StateT.run_bind]
    rw [h]
    rfl
  rw [hsplit, hrest]
  rfl

theorem run_deliveries (h : Puts d (manifestWrites directory ds) d') :
    ((ds.mapM (deliver Disk.system directory)).run reports).run d =
      ((ds.map fun _ => .ok (), reports ++ reportsOf ds), d') := by
  -- The reports that are kept grow along the list, so there may be any at its start.
  induction ds generalizing d reports with
  | nil =>
      cases h
      rw [reportsOf, List.filterMap_nil, List.append_nil]
      rfl
  | cons y ds ih =>
      cases y with
      | manifest x =>
          cases h with
          | cons hstored hrest => exact run_cons (run_deliver_manifest hstored) (ih hrest)
      | report r =>
          have hstep : ((deliver Disk.system directory (.report r)).run reports).run d =
              ((.ok (), reports ++ [r]), d) := rfl
          have hkept : reports ++ [r] ++ reportsOf ds = reports ++ reportsOf (.report r :: ds) :=
            List.append_assoc ..
          rw [← hkept]
          exact run_cons hstep (ih h)

theorem run_finish
    (h : Puts d (if reports.isEmpty then [] else reportWrites directory reports) d') :
    (finish Disk.system directory reports).run d = (.ok (), d') := by
  unfold finish
  split at h
  · rename_i hempty
    cases h
    rw [if_pos hempty]
    rfl
  · rename_i hreports
    rw [if_neg hreports]
    cases h with
    | cons hjson hrest =>
        cases hrest with
        | cons hpage hrest =>
            cases hrest
            rw [StateT.run_bind, run_write_of_stored hjson]
            change (write Disk.system (Path.join directory pageFile) _ >>= _).run _ = _
            rw [StateT.run_bind, run_write_of_stored hpage]
            rfl

theorem run_session (h : Puts d (writes directory ds) d') :
    (session Disk.system directory ds).run d = ((ds.map fun _ => .ok (), .ok ()), d') := by
  obtain ⟨d₁, hmanifests, hreports⟩ := h.of_append
  rw [session, StateT.run_bind, run_deliveries hmanifests]
  change (finish Disk.system directory ([] ++ reportsOf ds) >>= _).run d₁ = _
  rw [List.nil_append, StateT.run_bind, run_finish hreports]
  rfl

/-! ## Seats -/

theorem isName_manifestsDirectory : Path.IsName manifestsDirectory :=
  ⟨by decide, by decide, by decide, by decide⟩

theorem isName_of_mem_reportFiles {name : String} (h : name ∈ [jsonFile, pageFile]) :
    Path.IsName name ∧ name ≠ manifestsDirectory := by
  rcases List.mem_cons.mp h with rfl | h
  · exact ⟨⟨by decide, by decide, by decide, by decide⟩, by decide⟩
  · obtain rfl := List.mem_singleton.mp h
    exact ⟨⟨by decide, by decide, by decide, by decide⟩, by decide⟩

theorem openedFor_manifest {x : Manifest} (h : Path.IsName x.fileName) (directory : String)
    (d : Disk) :
    d.openedFor (manifestFile directory x) =
      d.opened (Path.isAbsolute directory)
        (Path.components directory ++ [manifestsDirectory]) := by
  rw [manifestFile, Disk.openedFor_join h,
    Path.isAbsolute_join (Path.isAbsolute_of_isName isName_manifestsDirectory),
    Path.components_join_of_isName isName_manifestsDirectory]

theorem liesAt_manifest {x : Manifest} (h : Path.IsName x.fileName) {place : List String}
    (hlocate : d.locate (manifestFile directory x) = .ok place) :
    d.LiesAt directory [manifestsDirectory, x.fileName] place :=
  (Disk.liesAt_of_locate h hlocate).of_join isName_manifestsDirectory

section

variable (hnames : ∀ x, .manifest x ∈ ds → Path.IsName x.fileName)
  (hwrites : ∀ w ∈ writes directory ds, (d.stored w.1 w.2).1 = .ok ())

include hwrites

theorem exists_stored {w : String × Bytes} (hw : w ∈ writes directory ds) :
    ∃ d', d.stored w.1 w.2 = (.ok (), d') := ⟨_, Prod.ext (hwrites w hw) rfl⟩

include hnames

theorem exists_seat_of_mem {w : String × Bytes} (hw : w ∈ writes directory ds) :
    ∃ p place, d.openedFor w.1 = (.ok (), p) ∧ p.Seat w.1 place := by
  obtain ⟨d', hstored⟩ := exists_stored hwrites hw
  rcases mem_writes hw with ⟨x, hx, rfl⟩ | ⟨name, hname, content, rfl⟩
  · exact Disk.exists_seat (Path.endsInSlash_join (hnames x hx) _) hstored
  · exact Disk.exists_seat
      (Path.endsInSlash_join (isName_of_mem_reportFiles hname).1 _) hstored

theorem exists_seats_of_manifest {x : Manifest} (hx : .manifest x ∈ ds) :
    ∃ p, d.opened (Path.isAbsolute directory)
        (Path.components directory ++ [manifestsDirectory]) = (.ok (), p) ∧
      (∀ w ∈ writes directory ds, ∃ place, p.Seat w.1 place) ∧
      ∀ w ∈ (writes directory ds).head?, d.openedFor w.1 = (.ok (), p) := by
  have hfirst : (manifestFile directory x, x.content) ∈ manifestWrites directory ds :=
    mem_manifestWrites.mpr ⟨x, hx, rfl⟩
  obtain ⟨p, -, hopened, -⟩ :=
    exists_seat_of_mem hnames hwrites (List.mem_append_left _ hfirst)
  rw [openedFor_manifest (hnames x hx)] at hopened
  have hall (y : Manifest) (hy : .manifest y ∈ ds) :
      d.openedFor (manifestFile directory y) = (.ok (), p) :=
    (openedFor_manifest (hnames y hy) directory d).trans hopened
  refine ⟨p, hopened, fun w hw => ?_, fun w hw => ?_⟩
  · rcases mem_writes hw with ⟨y, hy, rfl⟩ | ⟨name, hname, content, rfl⟩
    · obtain ⟨p', place, hopened', hseat⟩ := exists_seat_of_mem hnames hwrites hw
      rw [hall y hy] at hopened'
      cases hopened'
      exact ⟨place, hseat⟩
    · obtain ⟨d', hstored⟩ := exists_stored hwrites hw
      obtain ⟨hisName, hne⟩ := isName_of_mem_reportFiles hname
      exact Disk.exists_seat_beside hisName isName_manifestsDirectory hne hopened hstored
  · -- the first file is that of a manifest
    obtain ⟨v, vs, hv⟩ := List.exists_cons_of_ne_nil (List.ne_nil_of_mem hfirst)
    have hhead : (writes directory ds).head? = some v := by rw [writes, hv]; rfl
    rw [hhead] at hw
    obtain rfl := Option.mem_some.mp hw
    obtain ⟨y, hy, hwrite⟩ := mem_manifestWrites.mp (hv ▸ List.mem_cons_self)
    rw [hwrite]
    exact hall y hy

theorem exists_seats_of_reports (hnone : ∀ x, .manifest x ∉ ds) {w : String × Bytes}
    (hw : w ∈ writes directory ds) :
    ∃ p, d.opened (Path.isAbsolute directory) (Path.components directory) = (.ok (), p) ∧
      (∀ w ∈ writes directory ds, ∃ place, p.Seat w.1 place) ∧
      ∀ w ∈ writes directory ds, d.openedFor w.1 = (.ok (), p) := by
  have hopenedFor {w : String × Bytes} (hw : w ∈ writes directory ds) :
      d.openedFor w.1 = d.opened (Path.isAbsolute directory) (Path.components directory) := by
    rcases mem_writes hw with ⟨x, hx, -⟩ | ⟨name, hname, content, rfl⟩
    · exact absurd hx (hnone x)
    · exact Disk.openedFor_join (isName_of_mem_reportFiles hname).1 d directory
  obtain ⟨p, -, hopened, -⟩ := exists_seat_of_mem hnames hwrites hw
  rw [hopenedFor hw] at hopened
  refine ⟨p, hopened, fun v hv => ?_, fun v hv => (hopenedFor hv).trans hopened⟩
  obtain ⟨p', place, hopened', hseat⟩ := exists_seat_of_mem hnames hwrites hv
  rw [hopenedFor hv, hopened] at hopened'
  cases hopened'
  exact ⟨place, hseat⟩

/-- Where each file could be written alone, there is a disk on which all of them have their
seats, and the first call makes it. -/
theorem exists_seats :
    ∃ p, Disk.Opens (Path.isAbsolute directory)
        (· <+: Path.components directory ++ [manifestsDirectory]) d p ∧
      (∀ w ∈ writes directory ds, ∃ place, p.Seat w.1 place) ∧
      (∀ w ∈ (writes directory ds).head?, d.openedFor w.1 = (.ok (), p)) ∧
      (writes directory ds = [] → p = d) := by
  by_cases hnil : writes directory ds = []
  · rw [hnil]
    exact ⟨d, .refl d, by simp, by simp, fun _ => rfl⟩
  · by_cases hsome : ∃ x, .manifest x ∈ ds
    · obtain ⟨x, hx⟩ := hsome
      obtain ⟨p, hopened, hseats, hhead⟩ := exists_seats_of_manifest hnames hwrites hx
      have hopens := Disk.opened_opens d (Path.isAbsolute directory)
        (Disk.valid_concat isName_manifestsDirectory directory)
      rw [hopened] at hopens
      exact ⟨p, hopens, hseats, hhead, fun h => absurd h hnil⟩
    · have hnone : ∀ x, .manifest x ∉ ds := fun x hx => hsome ⟨x, hx⟩
      obtain ⟨w, hw⟩ := List.exists_mem_of_ne_nil _ hnil
      obtain ⟨p, hopened, hseats, hall⟩ := exists_seats_of_reports hnames hwrites hnone hw
      have hopens := Disk.opened_opens d (Path.isAbsolute directory)
        (Disk.valid_components directory)
      rw [hopened] at hopens
      refine ⟨p, hopens.mono fun names h => h.trans (List.prefix_append _ _), hseats,
        fun v hv => hall v (List.mem_of_mem_head? hv), fun h => absurd h hnil⟩

end

/-! ## What is left -/

/-- What the output directory shows after a run, and what the run has left alone. -/
structure Kept (directory : String) (ds : List Delivery) (d d' : Disk) : Prop where
  workingDirectory : d'.workingDirectory = d.workingDirectory
  /-- The file of a manifest holds what came last under its name. -/
  manifests (before : List Delivery) (x : Manifest) (after : List Delivery)
    (hds : ds = before ++ .manifest x :: after)
    (hlast : ∀ y, .manifest y ∈ after → y.fileName ≠ x.fileName) :
    d'.read (manifestFile directory x) = .ok x.content
  /-- Where there are reports, two files show all of them in order. -/
  reports (h : reportsOf ds ≠ []) :
    d'.read (Path.join directory jsonFile) =
        .ok (Utf8.encode (Report.jsonText (reportsOf ds))) ∧
      d'.read (Path.join directory pageFile) =
        .ok (Utf8.encode (Report.pageText (reportsOf ds)))
  /-- Whoever reads the document gets these reports back, and no others have the page. -/
  faithful : Report.ofDocument? (Utf8.encode (Report.jsonText (reportsOf ds))) =
      some (reportsOf ds) ∧
    ∀ reports, Report.pageText reports = Report.pageText (reportsOf ds) → reports = reportsOf ds
  /-- Where there are none, these files are what they were. -/
  unreported (h : reportsOf ds = []) (name : String) (hname : name ∈ [jsonFile, pageFile])
    (place : List String) (hplace : d'.locate (Path.join directory name) = .ok place)
    (content : Bytes) :
    d'.entry? place = some (.file content) ↔ d.entry? place = some (.file content)
  /-- All else is what it was, but for directories that are made on the way. -/
  others (q : List String) (hq : ∀ w ∈ writes directory ds, d'.locate w.1 ≠ .ok q) :
    d'.entry? q = d.entry? q ∨
      d.entry? q = none ∧ d'.entry? q = some .directory ∧
        ∃ names, names <+: Path.components directory ++ [manifestsDirectory] ∧
          d'.walk (d'.origin (Path.isAbsolute directory)) names = .ok q
  /-- Without any files there is nothing to make directories for. -/
  idle (h : writes directory ds = []) : d' = d

section

variable {seat : String → List String}
  (hnames : ∀ x, .manifest x ∈ ds → Path.IsName x.fileName)
  (hseats : ∀ w ∈ writes directory ds, p.Seat w.1 (seat w.1))

include hseats

theorem liesAt_seat_of_report {name : String} (hname : name ∈ [jsonFile, pageFile])
    (hw : (Path.join directory name, content) ∈ writes directory ds) :
    p.LiesAt directory [name] (seat (Path.join directory name)) :=
  Disk.liesAt_of_locate (isName_of_mem_reportFiles hname).1 (hseats _ hw).located

theorem read_reports (h : reportsOf ds ≠ []) :
    (fill seat p (writes directory ds)).read (Path.join directory jsonFile) =
        .ok (Utf8.encode (Report.jsonText (reportsOf ds))) ∧
      (fill seat p (writes directory ds)).read (Path.join directory pageFile) =
        .ok (Utf8.encode (Report.pageText (reportsOf ds))) := by
  have hws : writes directory ds =
      manifestWrites directory ds ++ reportWrites directory (reportsOf ds) := by
    rw [writes, if_neg (by simpa using h)]
  have hmem {w : String × Bytes} (hw : w ∈ reportWrites directory (reportsOf ds)) :
      w ∈ writes directory ds := hws ▸ List.mem_append_right _ hw
  have hjson : p.LiesAt directory [jsonFile] (seat (Path.join directory jsonFile)) :=
    liesAt_seat_of_report hseats (by simp) (hmem List.mem_cons_self)
  have hpage : p.LiesAt directory [pageFile] (seat (Path.join directory pageFile)) :=
    liesAt_seat_of_report hseats (by simp) (hmem (List.mem_cons_of_mem _ List.mem_cons_self))
  constructor
  · apply Disk.read_fill_of_last hseats hws
    intro w hw heq
    obtain rfl := List.mem_singleton.mp hw
    exact absurd ((hpage.eq_iff hjson).mp heq) (by decide)
  · apply Disk.read_fill_of_last hseats (hws.trans (List.append_cons ..))
    exact fun w hw => absurd hw List.not_mem_nil

include hnames

theorem liesAt_seat_of_manifest {x : Manifest} (hx : .manifest x ∈ ds) :
    p.LiesAt directory [manifestsDirectory, x.fileName] (seat (manifestFile directory x)) := by
  have hw : (manifestFile directory x, x.content) ∈ manifestWrites directory ds :=
    mem_manifestWrites.mpr ⟨x, hx, rfl⟩
  exact liesAt_manifest (hnames x hx) (hseats _ (List.mem_append_left _ hw)).located

theorem read_manifest {before after : List Delivery} {x : Manifest}
    (hds : ds = before ++ .manifest x :: after)
    (hlast : ∀ y, .manifest y ∈ after → y.fileName ≠ x.fileName) :
    (fill seat p (writes directory ds)).read (manifestFile directory x) = .ok x.content := by
  have hx : p.LiesAt directory [manifestsDirectory, x.fileName]
      (seat (manifestFile directory x)) :=
    liesAt_seat_of_manifest hnames hseats (hds ▸ List.mem_append_right _ List.mem_cons_self)
  have hws : writes directory ds = manifestWrites directory before ++
      (manifestFile directory x, x.content) :: (manifestWrites directory after ++
        if (reportsOf ds).isEmpty then [] else reportWrites directory (reportsOf ds)) := by
    have hmanifests : manifestWrites directory ds = manifestWrites directory before ++
        (manifestFile directory x, x.content) :: manifestWrites directory after := by
      rw [hds, manifestWrites, List.filterMap_append]
      rfl
    rw [writes, hmanifests, List.append_assoc]
    rfl
  apply Disk.read_fill_of_last hseats hws
  intro w hw heq
  have hmem : w ∈ writes directory ds :=
    hws ▸ List.mem_append_right _ (List.mem_cons_of_mem _ hw)
  rcases List.mem_append.mp hw with hw | hw
  · obtain ⟨y, hy, rfl⟩ := mem_manifestWrites.mp hw
    have hds' : .manifest y ∈ ds :=
      hds ▸ List.mem_append_right _ (List.mem_cons_of_mem _ hy)
    have hy' := liesAt_seat_of_manifest hnames hseats hds'
    have hsame := (hy'.eq_iff hx).mp heq
    exact hlast y hy (by simpa using hsame)
  · split at hw
    · cases hw
    · obtain ⟨name, hname, content, rfl⟩ := exists_name_of_mem_reportWrites hw
      have hw' := liesAt_seat_of_report hseats hname hmem
      exact absurd ((hw'.eq_iff hx).mp heq) (by simp)

theorem entry?_report (h : reportsOf ds = []) {name : String} {place : List String}
    (hplace : (fill seat p (writes directory ds)).LiesAt directory [name] place) :
    Disk.entry? (fill seat p (writes directory ds)) place = p.entry? place := by
  have hgrows := Disk.fill_grows hseats
  apply Disk.entry?_fill_of_ne
  intro w hw heq
  have hw' : w ∈ manifestWrites directory ds := by
    rw [writes, h] at hw
    simpa using hw
  obtain ⟨x, hx, rfl⟩ := mem_manifestWrites.mp hw'
  have hx' := (liesAt_seat_of_manifest hnames hseats hx).of_grows hgrows
  exact absurd ((hx'.eq_iff hplace).mp heq) (by simp)

theorem kept_fill
    (hopens : Disk.Opens (Path.isAbsolute directory)
      (· <+: Path.components directory ++ [manifestsDirectory]) d p)
    (hnil : writes directory ds = [] → p = d) :
    Kept directory ds d (fill seat p (writes directory ds)) where
  workingDirectory := (Disk.fill_workingDirectory p _).trans hopens.workingDirectory
  manifests before x after hds hlast := read_manifest hnames hseats hds hlast
  reports h := read_reports hseats h
  faithful := ⟨Report.ofDocument?_jsonText _, fun _ h => Report.Page.pageText_injective h⟩
  unreported h name hname place hplace content := by
    rw [entry?_report hnames hseats h
      (Disk.liesAt_of_locate (isName_of_mem_reportFiles hname).1 hplace)]
    rcases hopens.entries place with heq | ⟨hnone, hdirectory, -⟩
    · rw [heq]
    · simp [hnone, hdirectory]
  others q hq := by
    have hgrows := Disk.fill_grows hseats
    have hsame : Disk.entry? (fill seat p (writes directory ds)) q = p.entry? q := by
      apply Disk.entry?_fill_of_ne
      rintro w hw rfl
      exact hq w hw (hgrows.locate (hseats w hw).located)
    rw [hsame]
    refine (hopens.entries q).imp_right ?_
    rintro ⟨hnone, hdirectory, names, hprefix, hwalk⟩
    refine ⟨hnone, hdirectory, names, hprefix, ?_⟩
    rw [hgrows.origin]
    exact hgrows.walk hwalk
  idle h := by
    rw [h]
    exact hnil h

end

/-- Where each of the files could be written alone, all calls of a run work. Each file of a
manifest holds what came last under its name, the reports are shown if there are any, and all
else stays. A second run of the same calls works as well and changes nothing. -/
theorem session_kept (hnames : ∀ x, .manifest x ∈ ds → Path.IsName x.fileName)
    (hwrites : ∀ w ∈ writes directory ds, (d.stored w.1 w.2).1 = .ok ()) :
    ∃ d', (session Disk.system directory ds).run d = ((ds.map fun _ => .ok (), .ok ()), d') ∧
      Kept directory ds d d' ∧
      ∃ d'', (session Disk.system directory ds).run d' =
          ((ds.map fun _ => .ok (), .ok ()), d'') ∧
        d''.workingDirectory = d'.workingDirectory ∧ ∀ q, d''.entry? q = d'.entry? q := by
  obtain ⟨p, hopens, hseats, hhead, hnil⟩ := exists_seats hnames hwrites
  obtain ⟨seat, hseat⟩ := Disk.exists_seating hseats
  have hfirst := (Disk.puts_fill hseat).of_openedFor hseat hhead hnil
  have hagain : ∀ w ∈ writes directory ds,
      (fill seat p (writes directory ds)).Seat w.1 (seat w.1) :=
    fun w hw => (hseat w hw).fill hseat
  refine ⟨_, run_session hfirst, kept_fill hnames hseat hopens hnil, _,
    run_session (Disk.puts_fill hagain), Disk.fill_workingDirectory _ _, ?_⟩
  exact Disk.entry?_fill_again fun w hw => (hseat w hw).ne_nil

section

private def writtenTwice : List Delivery := [
  .manifest ⟨"network.yaml", Utf8.encode "a"⟩,
  .report ⟨"SDN", [.carried "CIDR" "ClusterNetwork"]⟩,
  .manifest ⟨"network.yaml", Utf8.encode "b"⟩]

/-- An output directory with a file of somebody else in it. -/
private def diskWithNotes : Disk where
  entries := [(["out"], .directory), (["out", "notes"], .file (Utf8.encode "c"))]

private def sdnDocument : String := "\x7b
  \"components\": [
    \x7b
      \"component\": \"SDN\",
      \"reports\": [
        \x7b
          \"name\": \"CIDR\",
          \"kind\": \"ClusterNetwork\",
          \"supported\": true,
          \"confidence\": 2,
          \"comment\": \"\"
        \x7d
      ]
    \x7d
  ]
\x7d"

theorem session_kept_written_twice :
    (∀ x, .manifest x ∈ writtenTwice → Path.IsName x.fileName) ∧
      (∀ w ∈ writes "out" writtenTwice, (diskWithNotes.stored w.1 w.2).1 = .ok ()) ∧
      ∃ d', (session Disk.system "out" writtenTwice).run diskWithNotes =
          (([.ok (), .ok (), .ok ()], .ok ()), d') ∧
        Kept "out" writtenTwice diskWithNotes d' ∧
        d'.read "out/manifests/network.yaml" = .ok (Utf8.encode "b") ∧
        d'.read "out/report.json" = .ok (Utf8.encode sdnDocument) ∧
        ∃ d'', (session Disk.system "out" writtenTwice).run d' =
            (([.ok (), .ok (), .ok ()], .ok ()), d'') ∧
          ∀ q, d''.entry? q = d'.entry? q := by
  have hnames : ∀ x, .manifest x ∈ writtenTwice → Path.IsName x.fileName := by
    intro x hx
    have hname : x.fileName = "network.yaml" := by
      simp only [writtenTwice, List.mem_cons, Delivery.manifest.injEq, reduceCtorEq,
        List.not_mem_nil, or_false, false_or] at hx
      rcases hx with rfl | rfl <;> rfl
    rw [hname]
    decide
  have hwrites : ∀ w ∈ writes "out" writtenTwice, (diskWithNotes.stored w.1 w.2).1 = .ok () := by
    decide +kernel
  obtain ⟨d', hrun, hkept, d'', hagain, -, hsame⟩ := session_kept hnames hwrites
  have hmanifest :=
    hkept.manifests (writtenTwice.take 2) ⟨"network.yaml", Utf8.encode "b"⟩ [] rfl nofun
  have hfile : manifestFile "out" ⟨"network.yaml", Utf8.encode "b"⟩ =
      "out/manifests/network.yaml" := by decide +kernel
  rw [hfile] at hmanifest
  have hreport := (hkept.reports (by decide)).1
  have hpath : Path.join "out" jsonFile = "out/report.json" := by decide +kernel
  have htext : Report.jsonText (reportsOf writtenTwice) = sdnDocument := by decide +kernel
  rw [hpath, htext] at hreport
  exact ⟨hnames, hwrites, d', hrun, hkept, hmanifest, hreport, d'', hagain, hsame⟩

end

end Destination

end ClusterMigration
