import ClusterMigration.Proofs.Component.Outputs
import ClusterMigration.Proofs.Json.Member

/-!
# Reports and the resources beside them

The rows of a report are put together from the settings, and so is the resource that is put out
with it, one apart from the other. For the components with one resource the two are compared:
what the rows say has been carried over is what the resource holds, and what they say has been
dropped is nowhere in it. The main statement is `every_setting_accounted`.
-/

namespace ClusterMigration

namespace Report

variable {α : Type}

/-- The settings that the rows say are supported, each with what stands for it. -/
def kept (rows : List Row) : List (String × String) :=
  (rows.filter (·.supported)).map fun row => (row.kind, row.name)

def lost (rows : List Row) : List (String × String) :=
  (rows.filter (!·.supported)).map fun row => (row.kind, row.name)

@[simp] theorem kept_append (rows more : List Row) :
    kept (rows ++ more) = kept rows ++ kept more := by
  simp only [kept, List.filter_append, List.map_append]

@[simp] theorem lost_append (rows more : List Row) :
    lost (rows ++ more) = lost rows ++ lost more := by
  simp only [lost, List.filter_append, List.map_append]

@[simp] theorem kept_map_carried (l : List α) (name kind : α → String) :
    kept (l.map fun a => .carried (name a) (kind a)) = l.map fun a => (kind a, name a) := by
  induction l with
  | nil => rfl
  | cons a l ih => exact congrArg ((kind a, name a) :: ·) ih

@[simp] theorem lost_map_carried (l : List α) (name kind : α → String) :
    lost (l.map fun a => .carried (name a) (kind a)) = [] := by
  induction l with
  | nil => rfl
  | cons a l ih => exact ih

@[simp] theorem kept_map_dropped (l : List α) (name kind comment : α → String) :
    kept (l.map fun a => .dropped (name a) (kind a) (comment a)) = [] := by
  induction l with
  | nil => rfl
  | cons a l ih => exact ih

@[simp] theorem lost_map_dropped (l : List α) (name kind comment : α → String) :
    lost (l.map fun a => .dropped (name a) (kind a) (comment a)) =
      l.map fun a => (kind a, name a) := by
  induction l with
  | nil => rfl
  | cons a l ih => exact congrArg ((kind a, name a) :: ·) ih

theorem length_filter_dropped (rows : List Row) (title : String) :
    (rows.filter fun row => !row.supported && row.kind == title).length =
      ((lost rows).filter (·.1 == title)).length := by
  simp [lost, List.filter_map, List.filter_filter, Function.comp_def, Bool.and_comm]

theorem length_filter_title {settings : List (String × α)} (hnodup : (settings.map (·.1)).Nodup)
    {s : String × α} (hs : s ∈ settings) (wanted : String × α → Bool) :
    ((settings.filter wanted).filter (·.1 == s.1)).length = if wanted s then 1 else 0 := by
  induction settings with
  | nil => cases hs
  | cons t settings ih =>
      obtain ⟨hnew, hrest⟩ := List.nodup_cons.mp hnodup
      rcases List.mem_cons.mp hs with rfl | hs
      · have hnone : (settings.filter wanted).filter (·.1 == s.1) = [] := by
          simp only [List.filter_eq_nil_iff, List.mem_filter, beq_iff_eq]
          rintro r ⟨hr, -⟩ heq
          exact hnew (List.mem_map.mpr ⟨r, hr, heq⟩)
        cases hwanted : wanted s <;> simp [hwanted, hnone]
      · have hother : (t.1 == s.1) = false :=
          beq_false_of_ne fun heq => hnew (List.mem_map.mpr ⟨s, hs, heq.symm⟩)
        rw [← ih hrest hs]
        cases hwanted : wanted t <;> simp [hwanted, hother]

theorem eq_nil_iff {rows : List Row} : rows = [] ↔ kept rows = [] ∧ lost rows = [] := by
  cases rows with
  | nil => exact iff_of_true rfl ⟨rfl, rfl⟩
  | cons row rows => cases h : row.supported <;> simp [kept, lost, h]

end Report

namespace Component

open Report (Row kept lost)

/-- Under the key there are items that read as these texts, in order. Where there are no texts
the key is missing. -/
def HasTexts (v : Json) (key : String) (read : Json → Option String) (texts : List String) :
    Prop :=
  match v.member? key with
  | none => texts = []
  | some found => ∃ items, found = .array items ∧ items ≠ [] ∧ items.map read = texts.map some

def HasOnly (v : Json) (keys : List String) : Prop :=
  ∃ members, v = .object members ∧ (members.map (·.1)).Sublist keys

def itemsUnder (key : String) (items : List Json) : List (String × Json) :=
  if items.isEmpty then [] else [(key, .array items)]

theorem lookup_itemsUnder (key other : String) (items : List Json) :
    (itemsUnder key items).lookup other =
      if other = key ∧ items ≠ [] then some (.array items) else none := by
  cases items with
  | nil => simp [itemsUnder]
  | cons item items => by_cases h : other = key <;> simp [itemsUnder, Json.lookup_cons_eq, h]

theorem keys_itemsUnder (key : String) (items : List Json) :
    ((itemsUnder key items).map (·.1)).Sublist [key] := by
  cases items with
  | nil => exact List.nil_sublist _
  | cons item items => exact List.Sublist.refl _

variable {key₁ key₂ : String} {items₁ items₂ : List Json} {read : Json → Option String}
  {texts : List String}

theorem hasTexts_of_lookup {members : List (String × Json)} {key : String} {items : List Json}
    (h : members.lookup key = if items ≠ [] then some (.array items) else none)
    (hread : items.map read = texts.map some) : HasTexts (.object members) key read texts := by
  unfold HasTexts
  rw [Json.member?_object, h]
  by_cases hitems : items = []
  · rw [if_neg fun h => h hitems]
    subst hitems
    exact List.map_eq_nil_iff.mp hread.symm
  · rw [if_pos hitems]
    exact ⟨items, rfl, hitems, hread⟩

theorem hasTexts_first (hkeys : key₁ ≠ key₂) (hread : items₁.map read = texts.map some) :
    HasTexts (.object (itemsUnder key₁ items₁ ++ itemsUnder key₂ items₂)) key₁ read texts := by
  refine hasTexts_of_lookup ?_ hread
  rw [List.lookup_append, lookup_itemsUnder, lookup_itemsUnder]
  by_cases h : items₁ = [] <;> simp [h, hkeys]

theorem hasTexts_second (hkeys : key₁ ≠ key₂) (hread : items₂.map read = texts.map some) :
    HasTexts (.object (itemsUnder key₁ items₁ ++ itemsUnder key₂ items₂)) key₂ read texts := by
  refine hasTexts_of_lookup ?_ hread
  rw [List.lookup_append, lookup_itemsUnder, lookup_itemsUnder]
  simp [hkeys.symm]

theorem hasOnly_two (key₁ key₂ : String) (items₁ items₂ : List Json) :
    HasOnly (.object (itemsUnder key₁ items₁ ++ itemsUnder key₂ items₂)) [key₁, key₂] := by
  refine ⟨_, rfl, ?_⟩
  rw [List.map_append]
  exact (keys_itemsUnder key₁ items₁).append (keys_itemsUnder key₂ items₂)

theorem accepts_iff {P : Prop} [Decidable P] {e : Failure} :
    (if P then .error e else .ok () : Except Failure Unit) = .ok () ↔ ¬P := by
  by_cases h : P <;> simp [h]

theorem map_text?_string (texts : List String) :
    (texts.map Json.string).map Json.text? = texts.map some := by
  rw [List.map_map]
  rfl

/-! ## Image policy -/

namespace Image

def differs {α : Type} [DecidableEq α] (get : ImagePolicy → α) (p : ImagePolicy) : Bool :=
  get p ≠ get {}

/-- The settings that nothing in the new cluster corresponds to. -/
def others : List (String × (ImagePolicy → Bool)) := [
  ("AdditionalTrustedCA", differs (·.additionalTrustedCa)),
  ("InternalRegistryHostname", differs (·.internalRegistryHostname)),
  ("DisableScheduledImport", differs (·.disableScheduledImport)),
  ("MaxImagesBulkImportedPerRepository", differs (·.maxImagesBulkImported)),
  ("MaxScheduledImageImportsPerMinute", differs (·.maxScheduledImportsPerMinute)),
  ("ScheduledImageImportMinimumIntervalSeconds", differs (·.minimumImportIntervalSeconds))]

def external (p : ImagePolicy) : List String :=
  if p.externalRegistryHostname = "" then [] else [p.externalRegistryHostname]

def registryOf (item : Json) : Option String := (item.member? "domainName").bind Json.text?

/-- What the rows say of the policy is what became of it in the resource. -/
structure Accounts (p : ImagePolicy) (spec : Json) (rows : List Row) : Prop where
  accepted : validate p = .ok () ↔ rows ≠ []
  kept : kept rows = (p.allowedRegistries.map (·.domainName)).map ("AllowedRegistriesForImport", ·)
    ++ (external p).map ("ExternalRegistryHostnames", ·)
  allowed : HasTexts spec "allowedRegistriesForImport" registryOf
    (p.allowedRegistries.map (·.domainName))
  external : HasTexts spec "externalRegistryHostnames" Json.text? (external p)
  keys : HasOnly spec ["allowedRegistriesForImport", "externalRegistryHostnames"]
  lost : lost rows = (others.filter (·.2 p)).map fun s => (s.1, s.1)
  once : ∀ s ∈ others, (rows.filter fun row => !row.supported && row.kind == s.1).length =
    if s.2 p then 1 else 0
  absent : ∀ q : ImagePolicy, q.allowedRegistries = p.allowedRegistries →
    q.externalRegistryHostname = p.externalRegistryHostname → Image.spec q = spec

theorem hostnames_eq (p : ImagePolicy) : hostnames p = external p := by
  simp only [hostnames, external, String.isEmpty_iff]

theorem unsupported_eq (p : ImagePolicy) : unsupported p = others.map fun s => (s.1, s.2 p) := by
  have hnumber (n : Int) : (n != 0) = decide (n ≠ 0) := by
    by_cases h : n = 0 <;> simp [h]
  have htext (t : String) : (!t.isEmpty) = decide (t ≠ "") := by
    by_cases h : t = "" <;> simp [h]
  have hflag (b : Bool) : b = decide (b ≠ false) := by cases b <;> rfl
  simp only [unsupported, hnumber, htext]
  -- as a rule for `simp` this would apply to its own result
  rw [hflag p.disableScheduledImport]
  rfl

theorem spec_eq (p : ImagePolicy) :
    spec p = .object (
      itemsUnder "allowedRegistriesForImport" (p.allowedRegistries.map allowedRegistry)
        ++ itemsUnder "externalRegistryHostnames" ((external p).map .string)) := by
  simp only [spec, itemsUnder, hostnames_eq, List.isEmpty_map]

theorem kept_rows (p : ImagePolicy) :
    Report.kept (rows p) =
      (p.allowedRegistries.map (·.domainName)).map ("AllowedRegistriesForImport", ·)
        ++ (external p).map ("ExternalRegistryHostnames", ·) := by
  simp [rows, hostnames_eq]

theorem lost_rows (p : ImagePolicy) :
    Report.lost (rows p) = (others.filter (·.2 p)).map fun s => (s.1, s.1) := by
  simp [rows, unsupported_eq, List.filter_map, Function.comp_def]

theorem isEmpty_iff (p : ImagePolicy) : p.isEmpty = true ↔ rows p = [] := by
  rw [Report.eq_nil_iff, kept_rows, lost_rows, ImagePolicy.isEmpty, beq_iff_eq]
  simp only [List.append_eq_nil_iff, List.map_eq_nil_iff, List.filter_eq_nil_iff, others,
    List.forall_mem_cons, differs, external]
  obtain ⟨allowed, ca, externalHost, internalHost, disabled, bulk, perMinute, interval⟩ := p
  simp only [ImagePolicy.mk.injEq]
  grind

theorem accounts (p : ImagePolicy) : Accounts p (spec p) (rows p) where
  accepted := by
    rw [validate, accepts_iff, ne_eq, isEmpty_iff]
  kept := kept_rows p
  allowed := by
    rw [spec_eq]
    refine hasTexts_first (by decide) ?_
    rw [List.map_map, List.map_map]
    rfl
  external := by
    rw [spec_eq]
    exact hasTexts_second (by decide) (map_text?_string _)
  keys := by
    rw [spec_eq]
    exact hasOnly_two ..
  lost := lost_rows p
  once s hs := by
    have hnodup : (others.map (·.1)).Nodup := by decide
    rw [Report.length_filter_dropped, lost_rows, List.filter_map, List.length_map]
    exact Report.length_filter_title hnodup hs fun s => s.2 p
  absent q hallowed hexternal := by
    rw [spec, spec, hostnames_eq, hostnames_eq, external, external, hallowed, hexternal]

end Image

/-! ## Container registries -/

namespace Registries

/-- What the rows say of the lists is what became of them in the resource. -/
structure Accounts (l : Lists) (spec : Json) (rows : List Row) : Prop where
  accepted : validate l = .ok () ↔ rows ≠ []
  kept : kept rows =
    l.block.registries.map ("Blocked", ·) ++ l.insecure.registries.map ("Insecure", ·)
  sources : ∃ sources, spec = .object [("registrySources", sources)] ∧
    HasTexts sources "blockedRegistries" Json.text? l.block.registries ∧
    HasTexts sources "insecureRegistries" Json.text? l.insecure.registries ∧
    HasOnly sources ["blockedRegistries", "insecureRegistries"]
  lost : lost rows = l.search.registries.map ("Search", ·)
  absent : ∀ search, Registries.spec { l with search } = spec

theorem spec_eq (l : Lists) :
    spec l = .object [("registrySources", .object (
      itemsUnder "blockedRegistries" (l.block.registries.map .string)
        ++ itemsUnder "insecureRegistries" (l.insecure.registries.map .string)))] := by
  simp only [spec, itemsUnder, List.isEmpty_map]

theorem rows_eq_nil_iff (l : Lists) :
    rows l = [] ↔ l.search.registries.isEmpty ∧ l.insecure.registries.isEmpty ∧
      l.block.registries.isEmpty := by
  simp only [rows, List.append_eq_nil_iff, List.map_eq_nil_iff, List.isEmpty_iff]
  constructor
  · rintro ⟨⟨hblock, hinsecure⟩, hsearch⟩
    exact ⟨hsearch, hinsecure, hblock⟩
  · rintro ⟨hsearch, hinsecure, hblock⟩
    exact ⟨⟨hblock, hinsecure⟩, hsearch⟩

theorem accounts (l : Lists) : Accounts l (spec l) (rows l) where
  accepted := by rw [validate, accepts_iff, ne_eq, rows_eq_nil_iff]
  kept := by simp [rows]
  sources := ⟨_, spec_eq l, hasTexts_first (by decide) (map_text?_string _),
    hasTexts_second (by decide) (map_text?_string _), hasOnly_two ..⟩
  lost := by simp [rows]
  absent _ := rfl

end Registries

/-! ## Container runtime -/

namespace Crio

def shown : Json → String
  | .integer n => toString n
  | .string s => s
  | _ => ""

/-- What the rows say of the settings is what became of them in the resource. -/
structure Accounts (x : Runtime) (spec : Json) (rows : List Row) : Prop where
  accepted : validate x = .ok () ↔ rows ≠ []
  settings : ∃ members, spec.member? "containerRuntimeConfig" = some (.object members) ∧
    kept rows = members.map (fun m => (m.1, shown m.2)) ∧
    (members.map (·.1)).Sublist ["pidsLimit", "logLevel", "logSizeMax"] ∧
    members.lookup "pidsLimit" = x.pidsLimit.map .integer ∧
    members.lookup "logLevel" = x.logLevel.map .string ∧
    members.lookup "logSizeMax" = x.logSizeMax.map .integer
  lost : lost rows = []

theorem accounts (x : Runtime) : Accounts x (spec x) (rows x) := by
  obtain ⟨pids, level, size⟩ := x
  refine ⟨?_, ⟨_, rfl, ?_⟩, ?_⟩
  · rw [validate, accepts_iff]
    cases pids <;> cases level <;> cases size <;> simp [rows, Runtime.isEmpty]
  · refine ⟨?_, ?_⟩
    · simp [rows, shown, Function.comp_def]
    · cases pids <;> cases level <;> cases size <;> simp [Json.lookup_cons_eq]
  · simp [rows]

end Crio

/-- For the image policy, the container registries and the container runtime: one manifest and
one report are put out. What is gathered is accepted just if there is something to report, the
supported rows name what the manifest's document holds, and every other setting that is set has
its one row and nothing in the document. -/
theorem every_setting_accounted :
    (∀ p : ImagePolicy, ∃ document spec rows,
      (Image.transform p).2 = .ok [
        .manifests [⟨Manifest.domainFileName "image", Utf8.encode (Yaml.render document)⟩],
        .report ⟨Image.name, rows⟩] ∧
      document.member? "spec" = some spec ∧ Image.Accounts p spec rows) ∧
    (∀ l : Registries.Lists, ∃ document spec rows,
      (Registries.transform l).2 = .ok [
        .manifests [⟨Manifest.domainFileName "registries", Utf8.encode (Yaml.render document)⟩],
        .report ⟨Registries.name, rows⟩] ∧
      document.member? "spec" = some spec ∧ Registries.Accounts l spec rows) ∧
    ∀ x : Crio.Runtime, ∃ document spec rows,
      (Crio.transform x).2 = .ok [
        .manifests [⟨Manifest.domainFileName "crio", Utf8.encode (Yaml.render document)⟩],
        .report ⟨Crio.name, rows⟩] ∧
      document.member? "spec" = some spec ∧ Crio.Accounts x spec rows :=
  ⟨fun p => ⟨_, _, _, rfl, rfl, Image.accounts p⟩,
    fun l => ⟨_, _, _, rfl, rfl, Registries.accounts l⟩,
    fun x => ⟨_, _, _, rfl, rfl, Crio.accounts x⟩⟩

end Component

end ClusterMigration
