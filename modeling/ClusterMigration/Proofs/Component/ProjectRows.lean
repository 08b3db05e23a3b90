import ClusterMigration.Proofs.Component.Accounts
import Mathlib.Data.List.DropRight

/-!
# The report about projects and its resource

The resource refers to a template by what stands behind the last slash of the setting, while the
report only asks whether there is a setting. The main statement, `agrees_iff`, says when the two
agree.
-/

namespace ClusterMigration

namespace Component

open Report (Row kept)

namespace Project

structure IsLastPart (part text : String) : Prop where
  nonempty : part ≠ ""
  no_slash : '/' ∉ part.toList
  split : ∃ front, text = front ++ part ∧ (front = "" ∨ ∃ space, front = space ++ "/")

def EndsInSlash (text : String) : Prop := ∃ space, text = space ++ "/"

theorem afterLastSlash_eq (text : List Char) :
    afterLastSlash text = text.rtakeWhile (· ≠ '/') := rfl

theorem slash_not_mem_afterLastSlash (text : List Char) : '/' ∉ afterLastSlash text := by
  intro hslash
  simpa using List.mem_rtakeWhile_imp hslash

theorem exists_before_afterLastSlash (text : List Char) :
    ∃ before, text = before ++ afterLastSlash text ∧
      (before = [] ∨ ∃ space, before = space ++ ['/']) := by
  refine ⟨text.rdropWhile (· ≠ '/'), ?_, ?_⟩
  · rw [afterLastSlash_eq, List.rtakeWhile, List.rdropWhile, ← List.reverse_append,
      List.takeWhile_append_dropWhile, List.reverse_reverse]
  · by_cases h : text.rdropWhile (· ≠ '/') = []
    · exact .inl h
    · have hlast : (text.rdropWhile (· ≠ '/')).getLast h = '/' := by
        simpa using List.rdropWhile_last_not (· ≠ '/') text h
      refine .inr ⟨(text.rdropWhile (· ≠ '/')).dropLast, ?_⟩
      exact (List.dropLast_append_getLast h).symm.trans (by rw [hlast])

theorem templateName?_eq_some_iff {template part : String} :
    templateName? template = some part ↔
      part ≠ "" ∧ afterLastSlash template.toList = part.toList := by
  have hpart : String.ofList (afterLastSlash template.toList) = part ↔
      afterLastSlash template.toList = part.toList := by
    rw [← String.toList_inj, String.toList_ofList]
  rw [← hpart, templateName?]
  by_cases h : String.ofList (afterLastSlash template.toList) = ""
  · simp only [String.isEmpty_iff, h, if_true]
    simp
  · simp only [String.isEmpty_iff, h, if_false]
    constructor
    · rintro ⟨⟩
      exact ⟨h, rfl⟩
    · rintro ⟨-, rfl⟩
      rfl

theorem isLastPart_of_templateName? {template part : String}
    (h : templateName? template = some part) : IsLastPart part template := by
  obtain ⟨hnonempty, hpart⟩ := templateName?_eq_some_iff.mp h
  obtain ⟨before, htext, hbefore⟩ := exists_before_afterLastSlash template.toList
  rw [hpart] at htext
  refine ⟨hnonempty, hpart ▸ slash_not_mem_afterLastSlash _, String.ofList before, ?_, ?_⟩
  · rw [← String.toList_inj, htext, String.toList_append, String.toList_ofList]
  · rcases hbefore with rfl | ⟨space, rfl⟩
    · exact .inl rfl
    · exact .inr ⟨String.ofList space, String.ofList_append⟩

theorem templateName?_eq_none_iff {template : String} :
    templateName? template = none ↔ template = "" ∨ EndsInSlash template := by
  have hnone : templateName? template = none ↔ afterLastSlash template.toList = [] := by
    rw [templateName?]
    by_cases h : afterLastSlash template.toList = [] <;> simp [h]
  rw [hnone]
  constructor
  · intro h
    obtain ⟨before, htext, hbefore⟩ := exists_before_afterLastSlash template.toList
    rw [h, List.append_nil] at htext
    rcases hbefore with rfl | ⟨space, rfl⟩
    · exact .inl (String.toList_eq_nil_iff.mp htext)
    · exact .inr ⟨String.ofList space, by rw [← String.toList_inj, htext]; simp⟩
  · rintro (rfl | ⟨space, rfl⟩)
    · rfl
    · rw [afterLastSlash_eq, String.toList_append]
      exact List.rtakeWhile_concat_neg _ _ _ (by decide)

/-! The two settings that can be carried over, in the resource and in the rows. -/

theorem member?_message (c : ProjectConfig) :
    (spec c).member? "projectRequestMessage" =
      if c.requestMessage = "" then none else some (.string c.requestMessage) := by
  simp only [spec, Json.member?_object, String.isEmpty_iff]
  cases templateName? c.requestTemplate <;> by_cases hmessage : c.requestMessage = "" <;>
    simp [hmessage, Json.lookup_cons_eq]

theorem member?_template (c : ProjectConfig) :
    (spec c).member? "projectRequestTemplate" =
      (templateName? c.requestTemplate).map reference := by
  simp only [spec, Json.member?_object, String.isEmpty_iff]
  cases templateName? c.requestTemplate <;> by_cases hmessage : c.requestMessage = "" <;>
    simp [hmessage, Json.lookup_cons_eq]

theorem kept_rows (c : ProjectConfig) :
    kept (rows c) =
      (if c.requestMessage = "" then [] else [("ProjectRequestMessage", c.requestMessage)])
        ++ if c.requestTemplate = "" then [] else
          [("ProjectRequestTemplate", c.requestTemplate)] := by
  have hcarried (text kind : String) : kept (if text.isEmpty then [] else [.carried text kind]) =
      if text = "" then [] else [(kind, text)] := by
    simp only [String.isEmpty_iff]
    split <;> rfl
  have hdropped (text kind comment : String) :
      kept (if text.isEmpty then [] else [.dropped text kind comment]) = [] := by
    split <;> rfl
  have hallocator : kept ((c.securityAllocator.map allocatorRows).getD []) = [] := by
    cases c.securityAllocator <;> rfl
  simp only [rows, Report.kept_append, hcarried, hdropped, hallocator, List.append_nil]

theorem mem_kept_message (c : ProjectConfig) (text : String) :
    ("ProjectRequestMessage", text) ∈ kept (rows c) ↔
      c.requestMessage ≠ "" ∧ text = c.requestMessage := by
  rw [kept_rows]
  by_cases hmessage : c.requestMessage = "" <;> by_cases htemplate : c.requestTemplate = "" <;>
    simp [hmessage, htemplate]

theorem mem_kept_template (c : ProjectConfig) (text : String) :
    ("ProjectRequestTemplate", text) ∈ kept (rows c) ↔
      c.requestTemplate ≠ "" ∧ text = c.requestTemplate := by
  rw [kept_rows]
  by_cases hmessage : c.requestMessage = "" <;> by_cases htemplate : c.requestTemplate = "" <;>
    simp [hmessage, htemplate]

/-- The keys of the resource that the kinds of rows are about. -/
def keys : List (String × String) := [
  ("ProjectRequestMessage", "projectRequestMessage"),
  ("ProjectRequestTemplate", "projectRequestTemplate")]

def SameMessage (spec : Json) (rows : List Row) : Prop :=
  ∀ v, spec.member? "projectRequestMessage" = some v ↔
    ∃ text, ("ProjectRequestMessage", text) ∈ kept rows ∧ v = .string text

/-- The resource refers to templates by the last part of what is configured. -/
def ByLastPart (c : ProjectConfig) (spec : Json) : Prop :=
  ∀ v, spec.member? "projectRequestTemplate" = some v →
    ∃ part, v = reference part ∧ IsLastPart part c.requestTemplate

/-- What the rows say of the configuration is what became of it in the resource. -/
structure Agrees (c : ProjectConfig) (spec : Json) (rows : List Row) : Prop where
  template : (∃ text, ("ProjectRequestTemplate", text) ∈ kept rows) ↔
    (spec.member? "projectRequestTemplate").isSome = true
  byLastPart : ByLastPart c spec
  message : SameMessage spec rows
  complete : ∀ row ∈ rows, row.confidence = .complete →
    ∃ key, keys.lookup row.kind = some key ∧ (spec.member? key).isSome = true

theorem sameMessage (c : ProjectConfig) : SameMessage (spec c) (rows c) := by
  intro v
  simp only [member?_message, mem_kept_message]
  by_cases h : c.requestMessage = ""
  · simp [h]
  · simp [h, eq_comm]

theorem byLastPart (c : ProjectConfig) : ByLastPart c (spec c) := by
  intro v hv
  rw [member?_template, Option.map_eq_some_iff] at hv
  obtain ⟨part, hpart, rfl⟩ := hv
  exact ⟨part, rfl, isLastPart_of_templateName? hpart⟩

theorem template_iff (c : ProjectConfig) :
    ((∃ text, ("ProjectRequestTemplate", text) ∈ kept (rows c)) ↔
        ((spec c).member? "projectRequestTemplate").isSome = true) ↔
      ¬EndsInSlash c.requestTemplate := by
  have hnone : templateName? c.requestTemplate = none ↔
      c.requestTemplate = "" ∨ EndsInSlash c.requestTemplate := templateName?_eq_none_iff
  have hempty : c.requestTemplate = "" → ¬EndsInSlash c.requestTemplate := by
    rintro h ⟨space, hspace⟩
    have htext := congrArg String.toList (h.symm.trans hspace)
    simp at htext
  simp only [mem_kept_template, exists_and_left, exists_eq, and_true, member?_template,
    Option.isSome_map, Option.isSome_iff_ne_none, ne_eq, hnone]
  by_cases h : c.requestTemplate = ""
  · exact iff_of_true (iff_of_false (not_not.mpr h) (not_not.mpr (.inl h))) (hempty h)
  · rw [iff_true_left h, not_or, and_iff_right h]

theorem kind_of_complete {c : ProjectConfig} {row : Row} (hrow : row ∈ rows c)
    (hcomplete : row.confidence = .complete) :
    (row.kind = "ProjectRequestMessage" ∧ c.requestMessage ≠ "") ∨
      row.kind = "ProjectRequestTemplate" ∧ c.requestTemplate ≠ "" := by
  have hsupported : row.supported = true := by
    have hhonest := isHonest_project_rows c row hrow
    rw [Row.IsHonest, hcomplete] at hhonest
    simpa using hhonest
  have hkept : (row.kind, row.name) ∈ kept (rows c) :=
    List.mem_map_of_mem (List.mem_filter.mpr ⟨hrow, hsupported⟩)
  rw [kept_rows, List.mem_append] at hkept
  -- the rows that are kept are the two that can be complete
  rcases hkept with h | h
  · by_cases hmessage : c.requestMessage = "" <;> simp_all
  · by_cases htemplate : c.requestTemplate = "" <;> simp_all

theorem agrees (c : ProjectConfig) (h : ¬EndsInSlash c.requestTemplate) :
    Agrees c (spec c) (rows c) where
  template := (template_iff c).mpr h
  byLastPart := byLastPart c
  message := sameMessage c
  complete row hrow hcomplete := by
    rcases kind_of_complete hrow hcomplete with ⟨hkind, hmessage⟩ | ⟨hkind, htemplate⟩
    · refine ⟨"projectRequestMessage", by rw [hkind]; rfl, ?_⟩
      rw [member?_message, if_neg hmessage]
      rfl
    · refine ⟨"projectRequestTemplate", by rw [hkind]; rfl, ?_⟩
      exact ((template_iff c).mpr h).mp
        ⟨c.requestTemplate, (mem_kept_template c _).mpr ⟨htemplate, rfl⟩⟩

/-- The report about projects and the resource always agree on the message, and the resource
refers to a template by the last part of what is configured. They agree altogether unless the
template that is configured ends in a slash: the rows say that it has been carried over then,
but the resource has none. -/
theorem agrees_iff (c : ProjectConfig) :
    ∃ document spec rows, (transform (some c)).2 = .ok [
        .manifests [⟨Manifest.domainFileName "project", Utf8.encode (Yaml.render document)⟩],
        .report ⟨name, rows⟩] ∧
      document.member? "kind" = some (.string "Project") ∧
      document.member? "spec" = some spec ∧ SameMessage spec rows ∧ ByLastPart c spec ∧
      (Agrees c spec rows ↔ ¬EndsInSlash c.requestTemplate) := by
  refine ⟨_, _, _, rfl, rfl, rfl, sameMessage c, byLastPart c, fun h => ?_, agrees c⟩
  exact (template_iff c).mp h.template

/-- A template with nothing but its namespace. -/
theorem not_agrees_namespace :
    ¬ ∀ (c : ProjectConfig) (document spec : Json) (rows : List Row),
      (transform (some c)).2 = .ok [
        .manifests [⟨Manifest.domainFileName "project", Utf8.encode (Yaml.render document)⟩],
        .report ⟨name, rows⟩] →
      document.member? "spec" = some spec → Agrees c spec rows := by
  intro h
  have hagrees := h { requestTemplate := "default/" } _ _ _ rfl rfl
  exact (template_iff _).mp hagrees.template ⟨"default", by decide⟩

end Project

end Component

end ClusterMigration
