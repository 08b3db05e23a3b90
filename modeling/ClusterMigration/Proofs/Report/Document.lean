import ClusterMigration.Proofs.Json.ReadBack
import ClusterMigration.Proofs.Text.Utf8
import ClusterMigration.Report

/-!
# What the report document tells

The reports of a run are written as one JSON document. Whoever reads it gets the same reports
back, with the same rows in the same order.
-/

namespace ClusterMigration

namespace Confidence

theorem ofLevel?_level (c : Confidence) : ofLevel? c.level = some c := by
  cases c <;> rfl

end Confidence

namespace Report

open Json (reread rereadItems counted_cons)

/-! ## The reader -/

def Row.ofJson? (v : Json) : Option Row := do
  let .string name ← v.member? "name" | none
  let .string kind ← v.member? "kind" | none
  let .bool supported ← v.member? "supported" | none
  let .integer (.ofNat level) ← v.member? "confidence" | none
  let .string comment ← v.member? "comment" | none
  return ⟨name, kind, supported, ← Confidence.ofLevel? level, comment⟩

def ofJson? (v : Json) : Option Report := do
  let .string component ← v.member? "component" | none
  let .array rows ← v.member? "reports" | none
  return ⟨component, ← rows.mapM Row.ofJson?⟩

def ofDocument? (content : Bytes) : Option (List Report) := do
  let .array reports ← (← Json.parseBytes? content).member? "components" | none
  reports.mapM ofJson?

/-! ## Every value comes back -/

section

variable {α : Type} {write : α → Json}

theorem rereadPlain_level (c : Confidence) :
    (Json.integer c.level).rereadPlain = some (.integer c.level) := by
  cases c <;> rfl

theorem rereadPlain_flag (flag : Bool) : (Json.bool flag).rereadPlain = some (.bool flag) := by
  cases flag <;> rfl

theorem rereadItems_map {depth : Nat} (h : ∀ a, reread depth (write a) = some (write a))
    (as : List α) : rereadItems depth (as.map write) = some (as.map write) := by
  induction as with
  | nil => rfl
  | cons a as ih => simp [rereadItems, h, ih]

theorem canonical_items (as : List α) :
    (Json.array (as.map write)).canonical = .array (as.map fun a => (write a).canonical) := by
  rw [Json.canonical]
  congr 1
  induction as with
  | nil => rfl
  | cons a as ih => rw [List.map_cons, Json.canonicalItems, ih, List.map_cons]

theorem mapM_canonical {read : Json → Option α} (h : ∀ a, read (write a).canonical = some a)
    (as : List α) : (as.map fun a => (write a).canonical).mapM read = some as := by
  induction as with
  | nil => rfl
  | cons a as ih =>
      rw [List.map_cons, List.mapM_cons, h, ih]
      rfl

end

theorem reread_row (depth : Nat) (r : Row) :
    reread (depth + 2) r.toJson = some r.toJson := by
  simp [Row.toJson, reread, Json.rereadMembers, rereadPlain_level, rereadPlain_flag]

theorem reread_report (depth : Nat) (r : Report) :
    reread (depth + 4) r.toJson = some r.toJson := by
  simp [toJson, reread, Json.rereadMembers, rereadItems_map (reread_row depth)]

theorem Row.ofJson?_canonical (r : Row) : Row.ofJson? r.toJson.canonical = some r := by
  have hlevel : (Json.integer r.confidence.level).canonical = .integer r.confidence.level := rfl
  simp [Row.ofJson?, Row.toJson, counted_cons, hlevel, Confidence.ofLevel?_level]

theorem ofJson?_canonical (r : Report) : ofJson? r.toJson.canonical = some r := by
  simp [ofJson?, toJson, counted_cons, canonical_items, mapM_canonical Row.ofJson?_canonical]

/-- The document gives back the reports that it was written for. -/
theorem ofDocument?_jsonText (reports : List Report) :
    ofDocument? (Utf8.encode (jsonText reports)) = some reports := by
  have hreread : reread Json.Parser.depthLimit
      (.object [("components", .array (reports.map toJson))]) =
        some (.object [("components", .array (reports.map toJson))]) := by
    simp [reread, Json.rereadMembers, Json.Parser.depthLimit, rereadItems_map (reread_report 122)]
  rw [ofDocument?, Json.parseBytes?, Utf8.decode?_encode, Option.bind_some, jsonText,
    Json.parse?_toIndented, hreread]
  simp [counted_cons, canonical_items, mapM_canonical ofJson?_canonical]

end Report

end ClusterMigration
