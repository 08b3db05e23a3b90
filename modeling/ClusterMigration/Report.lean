import ClusterMigration.Json.Printer

/-!
# Reports

What became of each setting of a component, for people: a row per setting, a
report per component, written as one JSON document and as one page.
-/

namespace ClusterMigration

inductive Confidence where
  | unsupported
  | part
  | complete
  deriving DecidableEq, Repr

namespace Confidence

def level : Confidence → Nat
  | unsupported => 0
  | part => 1
  | complete => 2

def ofLevel? : Nat → Option Confidence
  | 0 => some unsupported
  | 1 => some part
  | 2 => some complete
  | _ => none

def colour : Confidence → String
  | unsupported => "#f2dede"
  | part => "#fcf8e3"
  | complete => "#dff0d8"

end Confidence

namespace Report

structure Row where
  name : String
  kind : String
  supported : Bool
  confidence : Confidence
  comment : String := ""
  deriving DecidableEq, Repr

def Row.carried (name kind : String) : Row := ⟨name, kind, true, .complete, ""⟩

def Row.dropped (name kind comment : String) : Row := ⟨name, kind, false, .unsupported, comment⟩

end Report

structure Report where
  component : String
  rows : List Report.Row
  deriving DecidableEq, Repr

namespace Report

def Row.toJson (r : Row) : Json :=
  .object [
    ("name", .string r.name),
    ("kind", .string r.kind),
    ("supported", .bool r.supported),
    ("confidence", .integer r.confidence.level),
    ("comment", .string r.comment)]

def toJson (r : Report) : Json :=
  .object [("component", .string r.component), ("reports", .array (r.rows.map Row.toJson))]

def jsonText (reports : List Report) : String :=
  (Json.object [("components", .array (reports.map toJson))]).toIndented

end Report

end ClusterMigration
