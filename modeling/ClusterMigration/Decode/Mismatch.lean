import ClusterMigration.Decimal.Binary64
import ClusterMigration.Text.Quoted

/-!
# Mismatches

What a typed reading found where it expected something else. Every data format
shares these causes; the formats differ in how they spell the absence of a value
and floating point numbers.
-/

namespace ClusterMigration

inductive Found where
  | nothing
  | boolean (b : Bool)
  | integer (i : Int)
  /-- An integer outside the 64 bit ranges, named after the range it does fit. -/
  | wide (i : Int)
  | float (x : Binary64)
  | text (s : String)
  | sequence
  | mapping
  | tagged
  deriving DecidableEq, Repr

inductive Mismatch where
  | wrongType (found : Found) (expected : String)
  | wrongValue (found : Found) (expected : String)
  | wrongLength (length : Nat) (expected : String)
  | duplicateField (name : String)
  | noAlternative (type : String)
  deriving DecidableEq, Repr

/-- How a data format spells what it holds. -/
structure Spelling where
  nothing : String
  float : Binary64 → String

namespace Spelling

/-- Documents and tables write numbers out in full. -/
def plain : Spelling := ⟨"unit value", Binary64.toPlain⟩

def json : Spelling := ⟨"null", Binary64.toCompact⟩

end Spelling

def Found.describe (spelling : Spelling) : Found → String
  | nothing => spelling.nothing
  | boolean b => s!"boolean `{b}`"
  | integer i => s!"integer `{i}`"
  | wide i => if i < 0 then s!"integer `{i}` as i128" else s!"integer `{i}` as u128"
  | float x => "floating point `" ++ spelling.float x ++ "`"
  | text s => "string " ++ Quoted.quote s
  | sequence => "sequence"
  | mapping => "map"
  | tagged => "enum"

def Mismatch.message (spelling : Spelling) : Mismatch → String
  | wrongType found expected =>
    "invalid type: " ++ found.describe spelling ++ ", expected " ++ expected
  | wrongValue found expected =>
    "invalid value: " ++ found.describe spelling ++ ", expected " ++ expected
  | wrongLength length expected => s!"invalid length {length}, expected {expected}"
  | duplicateField name => s!"duplicate field `{name}`"
  | noAlternative type => s!"data did not match any variant of untagged enum {type}"

end ClusterMigration
