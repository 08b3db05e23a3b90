import ClusterMigration.Decode.Mismatch
import ClusterMigration.Json.Basic

/-!
# Reading records from JSON

A record is given by its fields. An object sets the fields it has members for, in
the order of its members, and its other members are ignored. An array sets the
fields in the order of the record and must not be longer than it. A field that
is not set keeps its initial value.
-/

namespace ClusterMigration

namespace Json

def found : Json → Found
  | null => .nothing
  | bool b => .boolean b
  | integer i => .integer i
  | float x => .float x
  | string s => .text s
  | array _ => .sequence
  | object _ => .mapping

/-- A named part of a record, and what a value given for it does to the record. -/
structure RecordField (ρ : Type) where
  name : String
  read : Json → ρ → Except Mismatch ρ

def field {ρ α : Type} (name : String) (value : Json → Except Mismatch α) (set : α → ρ → ρ) :
    RecordField ρ :=
  ⟨name, fun v r => (value v).map (set · r)⟩

def readText : Json → Except Mismatch String
  | string s => .ok s
  | v => .error (.wrongType v.found "a string")

def readFlag : Json → Except Mismatch Bool
  | bool b => .ok b
  | v => .error (.wrongType v.found "a boolean")

def readTexts : Json → Except Mismatch (List String)
  | array items => items.mapM readText
  | v => .error (.wrongType v.found "a sequence")

def readTextMap : Json → Except Mismatch (List (String × String))
  | object members => members.mapM fun (key, v) => (readText v).map (key, ·)
  | v => .error (.wrongType v.found "a map")

variable {ρ : Type}

def readMembers (fields : List (RecordField ρ)) : List (String × Json) → ρ → Except Mismatch ρ
  | [], r => .ok r
  | (key, v) :: rest, r =>
    match fields.find? (·.name == key) with
    | none => readMembers fields rest r
    | some f =>
      match f.read v r with
      | .ok r => readMembers fields rest r
      | .error e => .error e

/-- `length` is the length of the whole array. -/
def readItems (length : Nat) : List (RecordField ρ) → List Json → ρ → Except Mismatch ρ
  | _, [], r => .ok r
  | [], _ :: _, _ => .error (.wrongLength length "fewer elements in array")
  | f :: fields, v :: rest, r =>
    match f.read v r with
    | .ok r => readItems length fields rest r
    | .error e => .error e

/-- `type` names the record in the complaint about a value that holds none. -/
def readRecord (type : String) (fields : List (RecordField ρ)) (initial : ρ) :
    Json → Except Mismatch ρ
  | object members => readMembers fields members initial
  | array items => readItems items.length fields items initial
  | v => .error (.wrongType v.found type)

end Json

end ClusterMigration
