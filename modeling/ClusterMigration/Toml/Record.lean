import ClusterMigration.Text.Utf8
import ClusterMigration.Toml.Parser

/-!
# Reading records from TOML

A table sets the fields it has members for, in its order, and its other members are
ignored. An array, also one of tables, sets the fields in the order of the record, and
what it has beyond them is ignored.
-/

namespace ClusterMigration

namespace Toml

inductive ReadError where
  | unreadable
  | mismatch (m : Mismatch)
  deriving DecidableEq, Repr

/-- What a parser says of its own is left out: the place of a mismatch, and which rule of the
syntax is broken, which has one constant text. -/
def ReadError.message : ReadError → String
  | unreadable => "<toml>"
  | mismatch m => m.message Spelling.plain

def readText : Value → Except Mismatch String
  | .string s => .ok s
  | v => .error (.wrongType v.found "a string")

def readInteger : Value → Except Mismatch Int
  | .integer i => .ok i
  | v => .error (.wrongType v.found "i64")

def readTexts : Value → Except Mismatch (List String)
  | .array items => items.mapM readText
  | .tables items => items.mapM readText
  | v => .error (.wrongType v.found "a sequence")

structure RecordField (ρ : Type) where
  name : String
  read : Value → ρ → Except Mismatch ρ

def field {ρ α : Type} (name : String) (value : Value → Except Mismatch α) (set : α → ρ → ρ) :
    RecordField ρ :=
  ⟨name, fun v r => (value v).map (set · r)⟩

variable {ρ : Type}

def readMembers (fields : List (RecordField ρ)) : Members → ρ → Except Mismatch ρ
  | [], r => .ok r
  | (key, v) :: rest, r =>
    match fields.find? (·.name == key) with
    | none => readMembers fields rest r
    | some f =>
      match f.read v r with
      | .ok r => readMembers fields rest r
      | .error e => .error e

def readItems : List (RecordField ρ) → List Value → ρ → Except Mismatch ρ
  | f :: fields, v :: rest, r =>
    match f.read v r with
    | .ok r => readItems fields rest r
    | .error e => .error e
  | _, _, r => .ok r

/-- A date has no members, as far as records are concerned. -/
def readRecord (type : String) (fields : List (RecordField ρ)) (initial : ρ) :
    Value → Except Mismatch ρ
  | .table _ ms => readMembers fields ms initial
  | .array items => readItems fields items initial
  | .tables items => readItems fields items initial
  | .dateTime => .ok initial
  | v => .error (.wrongType v.found type)

/-- Reads a whole document, whose bytes are taken as text as far as possible. -/
def read (fields : List (RecordField ρ)) (initial : ρ) (content : Bytes) : Except ReadError ρ :=
  match parse? (Utf8.decodeLossy content) with
  | none => .error .unreadable
  | some ms =>
    match readMembers fields ms initial with
    | .ok r => .ok r
    | .error m => .error (.mismatch m)

end Toml

end ClusterMigration
