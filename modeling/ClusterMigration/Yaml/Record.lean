import ClusterMigration.Json.Basic
import ClusterMigration.Yaml.Document
import ClusterMigration.Yaml.Plain

/-!
# Reading records from documents

A record is a mapping. Each of its fields may be given once; other members are
ignored, but have to be readable. A field that is not given keeps its initial value,
and so does a record that is left empty.

Nesting is limited, and so is the number of aliases followed, in proportion to the
size of the document.
-/

namespace ClusterMigration

namespace Yaml

inductive ReadError where
  | unreadable
  /-- More aliases were followed than the document allows. -/
  | exhausted
  | mismatch (path : String) (m : Mismatch)
  deriving DecidableEq, Repr

/-- What a parser says of its own is left out: the line and column of a mismatch, and which rule
of the syntax or which limit is broken. These have one constant text, so two texts are equal
only up to that. -/
def ReadError.message : ReadError → String
  | unreadable | exhausted => "<yaml>"
  | mismatch path m =>
    if path.isEmpty then m.message Spelling.plain else path ++ ": " ++ m.message Spelling.plain

/-- Counts the aliases followed. -/
abbrev Reading := StateT Nat (Except ReadError)

structure Place where
  document : Document
  /-- How many collections may still be entered. -/
  depth : Nat := 128
  path : String := ""
  /-- The path of the collection around it. -/
  outer : String := ""

abbrev Reader (α : Type) := Place → Node → Reading α

def unreadable {α : Type} : Reading α := throw .unreadable

/-- How a key shows in a path: only if it is written out. -/
def Node.label : Node → String
  | .scalar _ _ text => text
  | _ => "?"

/-- Aliases followed per mark of the document. -/
def aliasAllowance : Nat := 100

namespace Place

def fail {α : Type} (p : Place) (m : Mismatch) : Reading α := throw (.mismatch p.path m)

def failOutside {α : Type} (p : Place) (m : Mismatch) : Reading α := throw (.mismatch p.outer m)

def resolve (p : Place) : Node → Reading Node
  | .alias slot => do
    let followed ← modifyGet fun n => (n + 1, n + 1)
    if aliasAllowance * p.document.size < followed then throw .exhausted
    else match p.document.target? slot with
      | some node => pure node
      | none => unreadable
  | node => pure node

def enter (p : Place) : Reading Place :=
  match p.depth with
  | 0 => unreadable
  | depth + 1 => pure { p with depth, outer := p.path }

def member (p : Place) (key : Node) : Place :=
  { p with path := if p.path.isEmpty then key.label else p.path ++ "." ++ key.label }

def item (p : Place) (index : Nat) : Place :=
  { p with path := p.path ++ "[" ++ toString index ++ "]" }

end Place

/-! ## Scalars -/

namespace Tag

def boolean : String := "tag:yaml.org,2002:bool"
def integer : String := "tag:yaml.org,2002:int"
def float : String := "tag:yaml.org,2002:float"
def nothing : String := "tag:yaml.org,2002:null"

/-- A tag that belongs to the document and names an alternative. -/
def isLocal : Option String → Bool
  | some tag => tag.startsWith "!"
  | none => false

end Tag

/-- What a scalar stands for where nothing in particular is expected. A tag that its
text does not fit is a mismatch. -/
def scalarValue (tag : Option String) (form : ScalarForm) (text : String) :
    Except Mismatch Found :=
  let judge (found : Option Found) (expected : String) : Except Mismatch Found :=
    match found with
    | some f => .ok f
    | none => .error (.wrongValue (.text text) expected)
  match tag with
  | none => .ok (if form = .plain then Plain.resolve text else .text text)
  | some t =>
    if t = Tag.boolean then judge ((Plain.boolean? text).map .boolean) "a boolean"
    else if t = Tag.integer then judge (Plain.integer? text.toList) "an integer"
    else if t = Tag.float then judge ((Plain.float? text.toList).map .float) "a float"
    else if t = Tag.nothing then judge (if Plain.isNull text then some .nothing else none) "null"
    else if t.startsWith "!" ∧ form = .plain then .ok (Plain.resolve text)
    else .ok (.text text)

def Node.mismatch (n : Node) (expected : String) : Mismatch :=
  match n with
  | .scalar p form text =>
    match scalarValue p.tag form text with
    | .ok found => .wrongType found expected
    | .error m => m
  | .sequence .. => .wrongType .sequence expected
  | _ => .wrongType .mapping expected

def Place.refuse {α : Type} (p : Place) (n : Node) (expected : String) : Reading α :=
  match n with
  | .cut => unreadable
  | n => p.fail (n.mismatch expected)

/-- Any scalar counts as text, whatever it looks like. -/
def readTextAs (expected : String) : Reader String := fun p n => do
  match ← p.resolve n with
  | .scalar _ _ text => pure text
  | n => p.refuse n expected

def readText : Reader String := readTextAs "a string"

/-- Plain scalars, and literal ones that carry the tag. -/
def isCandidate (tag : String) (p : Properties) (form : ScalarForm) : Bool :=
  form = .plain || (form = .literal && p.tag == some tag)

def readFlag : Reader Bool := fun p n => do
  match ← p.resolve n with
  | .scalar q form text =>
    match if isCandidate Tag.boolean q form then Plain.boolean? text else none with
    | some b => pure b
    | none => p.refuse (.scalar q form text) "a boolean"
  | n => p.refuse n "a boolean"

def readNatural (bits : Nat) (expected : String) : Reader Nat := fun p n => do
  match ← p.resolve n with
  | .scalar q form text =>
    match if isCandidate Tag.integer q form then Plain.natural? text.toList else none with
    | some k =>
      if Nat.pow 2 64 ≤ k then p.refuse (.scalar q form text) expected
      else if Nat.pow 2 bits ≤ k then p.fail (.wrongValue (.integer k) expected)
      else pure k
    | none => p.refuse (.scalar q form text) expected
  | n => p.refuse n expected

/-- The number of a signed integer that fits 64 bits. -/
def signed? (text : List Char) : Option Int :=
  match Plain.natural? text, Plain.negative? text with
  | some k, _ => if k < Nat.pow 2 63 then some k else none
  | none, some k => if k ≤ Nat.pow 2 63 then some (-(k : Int)) else none
  | none, none => none

def readInteger (bits : Nat) (expected : String) : Reader Int := fun p n => do
  match ← p.resolve n with
  | .scalar q form text =>
    match if isCandidate Tag.integer q form then signed? text.toList else none with
    | some i =>
      if i < -(Nat.pow 2 (bits - 1) : Int) ∨ (Nat.pow 2 (bits - 1) : Int) ≤ i then
        p.fail (.wrongValue (.integer i) expected)
      else pure i
    | none => p.refuse (.scalar q form text) expected
  | n => p.refuse n expected

/-! ## Collections -/

def readItems {α : Type} (item : Reader α) (p : Place) : Nat → List Node → Reading (List α)
  | _, [] => pure []
  | index, n :: rest => do
    let value ← item (p.item index) n
    return value :: (← readItems item p (index + 1) rest)

def readList {α : Type} (item : Reader α) : Reader (List α) := fun p n => do
  match ← p.resolve n with
  | .sequence _ items => readItems item (← p.enter) 0 items
  | .scalar _ .plain "" => pure []
  | n => p.refuse n "a sequence"

/-- A null, or nothing at all, counts as absent. -/
def readOptional {α : Type} (value : Reader α) : Reader (Option α) := fun p n => do
  match ← p.resolve n with
  | .scalar q form text =>
    if form ≠ .plain then some <$> value p (.scalar q form text)
    else match q.tag with
      | some tag =>
        if tag = Tag.nothing then
          if Plain.isNull text then pure none
          else p.failOutside (.wrongValue (.text text) "null")
        else some <$> value p (.scalar q form text)
      | none =>
        if text.isEmpty ∨ Plain.isNull text then pure none
        else some <$> value p (.scalar q form text)
  | n => some <$> value p n

structure RecordField (ρ : Type) where
  name : String
  {α : Type}
  value : Reader α
  set : α → ρ → ρ

def RecordField.read {ρ : Type} (f : RecordField ρ) (r : ρ) : Reader ρ := fun p n => do
  return f.set (← f.value p n) r

def field {ρ α : Type} (name : String) (value : Reader α) (set : α → ρ → ρ) : RecordField ρ :=
  ⟨name, value, set⟩

section

variable {ρ : Type}

/-- `given` are the fields that have been given already. -/
def readMembers (fields : List (RecordField ρ)) (p : Place) :
    List String → List (Node × Node) → ρ → Reading ρ
  | _, [], r => pure r
  | given, (key, value) :: rest, r => do
    let name ← readTextAs "field identifier" p key
    match fields.find? (·.name == name) with
    | none => if value.isWhole then readMembers fields p given rest r else unreadable
    | some f =>
      if given.contains name then p.fail (.duplicateField name)
      else readMembers fields p (name :: given) rest (← f.read r (p.member key) value)

/-- `type` names the record in the complaint about a node that is none. -/
def readRecord (type : String) (fields : List (RecordField ρ)) (initial : ρ) : Reader ρ :=
    fun p n => do
  match ← p.resolve n with
  | .mapping _ members => readMembers fields (← p.enter) [] members initial
  | .scalar _ .plain "" => pure initial
  | n => p.refuse n type

end

/-! ## Values of any shape -/

/-- Integers beyond 64 bits are no values, and numbers that are not finite are null. -/
def jsonOfFound : Found → Reading Json
  | .nothing => pure .null
  | .boolean b => pure (.bool b)
  | .integer i => pure (.integer i)
  | .float x => pure (if x.isFinite then .float x else .null)
  | .text s => pure (.string s)
  | _ => unreadable

def readJsonMembers (value : Reader Json) (p : Place) :
    Bool → List (Node × Node) → Reading (List (String × Json))
  | _, [] => pure []
  | first, (key, v) :: rest => do
    let name ← readTextAs (if first then "a string key" else "a string") p key
    let v ← value (p.member key) v
    return (name, v) :: (← readJsonMembers value p false rest)

def readJsonWithin : Nat → Reader Json
  | 0, _, _ => unreadable
  | nesting + 1, p, n => do
    let n ← p.resolve n
    if Tag.isLocal n.properties.tag then p.fail (.wrongType .tagged "any valid JSON value")
    else match n with
      | .scalar q form text =>
        match scalarValue q.tag form text with
        | .ok found => jsonOfFound found
        | .error m => p.fail m
      | .sequence _ items =>
        return .array (← readItems (readJsonWithin nesting) (← p.enter) 0 items)
      | .mapping _ members =>
        return .ofMembers (← readJsonMembers (readJsonWithin nesting) (← p.enter) true members)
      | _ => unreadable

def readJson : Reader Json := fun p n => readJsonWithin (p.depth + 1) p n

/-! ## Documents -/

/-- Reads a whole document; `initial` is the value of an empty one. A mismatch that comes
before the text stops being readable is told first. -/
def read {α : Type} (reader : Reader α) (initial : α) (d : Document) : Except ReadError α :=
  match d.root with
  | none => .ok initial
  | some root => do
    let (value, _) ← (reader { document := d } root).run 0
    if d.complete then .ok value else .error .unreadable

end Yaml

end ClusterMigration
