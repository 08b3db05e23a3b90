import ClusterMigration.Decode.Mismatch

/-!
# TOML values

Tables keep their members in order and remember how they came about, because that
decides what may still be added to them.
-/

namespace ClusterMigration

namespace Toml

inductive Origin where
  /-- It has a header of its own. -/
  | header
  /-- It is on the way to a table with a header. -/
  | implied
  /-- It is on the way along a dotted key. -/
  | dotted
  /-- It is written in braces. -/
  | inline
  deriving DecidableEq, Repr

inductive Value where
  | string (s : String)
  | integer (i : Int)
  | float (x : Binary64)
  | boolean (b : Bool)
  /-- Dates and times matter only by their being there. -/
  | dateTime
  | array (items : List Value)
  | table (origin : Origin) (members : List (String × Value))
  /-- Tables with one header, the items being tables. -/
  | tables (items : List Value)

instance : Inhabited Value := ⟨.dateTime⟩

abbrev Members := List (String × Value)

def Value.found : Value → Found
  | string s => .text s
  | integer i => .integer i
  | float x => .float x
  | boolean b => .boolean b
  | dateTime => .mapping
  | array _ => .sequence
  | table .. => .mapping
  | tables _ => .sequence

namespace Members

def replace (key : String) (v : Value) : Members → Members
  | [] => []
  | (k, w) :: rest => if k = key then (k, v) :: rest else (k, w) :: replace key v rest

def erase (key : String) (ms : Members) : Members := ms.filter (·.1 != key)

def has (key : String) (ms : Members) : Bool := ms.any (·.1 == key)

/-- Changes the table at the end of a path. Tables missing on the way are made; of an
array of tables the last one is meant. Along a dotted key a table with a header of
its own must not be entered, and nothing else than tables ever. -/
def change {α : Type} (dotted : Bool) (f : Origin → Members → Option (α × Members)) :
    List String → Origin → Members → Option (α × Members)
  | [], origin, ms => f origin ms
  | key :: path, _, ms =>
    match ms.lookup key with
    | none => do
      let origin := if dotted then Origin.dotted else .implied
      let (a, sub) ← change dotted f path origin []
      some (a, ms ++ [(key, .table origin sub)])
    | some (.table origin sub) =>
      if origin = .inline ∨ (dotted ∧ origin = .header) then none
      else do
        let (a, sub) ← change dotted f path origin sub
        some (a, ms.replace key (.table origin sub))
    | some (.tables items) =>
      match items.getLast? with
      | some (.table origin sub) => do
        let (a, sub) ← change dotted f path origin sub
        some (a, ms.replace key (.tables (items.dropLast ++ [.table origin sub])))
      | _ => none
    | some _ => none

/-- Adds a member along a dotted key. Its table must be of the making of dotted keys
just if there is a dot, and must not have the member yet. -/
def put (path : List String) (key : String) (v : Value) (origin : Origin) (ms : Members) :
    Option Members :=
  (change true (fun origin ms =>
    if (origin == .dotted) == path.isEmpty ∨ ms.has key then none
    else some ((), ms ++ [(key, v)])) path origin ms).map (·.2)

end Members

end Toml

end ClusterMigration
