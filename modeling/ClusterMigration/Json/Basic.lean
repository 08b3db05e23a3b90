import ClusterMigration.Decimal.Binary64

/-!
# JSON values

An object is a list of members. In canonical form the members are sorted by key
and each key stands once; of members with one key the last one counts.
-/

namespace ClusterMigration

inductive Json where
  | null
  | bool (b : Bool)
  | integer (i : Int)
  | float (x : Binary64)
  | string (s : String)
  | array (items : List Json)
  | object (members : List (String × Json))

namespace Json

instance : Inhabited Json := ⟨null⟩

def isNull : Json → Bool
  | null => true
  | _ => false

/-- Members sorted by key, where a later value of a key replaces an earlier one. -/
def putMember (key : String) (value : Json) : List (String × Json) → List (String × Json)
  | [] => [(key, value)]
  | (k, v) :: rest =>
    if key = k then (key, value) :: rest
    else if key < k then (key, value) :: (k, v) :: rest
    else (k, v) :: putMember key value rest

def ofMembers (members : List (String × Json)) : Json :=
  object (members.foldl (fun sorted m => putMember m.1 m.2 sorted) [])

mutual

def canonical : Json → Json
  | array items => array (canonicalItems items)
  | object members => ofMembers (canonicalMembers members)
  | value => value

def canonicalItems : List Json → List Json
  | [] => []
  | item :: rest => canonical item :: canonicalItems rest

def canonicalMembers : List (String × Json) → List (String × Json)
  | [] => []
  | (key, value) :: rest => (key, canonical value) :: canonicalMembers rest

end

mutual

/-- Leaves out the members that are null, at every depth. Nulls in arrays stay. -/
def dropNulls : Json → Json
  | array items => array (dropNullsItems items)
  | object members => object (dropNullsMembers members)
  | value => value

def dropNullsItems : List Json → List Json
  | [] => []
  | item :: rest => dropNulls item :: dropNullsItems rest

def dropNullsMembers : List (String × Json) → List (String × Json)
  | [] => []
  | (key, value) :: rest =>
    if value.isNull then dropNullsMembers rest
    else (key, dropNulls value) :: dropNullsMembers rest

end

def member? (key : String) : Json → Option Json
  | object members => members.lookup key
  | _ => none

def text? : Json → Option String
  | string s => some s
  | _ => none

end Json

end ClusterMigration
