import ClusterMigration.Json.Record
import ClusterMigration.Text.Quoted

/-!
# String sources

Where a confidential text comes from: it is given directly, or it is held by an
environment variable or a file, possibly encrypted with the key in a key file.
-/

namespace ClusterMigration

structure StringSource where
  value : String := ""
  env : String := ""
  file : String := ""
  keyFile : String := ""
  deriving DecidableEq, Repr

namespace StringSource

/-- Nothing says where the text comes from; a key file alone does not. -/
def isEmpty (s : StringSource) : Bool :=
  s.value.isEmpty && s.env.isEmpty && s.file.isEmpty

def isEncrypted (s : StringSource) : Bool := !s.keyFile.isEmpty

/-- A member that may be absent but has to be a text and to stand only once. -/
def member? (key : String) (members : List (String × Json)) : Option String :=
  match members.filter (·.1 == key) with
  | [] => some ""
  | [(_, v)] => v.text?
  | _ => none

def ofMembers? (members : List (String × Json)) : Option StringSource := do
  return {
    value := ← member? "value" members
    env := ← member? "env" members
    file := ← member? "file" members
    keyFile := ← member? "keyFile" members }

/-- A plain text is the value itself. -/
def read : Json → Except Mismatch StringSource
  | .string s => .ok { value := s }
  | .object members =>
    match ofMembers? members with
    | some s => .ok s
    | none => .error (.noAlternative "StringSourceRepr")
  | _ => .error (.noAlternative "StringSourceRepr")

def redacted (s : StringSource) : String :=
  "StringSource \x7b value: \"redacted\", env: " ++ Quoted.quote s.env ++ ", file: "
    ++ Quoted.quote s.file ++ ", key_file: " ++ Quoted.quote s.keyFile ++ " \x7d"

end StringSource

end ClusterMigration
