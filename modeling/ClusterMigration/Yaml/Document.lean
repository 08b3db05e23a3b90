import ClusterMigration.Yaml.Node

/-!
# Documents

The first document of a text. Bytes that are no text, or that hold a character no
document may hold, are unreadable from the start.
-/

namespace ClusterMigration

namespace Yaml

structure Document where
  /-- `none` where there is no document at all. -/
  root : Option Node
  /-- Nothing is wrong with the text after the root, and no other document follows. -/
  complete : Bool

namespace Document

open Node (Builder)

def unreadable : Document := ⟨some .cut, false⟩

/-- Directives before a document: whether a version is given, and the tag handles. -/
def directives : Bool → Builder.Handles → List Token → Option (Builder.Handles × List Token)
  | versioned, handles, .version major minor :: rest =>
    if versioned ∨ major ≠ 1 ∨ (minor ≠ 1 ∧ minor ≠ 2) then none
    else directives true handles rest
  | versioned, handles, .tagLead handle lead :: rest =>
    if handles.any (·.1 == handle) then none
    else directives versioned (handles ++ [(handle, lead)]) rest
  | _, handles, rest => some (handles, rest)

def endsCleanly : List Token → Bool
  | .documentEnd :: rest => endsCleanly rest
  | .streamEnd :: _ => true
  | _ => false

def ofRoot (handles : Builder.Handles) (tokens : List Token) : Document :=
  let (node, b) := Builder.node (handles ++ Builder.generalHandles) true false
    (2 * tokens.length + 2) { tokens }
  ⟨some node, endsCleanly b.tokens⟩

/-- Between its marks a document may be empty. -/
def explicitRoot (handles : Builder.Handles) (tokens : List Token) : Document :=
  match tokens with
  | .version .. :: _ | .tagLead .. :: _ | .documentStart :: _ | .documentEnd :: _
  | .streamEnd :: _ => ⟨some .absent, endsCleanly tokens⟩
  | _ => ofRoot handles tokens

def ofTokens (tokens : List Token) : Document :=
  match tokens with
  | [.streamEnd] => ⟨none, true⟩
  | .version .. :: _ | .tagLead .. :: _ | .documentStart :: _ =>
    match directives false [] tokens with
    | some (handles, .documentStart :: rest) => explicitRoot handles rest
    | _ => unreadable
  | _ => ofRoot [] tokens

def ofChars (chars : List Char) : Document :=
  if chars.all isAllowed then ofTokens (tokens chars) else unreadable

def ofBytes (bytes : Bytes) : Document :=
  match Utf8.chars? bytes with
  | some chars => ofChars chars
  | none => unreadable

def anchors (d : Document) : List (Nat × Node) :=
  (d.root.map (·.anchored)).getD []

/-- The node of a slot is the last one that took it. -/
def target? (d : Document) (slot : Nat) : Option Node :=
  d.anchors.reverse.lookup slot

def size (d : Document) : Nat :=
  (d.root.map (·.size)).getD 1

end Document

end Yaml

end ClusterMigration
