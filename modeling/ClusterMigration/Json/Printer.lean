import ClusterMigration.Json.Basic

/-!
# Writing JSON

The compact form has no blanks. The indented form puts every item and member on
a line of its own, two blanks deeper than its container; empty containers stay on
one line.
-/

namespace ClusterMigration

namespace Json

namespace Printer

def hexDigits4 (n : Nat) : List Char :=
  let ds := Nat.toDigits 16 n
  List.replicate (4 - ds.length) '0' ++ ds

def escape (c : Char) : List Char :=
  match c with
  | '"' => ['\\', '"']
  | '\\' => ['\\', '\\']
  | '\n' => ['\\', 'n']
  | '\r' => ['\\', 'r']
  | '\t' => ['\\', 't']
  | '\x08' => ['\\', 'b']
  | '\x0c' => ['\\', 'f']
  | _ => if c.toNat < 32 then ['\\', 'u'] ++ hexDigits4 c.toNat else [c]

def quote (s : String) : String :=
  "\"" ++ String.ofList (s.toList.flatMap escape) ++ "\""

def scalar : Json → String
  | bool b => if b then "true" else "false"
  | integer i => toString i
  | float x => if x.isFinite then x.toCompact else "null"
  | string s => quote s
  | _ => "null"

mutual

def compact : Json → String
  | array items => "[" ++ compactItems items ++ "]"
  | object members => "\x7b" ++ compactMembers members ++ "\x7d"
  | value => scalar value

def compactItems : List Json → String
  | [] => ""
  | [item] => compact item
  | item :: rest => compact item ++ "," ++ compactItems rest

def compactMembers : List (String × Json) → String
  | [] => ""
  | [(key, value)] => quote key ++ ":" ++ compact value
  | (key, value) :: rest =>
    quote key ++ ":" ++ compact value ++ "," ++ compactMembers rest

end

def newline (depth : Nat) : String :=
  "\n" ++ String.ofList (List.replicate (2 * depth) ' ')

mutual

/-- The indented form of a value that stands `depth` containers deep. -/
def indented (depth : Nat) : Json → String
  | array [] => "[]"
  | array (item :: rest) =>
    "[" ++ newline (depth + 1) ++ indented (depth + 1) item ++ indentedItems (depth + 1) rest
      ++ newline depth ++ "]"
  | object [] => "\x7b\x7d"
  | object ((key, value) :: rest) =>
    "\x7b" ++ newline (depth + 1) ++ quote key ++ ": " ++ indented (depth + 1) value
      ++ indentedMembers (depth + 1) rest ++ newline depth ++ "\x7d"
  | value => scalar value

def indentedItems (depth : Nat) : List Json → String
  | [] => ""
  | item :: rest => "," ++ newline depth ++ indented depth item ++ indentedItems depth rest

def indentedMembers (depth : Nat) : List (String × Json) → String
  | [] => ""
  | (key, value) :: rest =>
    "," ++ newline depth ++ quote key ++ ": " ++ indented depth value
      ++ indentedMembers depth rest

end

end Printer

def toCompact (v : Json) : String := Printer.compact v

def toIndented (v : Json) : String := Printer.indented 0 v

end Json

end ClusterMigration
