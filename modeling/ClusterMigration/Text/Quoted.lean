import ClusterMigration.Text.Visible

/-!
# Quoted text

A text between double quotes, as messages show it: quotes and backslashes take
a backslash, the usual controls their letter, and every other character that is
not visible its code point in hexadecimal.
-/

namespace ClusterMigration

namespace Quoted

def hex (n : Nat) : List Char :=
  Nat.toDigits 16 n

def escape (c : Char) : List Char :=
  match c with
  | '\x00' => ['\\', '0']
  | '\t' => ['\\', 't']
  | '\n' => ['\\', 'n']
  | '\r' => ['\\', 'r']
  | '\\' => ['\\', '\\']
  | '"' => ['\\', '"']
  | _ => if isVisible c then [c] else ['\\', 'u', '\x7b'] ++ hex c.toNat ++ ['\x7d']

def quote (text : String) : String :=
  "\"" ++ String.ofList (text.toList.flatMap escape) ++ "\""

end Quoted

end ClusterMigration
