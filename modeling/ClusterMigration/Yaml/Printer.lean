import ClusterMigration.Json.Basic
import ClusterMigration.Yaml.Style

/-!
# Writing documents

Block style with two blanks of indentation. A sequence that is the value of a
plain key stands at the key's own indentation; everything else stands two blanks
deeper. A key of several lines or of more than 128 bytes is written after a
question mark.
-/

namespace ClusterMigration

namespace Yaml

namespace Printer

def blanks (n : Nat) : List Char := List.replicate n ' '

def hexDigits (width n : Nat) : List Char :=
  let ds := (Nat.toDigits 16 n).map Char.toUpper
  List.replicate (width - ds.length) '0' ++ ds

def escape (c : Char) : List Char :=
  match c with
  | '\x00' => ['\\', '0']
  | '\x07' => ['\\', 'a']
  | '\x08' => ['\\', 'b']
  | '\t' => ['\\', 't']
  | '\n' => ['\\', 'n']
  | '\x0b' => ['\\', 'v']
  | '\x0c' => ['\\', 'f']
  | '\r' => ['\\', 'r']
  | '\x1b' => ['\\', 'e']
  | '"' => ['\\', '"']
  | '\\' => ['\\', '\\']
  | '\u0085' => ['\\', 'N']
  | '\u2028' => ['\\', 'L']
  | '\u2029' => ['\\', 'P']
  | _ =>
    if isPrintable c then [c]
    else if c.toNat ≤ 0xFF then ['\\', 'x'] ++ hexDigits 2 c.toNat
    else if c.toNat ≤ 0xFFFF then ['\\', 'u'] ++ hexDigits 4 c.toNat
    else ['\\', 'U'] ++ hexDigits 8 c.toNat

def double (text : List Char) : List Char :=
  ['"'] ++ text.flatMap escape ++ ['"']

/-- Characters with the indentation put before each run that follows a break. -/
def indentLines (indent : Nat) (one : Char → List Char) : Bool → List Char → List Char
  | _, [] => []
  | fresh, c :: rest =>
    if isBreak c then c :: indentLines indent one true rest
    else (if fresh then blanks indent else []) ++ one c ++ indentLines indent one false rest

def single (indent : Nat) (text : List Char) : List Char :=
  let one (c : Char) := if c = '\'' then ['\'', '\''] else [c]
  let tail := if Style.endsBreak text then blanks indent else []
  ['\''] ++ indentLines indent one false text ++ tail ++ ['\'']

/-- How many line breaks at the end of a literal block count: `-` none, `+` all. -/
def chomping (text : List Char) : List Char :=
  match text.reverse with
  | a :: b :: _ => if !isBreak a then ['-'] else if isBreak b then ['+'] else []
  | [a] => if isBreak a then ['+'] else ['-']
  | [] => ['-']

/-- The indentation is stated where the text itself begins with blanks. -/
def literal (indent : Nat) (text : List Char) : List Char :=
  let hint := if Style.startsBlank text then ['2'] else []
  ['|'] ++ hint ++ chomping text ++ ['\n'] ++ indentLines indent (fun c => [c]) true text

def text (indent : Nat) (s : String) : List Char :=
  match Style.of s with
  | .plain => s.toList
  | .single => single indent s.toList
  | .double => double s.toList
  | .literal => literal indent s.toList

def endLine (line : List Char) : List Char :=
  if Style.endsBreak line then line else line ++ ['\n']

def isSimpleKey (key : String) : Bool :=
  !(Style.isMultiline key.toList) && key.utf8ByteSize ≤ 128

def scalar (indent : Nat) : Json → List Char
  | .bool true => ['t', 'r', 'u', 'e']
  | .bool false => ['f', 'a', 'l', 's', 'e']
  | .integer i => (toString i).toList
  | .float x => x.toPlain.toList
  | .string s => text indent s
  | _ => ['n', 'u', 'l', 'l']

def emptySequence : List Char := ['[', ']', '\n']

def emptyMapping : List Char := ['\x7b', '\x7d', '\n']

mutual

/-- A value that begins on the line of its indicator. -/
def inline (indent : Nat) : Json → List Char
  | .array items => if items.isEmpty then emptySequence else blockItems (indent + 2) true items
  | .object members =>
    if members.isEmpty then emptyMapping else blockMembers (indent + 2) true members
  | value => endLine (scalar (indent + 2) value)

/-- A value after a plain key: containers begin on the next line. -/
def below (indent : Nat) : Json → List Char
  | .array items =>
    if items.isEmpty then ' ' :: emptySequence
    else ['\n'] ++ blanks indent ++ blockItems indent true items
  | .object members =>
    if members.isEmpty then ' ' :: emptyMapping
    else ['\n'] ++ blanks (indent + 2) ++ blockMembers (indent + 2) true members
  | value => ' ' :: endLine (scalar (indent + 2) value)

def blockItems (indent : Nat) (first : Bool) : List Json → List Char
  | [] => []
  | item :: rest =>
    (if first then [] else blanks indent) ++ ['-', ' '] ++ inline indent item
      ++ blockItems indent false rest

def blockMembers (indent : Nat) (first : Bool) : List (String × Json) → List Char
  | [] => []
  | (key, value) :: rest =>
    let lead := if first then [] else blanks indent
    let entry :=
      if isSimpleKey key then text (indent + 2) key ++ [':'] ++ below indent value
      else ['?', ' '] ++ endLine (text (indent + 2) key) ++ blanks indent ++ [':', ' ']
        ++ inline indent value
    lead ++ entry ++ blockMembers indent false rest

end

end Printer

def render : Json → String
  | .array items =>
    String.ofList (if items.isEmpty then Printer.emptySequence
      else Printer.blockItems 0 true items)
  | .object members =>
    String.ofList (if members.isEmpty then Printer.emptyMapping
      else Printer.blockMembers 0 true members)
  | value => String.ofList (Printer.endLine (Printer.scalar 2 value))

end Yaml

end ClusterMigration
