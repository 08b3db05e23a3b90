import ClusterMigration.Toml.Literal

/-!
# Reading TOML

A document is a list of members and headers, one a line. The members after a header
belong to its table, which is added to the document when the next header comes, so
that a table implied before stands where its own header does.
-/

namespace ClusterMigration

namespace Toml

open Literal (skipBlanks newline? expect isText)

def skipComment (text : List Char) : List Char :=
  match text with
  | '#' :: rest => rest.dropWhile isText
  | _ => text

def lineEnd (text : List Char) : Option (List Char) :=
  match skipComment (skipBlanks text) with
  | [] => some []
  | rest => newline? rest

def skipLines : Nat → List Char → List Char
  | 0, text => text
  | steps + 1, text =>
    let text := skipBlanks text
    match newline? (skipComment text) with
    | some rest => skipLines steps rest
    | none => text

def gap (text : List Char) : List Char := skipLines (text.length + 1) text

def isNumberStart (c : Char) : Bool := c = '+' || c = '-' || Decimal.isDigit c

mutual

/-- A value. The first number bounds the nesting, the second the number of steps. -/
def value (depth : Nat) : Nat → Reader Value
  | 0, _ => none
  | steps + 1, text =>
    match text with
    | [] => none
    | c :: rest =>
      if c = '"' ∨ c = '\'' then (Literal.string text).map fun (s, rest) => (.string s, rest)
      else if c = '[' then
        if depth ≤ 1 then none
        else (items (depth - 1) steps rest).map fun (vs, rest) => (.array vs, rest)
      else if c = '\x7b' then
        if depth ≤ 1 then none
        else match skipBlanks rest with
          | '\x7d' :: rest => some (.table .inline [], rest)
          | rest => (members (depth - 1) steps [] rest).map fun (ms, rest) =>
            (.table .inline ms, rest)
      else if isNumberStart c then
        match Literal.dateTime text with
        | some rest => some (.dateTime, rest)
        | none => Literal.number text
      else if c = 't' then (expect ['t', 'r', 'u', 'e'] text).map (.boolean true, ·)
      else if c = 'f' then (expect ['f', 'a', 'l', 's', 'e'] text).map (.boolean false, ·)
      else Literal.special [] text

/-- The items of an array, with a comma after the last one or not. -/
def items (depth : Nat) : Nat → Reader (List Value)
  | 0, _ => none
  | steps + 1, text =>
    match gap text with
    | ']' :: rest => some ([], rest)
    | text => do
      let (v, rest) ← value depth steps text
      match gap rest with
      | ',' :: rest => do
        let (vs, rest) ← items depth steps rest
        some (v :: vs, rest)
      | ']' :: rest => some ([v], rest)
      | _ => none

/-- The members of a table in braces, on one line and without a comma after the last. -/
def members (depth : Nat) : Nat → Members → Reader Members
  | 0, _, _ => none
  | steps + 1, ms, text => do
    let ((path, key), rest) ← Literal.key text
    let rest ← expect ['='] rest
    let (v, rest) ← value depth steps (skipBlanks rest)
    let ms ← ms.put path key v .inline
    match skipBlanks rest with
    | ',' :: rest => members depth steps ms rest
    | '\x7d' :: rest => some (ms, rest)
    | _ => none

end

/-- The document before the last header, and the table that this header begins. -/
structure Draft where
  root : Members := []
  current : Members := []
  path : List String := []
  /-- `none` before the first header. -/
  header : Option String := none
  isItem : Bool := false

namespace Draft

/-- Adds the current table to the document. -/
def close (d : Draft) : Option Members :=
  match d.header with
  | none => some d.current
  | some key =>
    let table := Value.table .header d.current
    (d.root.change false (fun _ ms =>
      if d.isItem then
        match ms.lookup key with
        | none => some ((), ms ++ [(key, .tables [table])])
        | some (.tables items) => some ((), ms.replace key (.tables (items ++ [table])))
        | some _ => none
      else if ms.has key then none
      else some ((), ms ++ [(key, table)])) d.path .header).map (·.2)

/-- Begins a table. One implied before is taken out of the document and gone on with. -/
def openTable (path : List String) (key : String) (d : Draft) : Option Draft := do
  let root ← d.close
  let (current, root) ← root.change false (fun _ ms =>
    match ms.lookup key with
    | none => some ([], ms)
    | some (.table .implied sub) => some (sub, ms.erase key)
    | some _ => none) path .header
  some { root, current, path, header := some key }

def openItem (path : List String) (key : String) (d : Draft) : Option Draft := do
  let root ← d.close
  let (_, root) ← root.change false (fun _ ms =>
    match ms.lookup key with
    | none => some ((), ms ++ [(key, .tables [])])
    | some (.tables _) => some ((), ms)
    | some _ => none) path .header
  some { root, path, header := some key, isItem := true }

def put (path : List String) (key : String) (v : Value) (d : Draft) : Option Draft := do
  some { d with current := ← d.current.put path key v .header }

end Draft

def line (d : Draft) (text : List Char) : Option (Draft × List Char) :=
  match text with
  | '[' :: '[' :: rest => do
    let ((path, key), rest) ← Literal.key rest
    let rest ← expect [']', ']'] rest
    some (← d.openItem path key, ← lineEnd rest)
  | '[' :: rest => do
    let ((path, key), rest) ← Literal.key rest
    let rest ← expect [']'] rest
    some (← d.openTable path key, ← lineEnd rest)
  | _ => do
    let ((path, key), rest) ← Literal.key text
    let rest ← expect ['='] rest
    let (v, rest) ← value Literal.nestingLimit (text.length + 1) (skipBlanks rest)
    some (← d.put path key v, ← lineEnd rest)

def lines : Nat → Draft → List Char → Option Members
  | 0, _, _ => none
  | steps + 1, d, text =>
    match skipBlanks text with
    | [] => d.close
    | text =>
      match newline? (skipComment text) with
      | some rest => lines steps d rest
      | none =>
        if (skipComment text).isEmpty then d.close
        else (line d text).bind fun (d, rest) => lines steps d rest

def parse? (text : String) : Option Members :=
  let chars := match text.toList with
    | '\ufeff' :: rest => rest
    | chars => chars
  lines (chars.length + 1) {} chars

end Toml

end ClusterMigration
