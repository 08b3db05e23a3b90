import ClusterMigration.Yaml.Character

/-!
# Places in a document

What is left of a document, and where that begins. Line breaks of every spelling
count as one line feed, save the two separators of Unicode, which stay as they are.
-/

namespace ClusterMigration

namespace Yaml

def normalizeBreaks : List Char → List Char
  | '\r' :: '\n' :: rest => '\n' :: normalizeBreaks rest
  | '\r' :: rest => '\n' :: normalizeBreaks rest
  | '\u0085' :: rest => '\n' :: normalizeBreaks rest
  | c :: rest => c :: normalizeBreaks rest
  | [] => []

structure Cursor where
  rest : List Char
  index : Nat := 0
  line : Nat := 0
  column : Nat := 0

namespace Cursor

def start (text : List Char) : Cursor := { rest := normalizeBreaks text }

def atEnd (c : Cursor) : Bool := c.rest.isEmpty

def peek (c : Cursor) : Char := c.rest.headD '\x00'

def ahead (n : Nat) (c : Cursor) : Char := (c.rest.drop n).headD '\x00'

def advance (c : Cursor) : Cursor :=
  match c.rest with
  | [] => c
  | x :: rest =>
    if isBreak x then ⟨rest, c.index + 1, c.line + 1, 0⟩
    else ⟨rest, c.index + 1, c.line, c.column + 1⟩

def skip : Nat → Cursor → Cursor
  | 0, c => c
  | n + 1, c => skip n c.advance

def span (p : Char → Bool) (c : Cursor) : List Char × Cursor :=
  let taken := c.rest.takeWhile p
  (taken, c.skip taken.length)

def skipWhile (p : Char → Bool) (c : Cursor) : Cursor := (c.span p).2

def endLine (c : Cursor) : Cursor :=
  if c.column = 0 then c else { c with line := c.line + 1, column := 0 }

def atLineEnd (c : Cursor) : Bool := c.atEnd || isBreak c.peek

def skipComment (c : Cursor) : Cursor :=
  let c := c.skipWhile isBlank
  if c.peek = '#' then c.skipWhile (!isBreak ·) else c

/-- A line that begins with three times `mark` and nothing else in the first word. -/
def atMark (mark : Char) (c : Cursor) : Bool :=
  c.column = 0 && c.peek = mark && c.ahead 1 = mark && c.ahead 2 = mark && endsWord (c.ahead 3)

def atDocumentMark (c : Cursor) : Bool := c.atMark '-' || c.atMark '.'

end Cursor

end Yaml

end ClusterMigration
