import ClusterMigration.Yaml.Token

/-!
# Cutting a document into tokens

A simple key is known only by the colon after it, so every token that may begin one
is remembered until the colon comes, the line ends, or the key grows too long. Where
the block structure demands a key, its absence is an error. After an error the tokens
that were certain before still count.
-/

namespace ClusterMigration

namespace Yaml

/-- A token that may begin a simple key. -/
structure PossibleKey where
  required : Bool
  /-- The number of tokens before it. -/
  position : Nat
  index : Nat
  line : Nat
  column : Nat

namespace PossibleKey

def maxLength : Nat := 1024

/-- A key stands on one line and has a limited length. -/
def isStale (c : Cursor) (k : PossibleKey) : Bool :=
  k.line < c.line || k.index + maxLength < c.index

end PossibleKey

structure Lexer where
  cursor : Cursor
  /-- The last token first. -/
  tokens : List Token := []
  /-- The indentation of the innermost block, with the blocks around it. -/
  indent : Int := -1
  outer : List Int := []
  /-- The possible key of the innermost flow collection, or of the block. -/
  possible : Option PossibleKey := none
  /-- Those of the collections around it, none at all in a block. -/
  around : List (Option PossibleKey) := []
  keyAllowed : Bool := true

namespace Lexer

def inFlow (l : Lexer) : Bool := !l.around.isEmpty

def emit (l : Lexer) (t : Token) : Lexer := { l with tokens := t :: l.tokens }

def skip (n : Nat) (l : Lexer) : Lexer := { l with cursor := l.cursor.skip n }

/-- Puts a token where `position` tokens are before it. -/
def insert (position : Nat) (t : Token) (l : Lexer) : Lexer :=
  let after := l.tokens.length - position
  { l with tokens := l.tokens.take after ++ t :: l.tokens.drop after }

/-! ## Possible keys -/

def drop? : Option PossibleKey → Option (Option PossibleKey)
  | some k => if k.required then none else some none
  | none => some none

def dropStale? (c : Cursor) : Option PossibleKey → Option (Option PossibleKey)
  | some k => if k.isStale c then drop? (some k) else some (some k)
  | none => some none

def dropStaleKeys (l : Lexer) : Option Lexer := do
  let around ← l.around.mapM (dropStale? l.cursor)
  let possible ← dropStale? l.cursor l.possible
  some { l with around, possible }

def dropKey (l : Lexer) : Option Lexer := do
  some { l with possible := ← drop? l.possible }

def saveKey (l : Lexer) : Option Lexer :=
  if l.keyAllowed then do
    let l ← l.dropKey
    let c := l.cursor
    let required := !l.inFlow && l.indent == c.column
    some { l with possible := some ⟨required, l.tokens.length, c.index, c.line, c.column⟩ }
  else some l

/-! ## Blocks -/

/-- Opens a block at `column` unless there is one; its token goes to `position`. -/
def openBlock (column position : Nat) (t : Token) (l : Lexer) : Lexer :=
  if !l.inFlow ∧ l.indent < column then
    { l.insert position t with indent := column, outer := l.indent :: l.outer }
  else l

def closeBlocks (column : Int) (l : Lexer) : Lexer :=
  if l.inFlow then l else go l.outer l
where
  go : List Int → Lexer → Lexer
    | [], l => l
    | indent :: rest, l =>
      if column < l.indent then go rest { l.emit .blockEnd with indent, outer := rest } else l

/-! ## Tokens -/

def toNextTokenFrom : Nat → Lexer → Lexer
  | 0, l => l
  | steps + 1, l =>
    let c := l.cursor
    let c := if c.column = 0 ∧ c.peek = '\ufeff' then c.advance else c
    let tabs := l.inFlow || !l.keyAllowed
    let c := c.skipWhile fun x => x = ' ' || (tabs && x = '\t')
    let c := if c.peek = '#' then c.skipWhile (!isBreak ·) else c
    if isBreak c.peek then
      toNextTokenFrom steps
        { l with cursor := c.advance, keyAllowed := l.keyAllowed || !l.inFlow }
    else { l with cursor := c }

/-- Past blanks, comments and line breaks, and past byte order marks that begin a line. -/
def toNextToken (l : Lexer) : Lexer := toNextTokenFrom (l.cursor.rest.length + 1) l

/-- The last line ends where the text does, so that nothing on it can become a key. -/
def streamEnd (l : Lexer) : Option Lexer := do
  let l ← (l.closeBlocks (-1)).dropKey
  some { l.emit .streamEnd with cursor := l.cursor.endLine, keyAllowed := false }

def directive (l : Lexer) : Option Lexer := do
  let l ← (l.closeBlocks (-1)).dropKey
  let (t, cursor) ← Token.readDirective l.cursor
  some { l.emit t with cursor, keyAllowed := false }

def documentMark (t : Token) (l : Lexer) : Option Lexer := do
  let l ← (l.closeBlocks (-1)).dropKey
  some { (l.emit t).skip 3 with keyAllowed := false }

def openFlow (t : Token) (l : Lexer) : Option Lexer := do
  let l ← l.saveKey
  some { (l.emit t).skip 1 with
    possible := none, around := l.possible :: l.around, keyAllowed := true }

def closeFlow (t : Token) (l : Lexer) : Option Lexer := do
  let l ← l.dropKey
  let (possible, around) := match l.around with
    | k :: rest => (k, rest)
    | [] => (l.possible, [])
  some { (l.emit t).skip 1 with possible, around, keyAllowed := false }

def separator (l : Lexer) : Option Lexer := do
  let l ← l.dropKey
  some { (l.emit .separator).skip 1 with keyAllowed := true }

/-- Inside a flow collection the token is out of place, which shows later. -/
def entry (l : Lexer) : Option Lexer := do
  if !l.inFlow ∧ !l.keyAllowed then none
  else
    let l := l.openBlock l.cursor.column l.tokens.length .blockSequence
    let l ← l.dropKey
    some { (l.emit .entry).skip 1 with keyAllowed := true }

def key (l : Lexer) : Option Lexer := do
  if !l.inFlow ∧ !l.keyAllowed then none
  else
    let l := l.openBlock l.cursor.column l.tokens.length .blockMapping
    let l ← l.dropKey
    some { (l.emit .key).skip 1 with keyAllowed := !l.inFlow }

def value (l : Lexer) : Option Lexer :=
  match l.possible with
  | some k =>
    let l := (l.insert k.position .key).openBlock k.column k.position .blockMapping
    some { (l.emit .value).skip 1 with possible := none, keyAllowed := false }
  | none =>
    if !l.inFlow ∧ !l.keyAllowed then none
    else
      let l := l.openBlock l.cursor.column l.tokens.length .blockMapping
      some { (l.emit .value).skip 1 with keyAllowed := !l.inFlow }

def named (make : String → Token) (l : Lexer) : Option Lexer := do
  let l ← l.saveKey
  let (name, cursor) ← Token.readName l.cursor.advance
  some { l.emit (make name) with cursor, keyAllowed := false }

def tag (l : Lexer) : Option Lexer := do
  let l ← l.saveKey
  let (t, cursor) ← Token.readTag l.inFlow l.cursor
  some { l.emit t with cursor, keyAllowed := false }

def block (folded : Bool) (l : Lexer) : Option Lexer := do
  let l ← l.dropKey
  let (text, cursor) ← Scalar.block folded (l.indent + 1).toNat l.cursor
  let form := if folded then ScalarForm.folded else .literal
  some { l.emit (.scalar form (String.ofList text)) with cursor, keyAllowed := true }

def quoted (single : Bool) (l : Lexer) : Option Lexer := do
  let l ← l.saveKey
  let (text, cursor) ← Scalar.quoted single l.cursor
  some { l.emit (.scalar .quoted (String.ofList text)) with cursor, keyAllowed := false }

def plain (l : Lexer) : Option Lexer := do
  let l ← l.saveKey
  let (text, freshLine, cursor) ← Scalar.plain l.inFlow (l.indent + 1).toNat l.cursor
  some { l.emit (.scalar .plain (String.ofList text)) with cursor, keyAllowed := freshLine }

def token (l : Lexer) : Option Lexer :=
  let c := l.cursor
  let wordEnds := endsWord (c.ahead 1)
  if c.atEnd then l.streamEnd
  else if c.column = 0 && c.peek = '%' then l.directive
  else if c.atMark '-' then l.documentMark .documentStart
  else if c.atMark '.' then l.documentMark .documentEnd
  else match c.peek with
    | '[' => l.openFlow .openSequence
    | '\x7b' => l.openFlow .openMapping
    | ']' => l.closeFlow .closeSequence
    | '\x7d' => l.closeFlow .closeMapping
    | ',' => l.separator
    | '-' => if wordEnds then l.entry else l.plain
    | '?' => if l.inFlow || wordEnds then l.key else l.plain
    | ':' => if l.inFlow || wordEnds then l.value else l.plain
    | '*' => l.named .alias
    | '&' => l.named .anchor
    | '!' => l.tag
    | '|' => if l.inFlow then none else l.block false
    | '>' => if l.inFlow then none else l.block true
    | '\'' => l.quoted true
    | '"' => l.quoted false
    | '#' | '%' | '@' | '\x60' | '\t' => none
    | _ => l.plain

def next (l : Lexer) : Option Lexer := do
  let l ← l.toNextToken.dropStaleKeys
  (l.closeBlocks l.cursor.column).token

def mayBeginKey (position : Nat) (l : Lexer) : Bool :=
  (l.possible :: l.around).any fun k => k.any (·.position == position)

/-- The tokens up to the end of the stream or to the first error. A token counts once it
is known not to begin a key, `certain` of them so far. -/
def run : Nat → Nat → Lexer → List Token
  | 0, certain, l => l.tokens.reverse.take certain
  | steps + 1, certain, l =>
    let count := l.tokens.length
    let checked := if count ≤ certain then some l else l.dropStaleKeys
    match checked with
    | none => l.tokens.reverse.take certain
    | some l =>
      if count ≤ certain || l.mayBeginKey certain then
        match l.next with
        | none => l.tokens.reverse.take certain
        | some l => run steps certain l
      else
        match l.tokens with
        | .streamEnd :: _ => l.tokens.reverse
        | _ => run steps (certain + 1) l

end Lexer

/-- The tokens of a text. No place in it gives more than four of them. -/
def tokens (text : List Char) : List Token :=
  Lexer.run (5 * (text.length + 2)) 0 { cursor := .start text }

end Yaml

end ClusterMigration
