import ClusterMigration.Text.Utf8
import ClusterMigration.Yaml.Scalar

/-!
# Tokens

The pieces of a document in order. Indentation shows as block tokens, and a simple
key gets its key token although only the colon after it gives it away.
-/

namespace ClusterMigration

namespace Yaml

inductive ScalarForm where
  | plain
  | quoted
  | literal
  | folded
  deriving DecidableEq, Repr

inductive Token where
  | version (major minor : Nat)
  | tagLead (handle lead : String)
  | documentStart
  | documentEnd
  | blockSequence
  | blockMapping
  | blockEnd
  | openSequence
  | closeSequence
  | openMapping
  | closeMapping
  | entry
  | separator
  | key
  | value
  | alias (name : String)
  | anchor (name : String)
  /-- An empty handle means that the rest is the whole tag. -/
  | tag (handle rest : String)
  | scalar (form : ScalarForm) (text : String)
  | streamEnd
  deriving DecidableEq, Repr

/-! ## Tags, anchors and directives -/

namespace Token

/-- An anchor or an alias after its indicator. -/
def readName (c : Cursor) : Option (String × Cursor) :=
  let (name, c) := c.span isWord
  let next := c.peek
  if name.isEmpty then none
  else if endsWord next || ['?', ':', ',', ']', '\x7d', '%', '@', '\x60'].contains next then
    some (String.ofList name, c)
  else none

/-- Characters of tags; inside angle brackets there are a few more. -/
def isTagChar (bracketed : Bool) (c : Char) : Bool :=
  isWord c || [';', '/', '?', ':', '@', '&', '=', '+', '$', '.', '%', '!', '~', '*', '\'', '(',
    ')'].contains c || (bracketed && [',', '[', ']'].contains c)

/-- Percent signs stand for bytes in hexadecimal. -/
def unescape : List Char → Option Bytes
  | '%' :: a :: b :: rest => do
    let n ← Decimal.natural? 16 [a, b]
    return UInt8.ofNat n :: (← unescape rest)
  | '%' :: _ => none
  | c :: rest => return Utf8.encode c.toString ++ (← unescape rest)
  | [] => some []

def readTagText (bracketed : Bool) (c : Cursor) : Option (List Char × Cursor) := do
  let (text, c) := c.span (isTagChar bracketed)
  let bytes ← unescape text
  some (← Utf8.chars? bytes, c)

/-- An exclamation mark and the word after it, closed by another mark or not. -/
def readHandle (c : Cursor) : Option (List Char × Bool × Cursor) :=
  if c.peek = '!' then
    let (word, c) := c.advance.span isWord
    if c.peek = '!' then some ('!' :: word ++ ['!'], true, c.advance)
    else some ('!' :: word, false, c)
  else none

def readTag (flow : Bool) (c : Cursor) : Option (Token × Cursor) := do
  let (token, c) ←
    if c.ahead 1 = '<' then do
      let (text, c) ← readTagText true (c.skip 2)
      if text.isEmpty ∨ c.peek ≠ '>' then none
      else some (Token.tag "" (String.ofList text), c.advance)
    else do
      let (handle, closed, c) ← readHandle c
      if closed then do
        let (text, c) ← readTagText false c
        if text.isEmpty then none
        else some (Token.tag (String.ofList handle) (String.ofList text), c)
      else do
        let (text, c) ← readTagText false c
        let rest := handle.drop 1 ++ text
        if rest.isEmpty then some (Token.tag "" "!", c)
        else some (Token.tag "!" (String.ofList rest), c)
  if endsWord c.peek ∨ (flow ∧ c.peek = ',') then some (token, c) else none

def readNumber (c : Cursor) : Option (Nat × Cursor) := do
  let (digits, c) := c.span Decimal.isDigit
  if 9 < digits.length then none
  else some (← Decimal.natural? 10 digits, c)

def readDirective (c : Cursor) : Option (Token × Cursor) := do
  let (name, c) := c.advance.span isWord
  if !endsWord c.peek then none
  else
    let c := c.skipWhile isBlank
    let (token, c) ←
      if name = ['Y', 'A', 'M', 'L'] then do
        let (major, c) ← readNumber c
        if c.peek ≠ '.' then none
        else do
          let (minor, c) ← readNumber c.advance
          some (Token.version major minor, c)
      else if name = ['T', 'A', 'G'] then do
        let (handle, closed, c) ← readHandle c
        if !(closed || handle.length = 1) || !isBlank c.peek then none
        else do
          let (lead, c) ← readTagText true (c.skipWhile isBlank)
          if lead.isEmpty ∨ !endsWord c.peek then none
          else some (Token.tagLead (String.ofList handle) (String.ofList lead), c)
      else none
    let c := c.skipComment
    if c.atLineEnd then some (token, c.advance) else none

end Token

end Yaml

end ClusterMigration
