import ClusterMigration.Decimal.Literal
import ClusterMigration.Yaml.Cursor

/-!
# Texts of scalars

A scalar may run over several lines. Within plain and quoted scalars a gap of
blanks with one line break in it stands for a blank, and one with several breaks
for all of them but the first. Block scalars keep their lines.
-/

namespace ClusterMigration

namespace Yaml

/-- Blanks and line breaks between two words. Blanks count only on a line of their own. -/
structure Gap where
  crossed : Bool := false
  blanks : List Char := []
  breaks : List Char := []

namespace Gap

def fold : List Char → List Char
  | ['\n'] => [' ']
  | '\n' :: more => more
  | breaks => breaks

def text (g : Gap) : List Char := if g.crossed then fold g.breaks else g.blanks

/-- The rest of a gap. On a new line a tab must not stand left of `indent`. -/
def readFrom (indent : Nat) : List Char → Gap → Cursor → Option (Gap × Cursor)
  | x :: rest, g, c =>
    if isBlank x then
      if !g.crossed then readFrom indent rest { g with blanks := g.blanks ++ [x] } c.advance
      else if x = '\t' ∧ c.column < indent then none
      else readFrom indent rest g c.advance
    else if isBreak x then readFrom indent rest ⟨true, [], g.breaks ++ [x]⟩ c.advance
    else some (g, c)
  | [], g, c => some (g, c)

def read (indent : Nat) (g : Gap) (c : Cursor) : Option (Gap × Cursor) :=
  readFrom indent c.rest g c

end Gap

namespace Scalar

/-! ## Plain -/

def isFlowIndicator (c : Char) : Bool :=
  c = ',' || c = '[' || c = ']' || c = '\x7b' || c = '\x7d'

/-- A word of a plain scalar. In a flow collection a colon must not stand directly
before an indicator. -/
def plainWord (flow : Bool) : List Char → Option (List Char)
  | x :: rest =>
    let next := rest.headD '\x00'
    if isBlankOrBreak x then some []
    else if flow && x = ':' && (isFlowIndicator next || next = '?') then none
    else if (x = ':' && endsWord next) || (flow && isFlowIndicator x) then some []
    else (plainWord flow rest).map (x :: ·)
  | [] => some []

/-- Gives the text, whether the scalar ends on a fresh line, and the place after it. -/
def plainFrom (flow : Bool) (indent : Nat) :
    Nat → List Char → Gap → Cursor → Option (List Char × Bool × Cursor)
  | 0, _, _, _ => none
  | steps + 1, text, gap, c =>
    if c.atDocumentMark ∨ c.peek = '#' then some (text, gap.crossed, c)
    else do
      let word ← plainWord flow c.rest
      if word.isEmpty then some (text, gap.crossed, c)
      else
        let c := c.skip word.length
        let text := text ++ gap.text ++ word
        if !isBlankOrBreak c.peek then some (text, false, c)
        else
          let (gap, c) ← Gap.read indent {} c
          if !flow ∧ c.column < indent then some (text, gap.crossed, c)
          else plainFrom flow indent steps text gap c

def plain (flow : Bool) (indent : Nat) (c : Cursor) : Option (List Char × Bool × Cursor) :=
  plainFrom flow indent (c.rest.length + 1) [] {} c

/-! ## Quoted -/

inductive WordEnd where
  | closed
  | gap
  /-- The line break is escaped. -/
  | joined

/-- A word of a scalar in single quotes, and how many characters it takes. -/
def singleWord : List Char → Nat → List Char → List Char × Nat × WordEnd
  | '\'' :: '\'' :: rest, n, acc => singleWord rest (n + 2) ('\'' :: acc)
  | '\'' :: _, n, acc => (acc.reverse, n, .closed)
  | x :: rest, n, acc =>
    if isBlankOrBreak x then (acc.reverse, n, .gap) else singleWord rest (n + 1) (x :: acc)
  | [], n, acc => (acc.reverse, n, .gap)

def simpleEscape? : Char → Option Char
  | '0' => some '\x00'
  | 'a' => some '\x07'
  | 'b' => some '\x08'
  | 't' => some '\t'
  | '\t' => some '\t'
  | 'n' => some '\n'
  | 'v' => some '\x0b'
  | 'f' => some '\x0c'
  | 'r' => some '\r'
  | 'e' => some '\x1b'
  | ' ' => some ' '
  | '"' => some '"'
  | '/' => some '/'
  | '\\' => some '\\'
  | 'N' => some '\u0085'
  | '_' => some '\u00a0'
  | 'L' => some '\u2028'
  | 'P' => some '\u2029'
  | _ => none

def codePoint? (digits : List Char) : Option Char := do
  let n ← Decimal.natural? 16 digits
  if n.isValidChar then some (Char.ofNat n) else none

/-- A word of a scalar in double quotes, and how many characters it takes. -/
def doubleWord : List Char → Nat → List Char → Option (List Char × Nat × WordEnd)
  | '"' :: _, n, acc => some (acc.reverse, n, .closed)
  | '\\' :: 'x' :: a :: b :: rest, n, acc => do
    doubleWord rest (n + 4) ((← codePoint? [a, b]) :: acc)
  | '\\' :: 'u' :: a :: b :: c :: d :: rest, n, acc => do
    doubleWord rest (n + 6) ((← codePoint? [a, b, c, d]) :: acc)
  | '\\' :: 'U' :: a :: b :: c :: d :: e :: f :: g :: h :: rest, n, acc => do
    doubleWord rest (n + 10) ((← codePoint? [a, b, c, d, e, f, g, h]) :: acc)
  | '\\' :: x :: rest, n, acc =>
    if isBreak x then some (acc.reverse, n + 1, .joined)
    else do doubleWord rest (n + 2) ((← simpleEscape? x) :: acc)
  | x :: rest, n, acc =>
    if isBlankOrBreak x then some (acc.reverse, n, .gap) else doubleWord rest (n + 1) (x :: acc)
  | [], n, acc => some (acc.reverse, n, .gap)

def quotedFrom (single : Bool) : Nat → List Char → Cursor → Option (List Char × Cursor)
  | 0, _, _ => none
  | steps + 1, text, c =>
    if c.atDocumentMark ∨ c.atEnd then none
    else do
      let (word, length, ending) ←
        if single then some (singleWord c.rest 0 []) else doubleWord c.rest 0 []
      let c := c.skip length
      let text := text ++ word
      match ending with
      | .closed => some (text, c.advance)
      | .gap =>
        let (gap, c) ← Gap.read 0 {} c
        quotedFrom single steps (text ++ gap.text) c
      | .joined =>
        let (gap, c) ← Gap.read 0 { crossed := true } c.advance
        quotedFrom single steps (text ++ gap.breaks) c

def quoted (single : Bool) (c : Cursor) : Option (List Char × Cursor) :=
  quotedFrom single (c.rest.length + 1) [] c.advance

/-! ## Block -/

inductive Chomping where
  | strip
  | clip
  | keep

structure BlockHeader where
  chomping : Chomping
  /-- The indentation beyond that of the parent, where it is stated. -/
  increment : Option Nat

def chomping? (c : Cursor) : Option (Chomping × Cursor) :=
  if c.peek = '+' then some (.keep, c.advance)
  else if c.peek = '-' then some (.strip, c.advance)
  else none

/-- A digit; zero is refused by `none`, anything else is no increment. -/
def increment (c : Cursor) : Option (Option Nat × Cursor) :=
  if c.peek = '0' then none
  else if Decimal.isDigit c.peek then some (some (c.peek.toNat - '0'.toNat), c.advance)
  else some (none, c)

def blockHeader (c : Cursor) : Option (BlockHeader × Cursor) :=
  match chomping? c with
  | some (chomping, c) => (increment c).map fun (n, c) => (⟨chomping, n⟩, c)
  | none => do
    let (n, c) ← increment c
    match n with
    | none => some (⟨.clip, none⟩, c)
    | some _ =>
      match chomping? c with
      | some (chomping, c) => some (⟨chomping, n⟩, c)
      | none => some (⟨.clip, n⟩, c)

/-- The line breaks before the next line with text, and the widest indentation on the
way. While the indentation is not known yet all leading blanks belong to it. -/
def blockGap (indent : Option Nat) :
    List Char → Nat → List Char → Cursor → Option (List Char × Nat × Cursor)
  | x :: rest, widest, breaks, c =>
    let inside := match indent with
      | none => true
      | some n => c.column < n
    if inside && x = ' ' then blockGap indent rest widest breaks c.advance
    else if inside && x = '\t' then none
    else
      let widest := max widest c.column
      if isBreak x then blockGap indent rest widest (breaks ++ [x]) c.advance
      else some (breaks, widest, c)
  | [], widest, breaks, c => some (breaks, max widest c.column, c)

/-- The lines read so far with the breaks that are still open. -/
structure Block where
  text : List Char := []
  /-- The break at the end of the last line. -/
  lineBreak : List Char := []
  /-- The empty lines after it. -/
  breaks : List Char := []
  startsBlank : Bool := false

/-- A folded scalar joins lines, except where one of them begins with a blank. -/
def Block.join (folded : Bool) (b : Block) (startsBlank : Bool) : List Char :=
  if folded && b.lineBreak = ['\n'] && !b.startsBlank && !startsBlank then
    (if b.breaks.isEmpty then [' '] else b.breaks)
  else b.lineBreak ++ b.breaks

def blockLines (folded : Bool) (indent : Nat) : Nat → Block → Cursor → Option (Block × Cursor)
  | 0, _, _ => none
  | steps + 1, b, c =>
    if c.column = indent ∧ !c.atEnd then do
      let startsBlank := isBlank c.peek
      let join := b.join folded startsBlank
      let (line, c) := c.span (!isBreak ·)
      let lineBreak := c.rest.take 1
      let c := c.advance
      let (breaks, _, c) ← blockGap (some indent) c.rest 0 [] c
      blockLines folded indent steps ⟨b.text ++ join ++ line, lineBreak, breaks, startsBlank⟩ c
    else some (b, c)

def Block.chomp (b : Block) : Chomping → List Char
  | .strip => b.text
  | .clip => b.text ++ b.lineBreak
  | .keep => b.text ++ b.lineBreak ++ b.breaks

/-- A block scalar from its indicator on; `parent` is the least indentation it may have
left of its own. -/
def block (folded : Bool) (parent : Nat) (c : Cursor) : Option (List Char × Cursor) := do
  let (header, c) ← blockHeader c.advance
  let c := c.skipComment
  if !c.atLineEnd then none
  else
    let c := c.advance
    let stated := header.increment.map fun n => if parent = 0 then n else parent - 1 + n
    let (breaks, widest, c) ← blockGap stated c.rest 0 [] c
    let indent := stated.getD (max (max widest parent) 1)
    let (b, c) ← blockLines folded indent (c.rest.length + 1) { breaks } c
    some (b.chomp header.chomping, c)

end Scalar

end Yaml

end ClusterMigration
