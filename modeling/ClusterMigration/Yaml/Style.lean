import ClusterMigration.Yaml.Character
import ClusterMigration.Yaml.Plain

/-!
# Scalar styles

How a text is written: plain where it reads back as the same text, in single
quotes where the characters allow it, as a literal block where it has line feeds,
and in double quotes where nothing else can hold it.
-/

namespace ClusterMigration

namespace Yaml

inductive Style where
  | plain
  | single
  | double
  | literal
  deriving DecidableEq, Repr

namespace Style

/-- Some character that satisfies `p` directly before one that satisfies `q`. -/
def adjacent (p q : Char → Bool) : List Char → Bool
  | a :: b :: rest => (p a && q b) || adjacent p q (b :: rest)
  | _ => false

def isSpace (c : Char) : Bool := c = ' '

/-- The first character would begin something other than a plain scalar. -/
def startsIndicator : List Char → Bool
  | '-' :: '-' :: '-' :: _ => true
  | '.' :: '.' :: '.' :: _ => true
  | c :: rest =>
    [',', '[', ']', '\x7b', '\x7d', '#', '&', '*', '!', '|', '>', '\'', '"', '%', '@',
        '\x60'].contains c
      || ((c = '?' || c = ':' || c = '-') && endsWord (rest.headD '\x00'))
  | [] => false

/-- A colon before a blank or the end, or a hash after a blank, would end the scalar. -/
def holdsIndicator (text : List Char) : Bool :=
  adjacent (· == ':') endsWord text
    || text.getLast? == some ':'
    || adjacent endsWord (· == '#') text

def hasUnprintable (text : List Char) : Bool := text.any (!isPrintable ·)

def isMultiline (text : List Char) : Bool := text.any isBreak

def startsBlank (text : List Char) : Bool :=
  match text.head? with
  | some c => isSpace c || isBreak c
  | none => false

def endsSpace (text : List Char) : Bool :=
  match text.getLast? with
  | some c => isSpace c
  | none => false

def endsBreak (text : List Char) : Bool :=
  match text.getLast? with
  | some c => isBreak c
  | none => false

def allowsPlain (text : List Char) : Bool :=
  !(startsBlank text) && !(endsSpace text) && !(endsBreak text) && !(isMultiline text)
    && !(hasUnprintable text) && !(startsIndicator text) && !(holdsIndicator text)

def allowsSingle (text : List Char) : Bool :=
  !(adjacent isBreak isSpace text) && !(adjacent isSpace isBreak text) && !(hasUnprintable text)

def allowsLiteral (text : List Char) : Bool :=
  !(endsSpace text) && !(adjacent isSpace isBreak text) && !(hasUnprintable text)

def quoted (text : List Char) : Style :=
  if allowsSingle text then .single else .double

def of (text : String) : Style :=
  let chars := text.toList
  if chars.contains '\n' then
    if allowsLiteral chars then .literal else .double
  else if Plain.isAmbiguous text then quoted chars
  else if allowsPlain chars then .plain
  else quoted chars

end Style

end Yaml

end ClusterMigration
