/-!
# Character classes of documents
-/

namespace ClusterMigration

namespace Yaml

def isBreak (c : Char) : Bool :=
  c = '\n' || c = '\r' || c = '\u0085' || c = '\u2028' || c = '\u2029'

def isBlank (c : Char) : Bool := c = ' ' || c = '\t'

def isBlankOrBreak (c : Char) : Bool := isBlank c || isBreak c

/-- Ends a word. Past the end of a text stands the null character, which no text holds. -/
def endsWord (c : Char) : Bool := c = '\x00' || isBlankOrBreak c

def isWord (c : Char) : Bool :=
  ('0' ≤ c && c ≤ '9') || ('a' ≤ c && c ≤ 'z') || ('A' ≤ c && c ≤ 'Z') || c = '_' || c = '-'

def isAllowed (c : Char) : Bool :=
  let n := c.toNat
  n = 0x09 || n = 0x0A || n = 0x0D || (0x20 ≤ n && n ≤ 0x7E) || n = 0x85 ||
    (0xA0 ≤ n && n ≤ 0xD7FF) || (0xE000 ≤ n && n ≤ 0xFFFD) || 0x10000 ≤ n

def isPrintable (c : Char) : Bool :=
  let n := c.toNat
  n = 0x0A || (0x20 ≤ n && n ≤ 0x7E) ||
    (0xA0 ≤ n && !(n = 0xFEFF) && !(n = 0xFFFE) && !(n = 0xFFFF))

end Yaml

end ClusterMigration
