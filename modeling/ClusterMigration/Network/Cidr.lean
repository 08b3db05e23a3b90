import ClusterMigration.Decimal.Literal

/-!
# Address ranges

A range is an address, a slash and the number of leading bits that its addresses share.
Of an address only the family matters here.
-/

namespace ClusterMigration

namespace Network

inductive Family where
  | v4
  | v6
  deriving DecidableEq, Repr

def Family.width : Family → Nat
  | v4 => 32
  | v6 => 128

namespace Address

/-- A number of at most `width` digits and the text after it. -/
def number (base width : Nat) (text : List Char) : Option (List Char × Nat × List Char) := do
  let isDigit (c : Char) := (Decimal.digitValue? base c).isSome
  let ds := text.takeWhile isDigit
  if width < ds.length then none
  else some (ds, ← Decimal.natural? base ds, text.dropWhile isDigit)

def octet (text : List Char) : Option (List Char) := do
  let (ds, n, rest) ← number 10 3 text
  if 255 < n ∨ (1 < ds.length ∧ ds.head? = some '0') then none else some rest

def after (separator : Char) : List Char → Option (List Char)
  | c :: rest => if c = separator then some rest else none
  | [] => none

def v4 (text : List Char) : Option (List Char) := do
  let text ← octet text
  let text ← octet (← after '.' text)
  let text ← octet (← after '.' text)
  octet (← after '.' text)

/-- As many groups of up to four digits as there are, at most `limit`, with colons between
them. The last two may be written as the octets of an address of the other family; the
middle component says whether they are. -/
def groups (first : Bool) : Nat → List Char → Nat × Bool × List Char
  | 0, text => (0, false, text)
  | limit + 1, text =>
    match if first then some text else after ':' text with
    | none => (0, false, text)
    | some body =>
      match if 0 < limit then v4 body else none with
      | some rest => (2, true, rest)
      | none =>
        match number 16 4 body with
        | some (_, _, rest) =>
          let (n, embedded, rest) := groups false limit rest
          (n + 1, embedded, rest)
        | none => (0, false, text)

/-- The text after eight groups, of which a double colon leaves out one or more that are
zero. Before it there is no room for octets. -/
def v6 (text : List Char) : Option (List Char) :=
  let (n, embedded, rest) := groups true 8 text
  if n = 8 then some rest
  else if embedded then none
  else match rest with
    | ':' :: ':' :: rest => some (groups true (7 - n) rest).2.2
    | _ => none

def family? (text : List Char) : Option Family :=
  match v4 text with
  | some rest => if rest.isEmpty then some .v4 else none
  | none =>
    match v6 text with
    | some [] => some .v6
    | _ => none

end Address

/-- A small number with an optional plus sign. -/
def prefixLength? (text : List Char) : Option Nat :=
  let digits := match text with
    | '+' :: rest => rest
    | text => text
  (Decimal.natural? 10 digits).filter (· < 256)

def isCidr (text : String) : Bool :=
  let chars := text.toList
  match chars.dropWhile (· ≠ '/') with
  | [] => false
  | _ :: length =>
    match Address.family? (chars.takeWhile (· ≠ '/')), prefixLength? length with
    | some family, some n => n ≤ family.width
    | _, _ => false

end Network

end ClusterMigration
