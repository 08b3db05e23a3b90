import ClusterMigration.Decimal.Binary64

/-!
# Decimal literals

Runs of digits and the numbers they write.
-/

namespace ClusterMigration

namespace Decimal

def isDigit (c : Char) : Bool := '0' ≤ c && c ≤ '9'

/-- The value of a digit in bases up to sixteen. -/
def digitValue? (base : Nat) (c : Char) : Option Nat :=
  let v :=
    if isDigit c then some (c.toNat - '0'.toNat)
    else if 'a' ≤ c ∧ c ≤ 'f' then some (c.toNat - 'a'.toNat + 10)
    else if 'A' ≤ c ∧ c ≤ 'F' then some (c.toNat - 'A'.toNat + 10)
    else none
  v.filter (· < base)

/-- The number a run of digits writes; the empty run writes none. -/
def natural? (base : Nat) : List Char → Option Nat
  | [] => none
  | ds => ds.foldlM (fun n c => (digitValue? base c).map (base * n + ·)) 0

/-- An optional sign and digits, both signs accepted. -/
def integer? (base : Nat) : List Char → Option Int
  | '-' :: ds => (natural? base ds).map fun n => -(n : Int)
  | '+' :: ds => (natural? base ds).map fun n => (n : Int)
  | ds => (natural? base ds).map fun n => (n : Int)

private def exponent? : List Char → Option Int
  | [] => some 0
  | c :: ds => if c = 'e' ∨ c = 'E' then integer? 10 ds else none

/-- The finite or overflowing number of a decimal literal: an optional sign, digits
with an optional point among or around them, an optional exponent. -/
def float? (text : List Char) : Option Binary64 := do
  let (negative, body) := match text with
    | '-' :: r => (true, r)
    | '+' :: r => (false, r)
    | r => (false, r)
  let whole := body.takeWhile isDigit
  let rest := body.dropWhile isDigit
  let (fraction, rest) := match rest with
    | '.' :: r => (r.takeWhile isDigit, r.dropWhile isDigit)
    | r => ([], r)
  let digits ← natural? 10 (whole ++ fraction)
  let power ← exponent? rest
  some (Binary64.ofDecimal negative digits (power - fraction.length))

end Decimal

end ClusterMigration
