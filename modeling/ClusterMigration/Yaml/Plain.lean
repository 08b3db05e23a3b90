import ClusterMigration.Decimal.Literal
import ClusterMigration.Decode.Mismatch

/-!
# Plain scalars

What a scalar without quotes or tag stands for. Both the reader and the printer
go by this: a text is written plain only if it reads back as text.
-/

namespace ClusterMigration

namespace Yaml

namespace Plain

def isNull (text : String) : Bool :=
  text = "null" || text = "Null" || text = "NULL" || text = "~"

def boolean? (text : String) : Option Bool :=
  if text = "true" ∨ text = "True" ∨ text = "TRUE" then some true
  else if text = "false" ∨ text = "False" ∨ text = "FALSE" then some false
  else none

/-- Digits with a needless leading zero are text. -/
def isPaddedDigits (text : List Char) : Bool :=
  let digits := match text with
    | '-' :: r => r
    | '+' :: r => r
    | r => r
  match digits with
  | '0' :: c :: rest => (c :: rest).all Decimal.isDigit
  | _ => false

/-- Digits after a base mark: `0x`, `0o` or `0b`. -/
def based? : List Char → Option Nat
  | '0' :: 'x' :: ds => Decimal.natural? 16 ds
  | '0' :: 'o' :: ds => Decimal.natural? 8 ds
  | '0' :: 'b' :: ds => Decimal.natural? 2 ds
  | _ => none

def natural? (text : List Char) : Option Nat :=
  let body := match text with
    | '+' :: r => r
    | r => r
  match based? body with
  | some n => some n
  | none => if isPaddedDigits text then none else Decimal.natural? 10 body

/-- The size of a whole number with a minus sign. -/
def negative? : List Char → Option Nat
  | '-' :: body =>
    match based? body with
    | some n => some n
    | none => if isPaddedDigits ('-' :: body) then none else Decimal.natural? 10 body
  | _ => none

/-- Integers of up to 128 bits; those beyond 64 bits are told apart. -/
def integer? (text : List Char) : Option Found :=
  match natural? text, negative? text with
  | some n, _ =>
    if n < Nat.pow 2 64 then some (.integer n)
    else if n < Nat.pow 2 128 then some (.wide n)
    else none
  | none, some n =>
    if n ≤ Nat.pow 2 63 then some (.integer (-(n : Int)))
    else if n ≤ Nat.pow 2 127 then some (.wide (-(n : Int)))
    else none
  | none, none => none

def infinity? : List Char → Option Bool
  | '+' :: r => if isInfinity r then some false else none
  | '-' :: r => if isInfinity r then some true else none
  | r => if isInfinity r then some false else none
where
  isInfinity (r : List Char) : Bool :=
    r == ['.', 'i', 'n', 'f'] || r == ['.', 'I', 'n', 'f'] || r == ['.', 'I', 'N', 'F']

def isNan (r : List Char) : Bool :=
  r == ['.', 'n', 'a', 'n'] || r == ['.', 'N', 'a', 'N'] || r == ['.', 'N', 'A', 'N']

def float? (text : List Char) : Option Binary64 :=
  match infinity? text with
  | some negative => some (.infinite negative)
  | none => if isNan text then some .nan else (Decimal.float? text).filter Binary64.isFinite

def resolve (text : String) : Found :=
  if text.isEmpty ∨ isNull text then .nothing
  else match boolean? text with
    | some b => .boolean b
    | none =>
      let chars := text.toList
      match integer? chars with
      | some found => found
      | none =>
        if isPaddedDigits chars then .text text
        else match float? chars with
          | some x => .float x
          | none => .text text

/-- A text that needs quotes to stay a text. -/
def isAmbiguous (text : String) : Bool :=
  isPaddedDigits text.toList ||
    match resolve text with
    | .text _ => false
    | _ => true

end Plain

end Yaml

end ClusterMigration
