/-!
# Floating point numbers of 64 bits

A finite number is `± mantissa * 2 ^ exponent`. All arithmetic is on natural
numbers: the exact quotient is formed first and then rounded once, to nearest
with ties to an even mantissa.
-/

namespace ClusterMigration

inductive Binary64 where
  | finite (negative : Bool) (mantissa : Nat) (exponent : Int)
  | infinite (negative : Bool)
  | nan
  deriving DecidableEq, Repr

namespace Binary64

def leastExponent : Int := -1074

def greatestExponent : Int := 971

def zero (negative : Bool) : Binary64 :=
  .finite negative 0 leastExponent

def isFinite : Binary64 → Bool
  | finite .. => true
  | _ => false

def isZero : Binary64 → Bool
  | finite _ m _ => m == 0
  | _ => false

/-- `base ^ e` as a factor of a numerator, 1 for a negative exponent. -/
private def upper (base : Nat) (e : Int) : Nat := base.pow e.toNat

/-- `base ^ (-e)` as a factor of a denominator, 1 for a positive exponent. -/
private def lower (base : Nat) (e : Int) : Nat := base.pow (-e).toNat

/-- The quotient rounded to the nearest whole number, a tie to the even one. -/
def roundDiv (n d : Nat) : Nat :=
  let q := n / d
  let r := n % d
  if d < 2 * r ∨ (d = 2 * r ∧ q % 2 = 1) then q + 1 else q

def ofRatio (negative : Bool) (n d : Nat) : Binary64 :=
  if n = 0 then zero negative
  else
    let guess : Int := (n.log2 : Int) - (d.log2 : Int) - 53
    let wide := n * lower 2 guess / (d * upper 2 guess)
    let e := max leastExponent (if Nat.pow 2 53 ≤ wide then guess + 1 else guess)
    let m := roundDiv (n * lower 2 e) (d * upper 2 e)
    let (m, e) := if m = Nat.pow 2 53 then (Nat.pow 2 52, e + 1) else (m, e)
    if greatestExponent < e then .infinite negative else .finite negative m e

/-- The number nearest to `digits * 10 ^ power`. Powers far beyond the range are
answered without forming them. -/
def ofDecimal (negative : Bool) (digits : Nat) (power : Int) : Binary64 :=
  let size := (Nat.toDigits 10 digits).length
  if digits = 0 ∨ size + power < -330 then zero negative
  else if 330 < size + power then .infinite negative
  else ofRatio negative (digits * upper 10 power) (lower 10 power)

def ofNat (n : Nat) : Binary64 := ofRatio false n 1

def neg : Binary64 → Binary64
  | finite s m e => .finite (!s) m e
  | infinite s => .infinite (!s)
  | nan => .nan

/-- Product of two positive finite numbers, rounded once. -/
def mul : Binary64 → Binary64 → Binary64
  | finite s m e, finite t n f =>
    ofRatio (s != t) (m * n * upper 2 (e + f)) (lower 2 (e + f))
  | _, _ => nan

/-- Quotient by a finite number that is not zero, rounded once. -/
def div : Binary64 → Binary64 → Binary64
  | finite s m e, finite t n f =>
    ofRatio (s != t) (m * upper 2 (e - f)) (n * lower 2 (e - f))
  | _, _ => nan

/-- The power of ten above a positive number: the least `p` with value below `10 ^ p`. -/
private def magnitude (m : Nat) (e : Int) : Int :=
  let atLeast (q : Int) : Bool :=
    upper 10 q * lower 2 e ≤ m * upper 2 e * lower 10 q
  let q := ((m.log2 + e) * 30103).fdiv 100000
  if atLeast q then (if atLeast (q + 1) then q + 2 else q + 1) else q

private def stripZeros : Nat → Nat × Int → Nat × Int
  | 0, d => d
  | fuel + 1, (n, p) =>
    if n ≠ 0 ∧ n % 10 = 0 then stripZeros fuel (n / 10, p + 1) else (n, p)

/-- The decimal of `size` digits nearest to the number, if it reads back as it. -/
private def onGrid (m : Nat) (e : Int) (top : Int) (size : Nat) : Option (Nat × Int) :=
  let p := top - size
  let quarter := e - 2
  let unit := upper 10 p * lower 2 quarter
  let scale := upper 2 quarter * lower 10 p
  let value := 4 * m * scale
  let least := (if m = Nat.pow 2 52 ∧ leastExponent < e then 4 * m - 1 else 4 * m - 2) * scale
  let greatest := (4 * m + 2) * scale
  let inside (c : Nat) : Bool :=
    if m % 2 = 0 then least ≤ c * unit && c * unit ≤ greatest
    else least < c * unit && c * unit < greatest
  let below := value / unit
  let above := below + 1
  match inside below, inside above with
  | true, true =>
    let first := value - below * unit
    let second := above * unit - value
    some (if first < second ∨ (first = second ∧ below % 2 = 0) then below else above, p)
  | true, false => some (below, p)
  | false, true => some (above, p)
  | false, false => none

/-- The fewest digits that read back as the number, the nearest of them, with
their power of ten. -/
def shortest (m : Nat) (e : Int) : Nat × Int :=
  if m = 0 then (0, 0)
  else
    let top := magnitude m e
    let found := ((List.range 17).findSome? fun i => onGrid m e top (i + 1)).getD (m, e)
    stripZeros 20 found

def zeros (n : Nat) : List Char := List.replicate n '0'

def positional (digits : Nat) (power : Int) : List Char :=
  let ds := Nat.toDigits 10 digits
  if 0 ≤ power then ds ++ zeros power.toNat ++ ['.', '0']
  else
    let point : Int := ds.length + power
    if 0 < point then ds.take point.toNat ++ ['.'] ++ ds.drop point.toNat
    else ['0', '.'] ++ zeros (-point).toNat ++ ds

/-- One digit before the point, a sign and at least two digits in the exponent. -/
def scientific (digits : Nat) (power : Int) : List Char :=
  let ds := Nat.toDigits 10 digits
  let exponent : Int := ds.length - 1 + power
  let shown := Nat.toDigits 10 exponent.natAbs
  let fraction := if ds.length = 1 then [] else '.' :: ds.drop 1
  ds.take 1 ++ fraction ++ ['e', if exponent < 0 then '-' else '+'] ++
    (if shown.length < 2 then '0' :: shown else shown)

def signed (negative : Bool) (body : List Char) : String :=
  String.ofList (if negative then '-' :: body else body)

def toPlain : Binary64 → String
  | finite s m e => let (d, p) := shortest m e; signed s (positional d p)
  | infinite s => signed s ['i', 'n', 'f']
  | nan => "NaN"

/-- Positional notation from `10 ^ -5` up to below `10 ^ 16`, scientific beyond. -/
def toCompact : Binary64 → String
  | finite s m e =>
    let (d, p) := shortest m e
    let exponent : Int := (Nat.toDigits 10 d).length - 1 + p
    signed s (if -5 ≤ exponent ∧ exponent ≤ 15 then positional d p else scientific d p)
  | infinite s => signed s ['i', 'n', 'f']
  | nan => "NaN"

end Binary64

end ClusterMigration
