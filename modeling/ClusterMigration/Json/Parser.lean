import ClusterMigration.Json.Basic
import ClusterMigration.Decimal.Literal
import ClusterMigration.Text.Utf8

/-!
# Reading JSON

The strict grammar: no comments, no trailing commas, no lone surrogates, at most
127 containers around a value. Objects keep their members as they are written.

Integers are kept exactly while they fit 64 bits. Other numbers are formed from
the leading digits that fit 64 bits and one power of ten, so the last bit may
differ from the nearest number; a number that is not finite is refused.
-/

namespace ClusterMigration

namespace Json

namespace Parser

/-- Containers that may still be entered, one more than the nesting allowed. -/
def depthLimit : Nat := 128

def greatestNatural : Nat := Nat.pow 2 64 - 1

def skipBlanks (text : List Char) : List Char :=
  text.dropWhile fun c => c = ' ' || c = '\n' || c = '\t' || c = '\r'

def expect (word : List Char) (text : List Char) : Option (List Char) :=
  if word.isPrefixOf text then some (text.drop word.length) else none

def hex4? (a b c d : Char) : Option Nat := Decimal.natural? 16 [a, b, c, d]

def simpleEscape? : Char → Option Char
  | '"' => some '"'
  | '\\' => some '\\'
  | '/' => some '/'
  | 'b' => some '\x08'
  | 'f' => some '\x0c'
  | 'n' => some '\n'
  | 'r' => some '\r'
  | 't' => some '\t'
  | _ => none

def isLeadSurrogate (n : Nat) : Bool := 0xD800 ≤ n && n ≤ 0xDBFF

def isTrailSurrogate (n : Nat) : Bool := 0xDC00 ≤ n && n ≤ 0xDFFF

def stringBody : List Char → List Char → Option (String × List Char)
  | acc, '"' :: rest => some (String.ofList acc.reverse, rest)
  | acc, '\\' :: 'u' :: a :: b :: c :: d :: rest => do
    let n ← hex4? a b c d
    if isTrailSurrogate n then none
    else if isLeadSurrogate n then
      match rest with
      | '\\' :: 'u' :: a :: b :: c :: d :: rest =>
        let m ← hex4? a b c d
        if isTrailSurrogate m then
          stringBody (Char.ofNat (0x10000 + (n - 0xD800) * 1024 + (m - 0xDC00)) :: acc) rest
        else none
      | _ => none
    else stringBody (Char.ofNat n :: acc) rest
  | acc, '\\' :: c :: rest => do stringBody ((← simpleEscape? c) :: acc) rest
  | acc, c :: rest => if c.toNat < 32 then none else stringBody (c :: acc) rest
  | _, [] => none

/-- `significand * 10 ^ power`, in one multiplication or division where a power of
ten of the range suffices. Overflow is refused. -/
def scaled (negative : Bool) (significand : Nat) (power : Int) : Option Json :=
  let signed (x : Binary64) := some (float (if negative then x.neg else x))
  let f := Binary64.ofNat significand
  let ten (n : Nat) := Binary64.ofDecimal false 1 n
  if significand = 0 then signed f
  else if 308 < power then none
  else if 0 ≤ power then
    let product := f.mul (ten power.toNat)
    if product.isFinite then signed product else none
  else
    let rec divide : Nat → Binary64 → Nat → Binary64
      | 0, f, n => f.div (ten n)
      | steps + 1, f, n =>
        if n ≤ 308 ∨ f.isZero then (if f.isZero then f else f.div (ten n))
        else divide steps (f.div (ten 308)) (n - 308)
    signed (divide 4 f (-power).toNat)

/-- Digits are taken while the number they form fits 64 bits; gives it, the number
of digits taken, and the digits left over. -/
def takeSignificand : Nat → Nat → List Char → Nat × Nat × List Char
  | n, taken, c :: rest =>
    let next := 10 * n + (c.toNat - '0'.toNat)
    if next ≤ greatestNatural then takeSignificand next (taken + 1) rest
    else (n, taken, c :: rest)
  | n, taken, [] => (n, taken, [])

def exponentSign : List Char → Bool × List Char
  | '+' :: rest => (false, rest)
  | '-' :: rest => (true, rest)
  | rest => (false, rest)

def exponentPart (negative : Bool) (significand : Nat) (power : Int) (text : List Char) :
    Option (Json × List Char) :=
  let (below, text) := exponentSign text
  let digits := text.takeWhile Decimal.isDigit
  let rest := text.dropWhile Decimal.isDigit
  match Decimal.natural? 10 digits with
  | none => none
  | some n =>
    if n < Nat.pow 2 31 then
      (scaled negative significand (if below then power - n else power + n)).map (·, rest)
    else if significand ≠ 0 ∧ !below then none
    else some (float (Binary64.zero negative), rest)

def afterDigits (negative : Bool) (significand : Nat) (power : Int) (text : List Char) :
    Option (Json × List Char) :=
  match text with
  | c :: rest =>
    if c = 'e' ∨ c = 'E' then exponentPart negative significand power rest
    else (scaled negative significand power).map (·, text)
  | [] => (scaled negative significand power).map (·, text)

/-- Digits after the point. Digits beyond the significand are dropped. -/
def fractionPart (negative : Bool) (significand : Nat) (power : Int) (text : List Char) :
    Option (Json × List Char) :=
  let digits := text.takeWhile Decimal.isDigit
  let (n, taken, _) := takeSignificand significand 0 digits
  if digits.isEmpty then none
  else afterDigits negative n (power - taken) (text.dropWhile Decimal.isDigit)

def number (negative : Bool) (text : List Char) : Option (Json × List Char) :=
  let digits := text.takeWhile Decimal.isDigit
  let rest := text.dropWhile Decimal.isDigit
  match digits with
  | [] => none
  | '0' :: _ :: _ => none
  | _ =>
    let (n, _, left) := takeSignificand 0 0 digits
    let power : Int := left.length
    match rest with
    | '.' :: more => fractionPart negative n power more
    | _ =>
      let isWhole := left.isEmpty && !(rest.head? == some 'e') && !(rest.head? == some 'E')
      if isWhole ∧ negative = false then some (integer n, rest)
      else if isWhole ∧ 0 < n ∧ n ≤ Nat.pow 2 63 then some (integer (-(n : Int)), rest)
      else afterDigits negative n power rest

mutual

/-- A value and the text after it. The first number bounds the nesting, the second
the number of steps. -/
def value (depth : Nat) : Nat → List Char → Option (Json × List Char)
  | 0, _ => none
  | steps + 1, text =>
    match skipBlanks text with
    | '"' :: rest => (stringBody [] rest).map fun (s, rest) => (string s, rest)
    | '[' :: rest =>
      if depth ≤ 1 then none
      else match skipBlanks rest with
        | ']' :: rest => some (array [], rest)
        | rest => (items (depth - 1) steps [] rest).map fun (vs, rest) => (array vs, rest)
    | '\x7b' :: rest =>
      if depth ≤ 1 then none
      else match skipBlanks rest with
        | '\x7d' :: rest => some (object [], rest)
        | rest => (members (depth - 1) steps [] rest).map fun (ms, rest) => (object ms, rest)
    | '-' :: rest => number true rest
    | 't' :: rest => (expect ['r', 'u', 'e'] rest).map (bool true, ·)
    | 'f' :: rest => (expect ['a', 'l', 's', 'e'] rest).map (bool false, ·)
    | 'n' :: rest => (expect ['u', 'l', 'l'] rest).map (null, ·)
    | text => number false text

def items (depth : Nat) : Nat → List Json → List Char → Option (List Json × List Char)
  | 0, _, _ => none
  | steps + 1, acc, text => do
    let (v, rest) ← value depth steps text
    match skipBlanks rest with
    | ',' :: rest => items depth steps (v :: acc) rest
    | ']' :: rest => some ((v :: acc).reverse, rest)
    | _ => none

def members (depth : Nat) :
    Nat → List (String × Json) → List Char → Option (List (String × Json) × List Char)
  | 0, _, _ => none
  | steps + 1, acc, text =>
    match skipBlanks text with
    | '"' :: rest => do
      let (key, rest) ← stringBody [] rest
      match skipBlanks rest with
      | ':' :: rest =>
        let (v, rest) ← value depth steps rest
        match skipBlanks rest with
        | ',' :: rest => members depth steps ((key, v) :: acc) rest
        | '\x7d' :: rest => some (((key, v) :: acc).reverse, rest)
        | _ => none
      | _ => none
    | _ => none

end

end Parser

/-- The value a text begins with, as written, and whether nothing but blanks follows. -/
def readFirst? (text : String) : Option (Json × Bool) :=
  let chars := text.toList
  (Parser.value Parser.depthLimit (2 * chars.length + 2) chars).map fun (v, rest) =>
    (v, (Parser.skipBlanks rest).isEmpty)

def parse? (text : String) : Option Json :=
  match readFirst? text with
  | some (v, true) => some v.canonical
  | _ => none

def parseBytes? (bytes : Bytes) : Option Json :=
  (Utf8.decode? bytes).bind parse?

end Json

end ClusterMigration
