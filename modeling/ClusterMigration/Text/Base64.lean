import ClusterMigration.Text.Utf8

/-!
# Base64

The standard alphabet with padding. Three bytes make four digits; a last group
of one or two bytes makes two or three digits and is filled up with `=`. The
reader accepts exactly what the writer produces.
-/

namespace ClusterMigration

namespace Base64

def pad : Char := '='

def digit (value : Nat) : Char :=
  if value < 26 then Char.ofNat ('A'.toNat + value)
  else if value < 52 then Char.ofNat ('a'.toNat + (value - 26))
  else if value < 62 then Char.ofNat ('0'.toNat + (value - 52))
  else if value = 62 then '+'
  else '/'

def value? (c : Char) : Option Nat :=
  if 'A' ≤ c ∧ c ≤ 'Z' then some (c.toNat - 'A'.toNat)
  else if 'a' ≤ c ∧ c ≤ 'z' then some (c.toNat - 'a'.toNat + 26)
  else if '0' ≤ c ∧ c ≤ '9' then some (c.toNat - '0'.toNat + 52)
  else if c = '+' then some 62
  else if c = '/' then some 63
  else none

def encodeChars : Bytes → List Char
  | [] => []
  | [a] =>
    let n := a.toNat * 16
    [digit (n / 64), digit (n % 64), pad, pad]
  | [a, b] =>
    let n := (a.toNat * 256 + b.toNat) * 4
    [digit (n / 4096), digit (n / 64 % 64), digit (n % 64), pad]
  | a :: b :: c :: rest =>
    let n := (a.toNat * 256 + b.toNat) * 256 + c.toNat
    digit (n / 262144) :: digit (n / 4096 % 64) :: digit (n / 64 % 64) :: digit (n % 64)
      :: encodeChars rest

def encode (bytes : Bytes) : String :=
  String.ofList (encodeChars bytes)

/-- Refuses a group whose unused bits are not zero. -/
def decodeChars : List Char → Option Bytes
  | [] => some []
  | [p, q, r, s] =>
    if s = pad then
      if r = pad then do
        let n := (← value? p) * 64 + (← value? q)
        if n % 16 = 0 then some [UInt8.ofNat (n / 16)] else none
      else do
        let n := ((← value? p) * 64 + (← value? q)) * 64 + (← value? r)
        if n % 4 = 0 then some [UInt8.ofNat (n / 1024), UInt8.ofNat (n / 4 % 256)] else none
    else do
      let n := (((← value? p) * 64 + (← value? q)) * 64 + (← value? r)) * 64 + (← value? s)
      some [UInt8.ofNat (n / 65536), UInt8.ofNat (n / 256 % 256), UInt8.ofNat (n % 256)]
  | p :: q :: r :: s :: rest => do
    let n := (((← value? p) * 64 + (← value? q)) * 64 + (← value? r)) * 64 + (← value? s)
    let bytes ← decodeChars rest
    some (UInt8.ofNat (n / 65536) :: UInt8.ofNat (n / 256 % 256) :: UInt8.ofNat (n % 256)
      :: bytes)
  | _ => none

def decode? (text : String) : Option Bytes :=
  decodeChars text.toList

end Base64

end ClusterMigration
