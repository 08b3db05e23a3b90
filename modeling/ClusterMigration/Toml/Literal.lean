import ClusterMigration.Decimal.Literal
import ClusterMigration.Toml.Value

/-!
# TOML literals

Keys, strings, numbers, dates and times. A reader gives what it read and the text
after it.
-/

namespace ClusterMigration

namespace Toml

abbrev Reader (α : Type) := List Char → Option (α × List Char)

namespace Literal

open Decimal (isDigit)

def isBlank (c : Char) : Bool := c = ' ' || c = '\t'

def skipBlanks (text : List Char) : List Char := text.dropWhile isBlank

/-- Characters that may stand in comments and, delimiters apart, in strings. -/
def isText (c : Char) : Bool := c = '\t' || (' ' ≤ c && c ≤ '~') || 0x80 ≤ c.toNat

def newline? : List Char → Option (List Char)
  | '\n' :: rest => some rest
  | '\r' :: '\n' :: rest => some rest
  | _ => none

def expect (word text : List Char) : Option (List Char) :=
  if word.isPrefixOf text then some (text.drop word.length) else none

/-! ## Strings -/

def simpleEscape? : Char → Option Char
  | 'b' => some '\x08'
  | 'f' => some '\x0c'
  | 'n' => some '\n'
  | 'r' => some '\r'
  | 't' => some '\t'
  | '"' => some '"'
  | '\\' => some '\\'
  | _ => none

def codePoint? (digits : List Char) : Option Char := do
  let n ← Decimal.natural? 16 digits
  if n.isValidChar then some (Char.ofNat n) else none

def escape : Reader Char
  | 'u' :: a :: b :: c :: d :: rest => (codePoint? [a, b, c, d]).map (·, rest)
  | 'U' :: a :: b :: c :: d :: e :: f :: g :: h :: rest =>
    (codePoint? [a, b, c, d, e, f, g, h]).map (·, rest)
  | x :: rest => (simpleEscape? x).map (·, rest)
  | [] => none

def basicFrom : Nat → List Char → Reader String
  | 0, _, _ => none
  | steps + 1, acc, text =>
    match text with
    | '"' :: rest => some (String.ofList acc.reverse, rest)
    | '\\' :: rest => do
      let (c, rest) ← escape rest
      basicFrom steps (c :: acc) rest
    | c :: rest => if isText c then basicFrom steps (c :: acc) rest else none
    | [] => none

def literalFrom : List Char → Reader String
  | _, [] => none
  | acc, c :: rest =>
    if c = '\'' then some (String.ofList acc.reverse, rest)
    else if isText c then literalFrom (c :: acc) rest
    else none

/-- The rest of a string of several lines. Up to two quotes in a row belong to it, also
right before the three that close it. -/
def multilineFrom (quote : Char) (escapes : Bool) : Nat → List Char → Reader String
  | 0, _, _ => none
  | steps + 1, acc, text =>
    let quotes := (text.takeWhile (· == quote)).length
    if 3 ≤ quotes then
      let own := min (quotes - 3) 2
      some (String.ofList (acc.reverse ++ List.replicate own quote), text.drop (own + 3))
    else if 0 < quotes then
      multilineFrom quote escapes steps (List.replicate quotes quote ++ acc) (text.drop quotes)
    else match newline? text with
      | some rest => multilineFrom quote escapes steps ('\n' :: acc) rest
      | none =>
        match text with
        | [] => none
        | c :: rest =>
          if escapes && c = '\\' then
            match newline? (skipBlanks rest) with
            | some rest =>
              multilineFrom quote escapes steps acc (skipBreaks rest.length rest)
            | none => do
              let (c, rest) ← escape rest
              multilineFrom quote escapes steps (c :: acc) rest
          else if isText c then multilineFrom quote escapes steps (c :: acc) rest
          else none
where
  /-- Past blanks and line breaks. -/
  skipBreaks : Nat → List Char → List Char
    | 0, text => text
    | steps + 1, text =>
      let text := skipBlanks text
      match newline? text with
      | some rest => skipBreaks steps rest
      | none => text

def multiline (quote : Char) (escapes : Bool) (text : List Char) : Option (String × List Char) :=
  let text := (newline? text).getD text
  multilineFrom quote escapes (text.length + 1) [] text

/-- A string on one line. -/
def lineString : Reader String
  | '"' :: rest => basicFrom (rest.length + 1) [] rest
  | '\'' :: rest => literalFrom [] rest
  | _ => none

def string : Reader String
  | '"' :: '"' :: '"' :: rest => multiline '"' true rest
  | '\'' :: '\'' :: '\'' :: rest => multiline '\'' false rest
  | text => lineString text

/-! ## Keys -/

def isKeyChar (c : Char) : Bool :=
  ('a' ≤ c && c ≤ 'z') || ('A' ≤ c && c ≤ 'Z') || isDigit c || c = '-' || c = '_'

def simpleKey (text : List Char) : Option (String × List Char) :=
  match text with
  | '"' :: _ | '\'' :: _ => lineString text
  | _ =>
    let name := text.takeWhile isKeyChar
    if name.isEmpty then none else some (String.ofList name, text.dropWhile isKeyChar)

/-- Containers, or parts of a key, below which nothing is read. -/
def nestingLimit : Nat := 80

def keyParts : Nat → Reader (List String)
  | 0, _ => none
  | parts + 1, text => do
    let (name, rest) ← simpleKey (skipBlanks text)
    match skipBlanks rest with
    | '.' :: rest => do
      let (names, rest) ← keyParts parts rest
      some (name :: names, rest)
    | rest => some ([name], rest)

/-- A key with its dots, as the names before the last and the last. -/
def key (text : List Char) : Option ((List String × String) × List Char) := do
  let (names, rest) ← keyParts (nestingLimit - 1) text
  some ((names.dropLast, ← names.getLast?), rest)

/-! ## Numbers -/

/-- Digits, with single underscores between them, which are left out. -/
def digits (isDigit : Char → Bool) : List Char → Option (List Char × List Char)
  | '_' :: _ => none
  | text => go text
where
  go : List Char → Option (List Char × List Char)
    | '_' :: c :: rest =>
      if isDigit c then (go rest).map fun (ds, rest) => (c :: ds, rest) else none
    | '_' :: [] => none
    | c :: rest =>
      if isDigit c then (go rest).map fun (ds, rest) => (c :: ds, rest) else some ([], c :: rest)
    | [] => some ([], [])

def digits1 (isDigit : Char → Bool) (text : List Char) : Option (List Char × List Char) :=
  (digits isDigit text).filter fun (ds, _) => !ds.isEmpty

def sign : List Char → List Char × List Char
  | '-' :: rest => (['-'], rest)
  | '+' :: rest => (['+'], rest)
  | rest => ([], rest)

/-- A whole number in tens: no digit follows a leading zero. -/
def whole (text : List Char) : Option (List Char × List Char) :=
  match text with
  | '0' :: rest => some (['0'], rest)
  | _ => digits1 isDigit text

def exponent (text : List Char) : Option (List Char × List Char) :=
  match text with
  | c :: rest =>
    if c = 'e' ∨ c = 'E' then do
      let (sign, rest) := sign rest
      let (ds, rest) ← digits1 isDigit rest
      some ('e' :: sign ++ ds, rest)
    else some ([], text)
  | [] => some ([], [])

/-- Too large a number is refused, unless it is negative. -/
def finish (text : List Char) : Option Value := do
  let x ← Decimal.float? text
  if x = .infinite false then none else some (.float x)

def inRange (i : Int) : Option Value :=
  if -(Nat.pow 2 63 : Int) ≤ i ∧ i < (Nat.pow 2 63 : Int) then some (.integer i) else none

def isBaseDigit (base : Nat) (c : Char) : Bool := (Decimal.digitValue? base c).isSome

def based (base : Nat) (text : List Char) : Option (Value × List Char) := do
  let (ds, rest) ← digits1 (isBaseDigit base) text
  some (← inRange (← Decimal.natural? base ds), rest)

def special (sign text : List Char) : Option (Value × List Char) :=
  match expect ['i', 'n', 'f'] text with
  | some rest => some (.float (.infinite (sign == ['-'])), rest)
  | none => (expect ['n', 'a', 'n'] text).map (.float .nan, ·)

def decimal (text : List Char) : Option (Value × List Char) :=
  let (sign, body) := sign text
  match whole body with
  | none => special sign body
  | some (ds, rest) =>
    match rest with
    | '.' :: more => do
      let (fraction, rest) ← digits1 isDigit more
      let (power, rest) ← exponent rest
      some (← finish (sign ++ ds ++ '.' :: fraction ++ power), rest)
    | _ => do
      let (power, rest) ← exponent rest
      if power.isEmpty then some (← inRange (← Decimal.integer? 10 (sign ++ ds)), rest)
      else some (← finish (sign ++ ds ++ power), rest)

def number (text : List Char) : Option (Value × List Char) :=
  match text with
  | '0' :: 'x' :: rest => based 16 rest
  | '0' :: 'o' :: rest => based 8 rest
  | '0' :: 'b' :: rest => based 2 rest
  | _ => decimal text

/-! ## Dates and times -/

def fixed (count : Nat) (text : List Char) : Option (Nat × List Char) :=
  let ds := text.take count
  if ds.length = count ∧ ds.all isDigit then
    (Decimal.natural? 10 ds).map (·, text.drop count)
  else none

def isLeap (year : Nat) : Bool := year % 4 = 0 && (year % 100 ≠ 0 || year % 400 = 0)

def daysIn (year month : Nat) : Nat :=
  if month = 2 then (if isLeap year then 29 else 28)
  else if month = 4 ∨ month = 6 ∨ month = 9 ∨ month = 11 then 30
  else 31

def date (text : List Char) : Option (List Char) := do
  let (year, text) ← fixed 4 text
  let text ← expect ['-'] text
  let (month, text) ← fixed 2 text
  let text ← expect ['-'] text
  let (day, text) ← fixed 2 text
  if 1 ≤ month ∧ month ≤ 12 ∧ 1 ≤ day ∧ day ≤ daysIn year month then some text else none

/-- The text after a time of day; a leap second is one. -/
def time (text : List Char) : Option (List Char) := do
  let (hour, text) ← fixed 2 text
  let text ← expect [':'] text
  let (minute, text) ← fixed 2 text
  let text ← expect [':'] text
  let (second, text) ← fixed 2 text
  if 23 < hour ∨ 59 < minute ∨ 60 < second then none
  else match text with
    | '.' :: more =>
      let fraction := more.takeWhile isDigit
      if fraction.isEmpty then none else some (more.dropWhile isDigit)
    | _ => some text

def offset (text : List Char) : Option (List Char) :=
  match text with
  | 'Z' :: rest | 'z' :: rest => some rest
  | c :: rest =>
    if c = '+' ∨ c = '-' then do
      let (hour, rest) ← fixed 2 rest
      let rest ← expect [':'] rest
      let (minute, rest) ← fixed 2 rest
      if hour ≤ 23 ∧ minute ≤ 59 then some rest else none
    else some text
  | [] => some []

def startsTime (text : List Char) : Bool :=
  match fixed 2 text with
  | some (hour, ':' :: _) => hour ≤ 23
  | _ => false

/-- A date, a time, or both, with an offset where there are both. -/
def dateTime (text : List Char) : Option (List Char) :=
  match date text with
  | none => time text
  | some rest =>
    match rest with
    | c :: more =>
      if (c = 'T' ∨ c = 't' ∨ c = ' ') ∧ startsTime more then (time more).bind offset
      else some rest
    | [] => some []

end Literal

end Toml

end ClusterMigration
