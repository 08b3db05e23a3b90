/-!
# UTF-8

Bytes are read as a list of pieces: a character, or the longest malformed run
that could still have begun one. The strict reading refuses malformed pieces,
the lossy reading shows each of them as one replacement character.
-/

namespace ClusterMigration

abbrev Bytes := List UInt8

namespace Utf8

def replacement : Char := '\uFFFD'

/-- A sequence that is not finished: the bits so far, the number of bytes that
follow the next one, and the range the next one has to lie in. -/
structure Unfinished where
  bits : Nat
  after : Nat
  least : UInt8
  greatest : UInt8

inductive Lead where
  | whole (c : Char)
  | opens (sequence : Unfinished)
  | malformed

/-- The ranges leave out overlong forms, surrogates and values beyond the last
code point. -/
def Lead.of (b : UInt8) : Lead :=
  if b < 0x80 then .whole (Char.ofNat b.toNat)
  else if b < 0xC2 then .malformed
  else if b < 0xE0 then .opens ⟨b.toNat % 32, 0, 0x80, 0xBF⟩
  else if b = 0xE0 then .opens ⟨0, 1, 0xA0, 0xBF⟩
  else if b = 0xED then .opens ⟨13, 1, 0x80, 0x9F⟩
  else if b < 0xF0 then .opens ⟨b.toNat % 16, 1, 0x80, 0xBF⟩
  else if b = 0xF0 then .opens ⟨0, 2, 0x90, 0xBF⟩
  else if b < 0xF4 then .opens ⟨b.toNat % 8, 2, 0x80, 0xBF⟩
  else if b = 0xF4 then .opens ⟨4, 2, 0x80, 0x8F⟩
  else .malformed

/-- The pieces of a byte sequence, `none` for each malformed run. -/
def pieces : Option Unfinished → Bytes → List (Option Char)
  | none, [] => []
  | some _, [] => [none]
  | none, b :: rest =>
    match Lead.of b with
    | .whole c => some c :: pieces none rest
    | .opens sequence => pieces (some sequence) rest
    | .malformed => none :: pieces none rest
  | some sequence, b :: rest =>
    if sequence.least ≤ b ∧ b ≤ sequence.greatest then
      let bits := sequence.bits * 64 + b.toNat % 64
      match sequence.after with
      | 0 => some (Char.ofNat bits) :: pieces none rest
      | after + 1 => pieces (some ⟨bits, after, 0x80, 0xBF⟩) rest
    else
      match Lead.of b with
      | .whole c => none :: some c :: pieces none rest
      | .opens next => none :: pieces (some next) rest
      | .malformed => none :: none :: pieces none rest

def chars? (bytes : Bytes) : Option (List Char) :=
  (pieces none bytes).mapM id

def decode? (bytes : Bytes) : Option String :=
  (chars? bytes).map String.ofList

/-- The text of any bytes, each malformed run shown as one replacement character. -/
def decodeLossy (bytes : Bytes) : String :=
  String.ofList ((pieces none bytes).map (·.getD replacement))

def encode (text : String) : Bytes :=
  text.toUTF8.data.toList

end Utf8

end ClusterMigration
