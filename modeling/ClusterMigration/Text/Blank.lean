/-!
# Blanks

The characters of the property `White_Space`.
-/

namespace ClusterMigration

namespace Blank

def ranges : List (Nat × Nat) := [
  (0x09, 0x0D), (0x20, 0x20), (0x85, 0x85), (0xA0, 0xA0), (0x1680, 0x1680), (0x2000, 0x200A),
  (0x2028, 0x2029), (0x202F, 0x202F), (0x205F, 0x205F), (0x3000, 0x3000)]

end Blank

def isBlank (c : Char) : Bool :=
  Blank.ranges.any fun (first, last) => first ≤ c.toNat && c.toNat ≤ last

namespace Blank

def trim (text : String) : String :=
  String.ofList ((text.toList.dropWhile isBlank).reverse.dropWhile isBlank).reverse

def isAllBlank (text : String) : Bool := text.toList.all isBlank

end Blank

end ClusterMigration
