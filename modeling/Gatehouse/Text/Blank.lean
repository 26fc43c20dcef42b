import Gatehouse.Text.Pieces

namespace Gatehouse

/-- Members of the Unicode property `White_Space`, as inclusive ranges of code points. -/
def blankRanges : List (Nat × Nat) :=
  [(0x09, 0x0D), (0x20, 0x20), (0x85, 0x85), (0xA0, 0xA0), (0x1680, 0x1680), (0x2000, 0x200A),
   (0x2028, 0x2029), (0x202F, 0x202F), (0x205F, 0x205F), (0x3000, 0x3000)]

def isBlank (c : Char) : Bool :=
  blankRanges.any fun (low, high) => low ≤ c.toNat && c.toNat ≤ high

/-- The text without blanks at either end. -/
def trimBlank (cs : List Char) : List Char := trimBy isBlank cs

/-- Space and tab, the blanks around a header field's value. -/
def isFieldBlank (o : UInt8) : Bool := o == 0x20 || o == 0x09

end Gatehouse
