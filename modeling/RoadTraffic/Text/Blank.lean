/-!
# Blanks

The characters of the Unicode property `White_Space`, and texts without them at the ends.
-/

namespace RoadTraffic

namespace Text

/-- Whether a character has the property `White_Space`. -/
def isBlank (c : Char) : Bool :=
  let n := c.val
  (9 ≤ n && n ≤ 13) || n == 32 || n == 0x85 || n == 0xA0 || n == 0x1680 ||
    (0x2000 ≤ n && n ≤ 0x200A) || n == 0x2028 || n == 0x2029 || n == 0x202F || n == 0x205F ||
    n == 0x3000

/-- The characters between the blanks at both ends. -/
def trim (cs : List Char) : List Char :=
  ((cs.dropWhile isBlank).reverse.dropWhile isBlank).reverse

end Text

end RoadTraffic
