/-!
# Blank characters

The characters with the property White_Space: the controls from tab to carriage return, the space,
NEL, the no-break space and the space and line separators beyond Latin-1. The zero-width space and
the byte-order mark do not have the property.
-/

namespace Countoff.Text

/-- The code points with the property White_Space, as closed ranges in ascending order. -/
def blankRanges : List (Nat × Nat) :=
  [(0x09, 0x0d), (0x20, 0x20), (0x85, 0x85), (0xa0, 0xa0), (0x1680, 0x1680), (0x2000, 0x200a),
    (0x2028, 0x2029), (0x202f, 0x202f), (0x205f, 0x205f), (0x3000, 0x3000)]

def isBlank (c : Char) : Bool :=
  blankRanges.any fun (first, last) => first ≤ c.toNat && c.toNat ≤ last

/-- Whether a text holds nothing but blank characters. The empty text does. -/
def allBlank (s : String) : Bool :=
  s.toList.all isBlank

end Countoff.Text
