/-!
# Blank characters

A text that comes from outside is used without the blanks at its ends.

* `isWhiteSpace`: the characters with the Unicode property *White_Space*;
* `isBlank`: those, and the four information separators;
* `trim`: what stands between the characters of a class at both ends;
* `strip`: a text without the blanks at both ends.
-/

namespace Workbench.Text

/-- The characters with the property *White_Space*, as ranges of code points. -/
def whiteSpaceRanges : List (Nat × Nat) :=
  [(0x9, 0xD), (0x20, 0x20), (0x85, 0x85), (0xA0, 0xA0), (0x1680, 0x1680), (0x2000, 0x200A),
    (0x2028, 0x2029), (0x202F, 0x202F), (0x205F, 0x205F), (0x3000, 0x3000)]

/-- The information separators of ASCII. -/
def separatorRange : Nat × Nat := (0x1C, 0x1F)

/-- The code point of `c` lies in one of the ranges. -/
def inRanges (ranges : List (Nat × Nat)) (c : Char) : Bool :=
  ranges.any fun r => r.1 ≤ c.toNat && c.toNat ≤ r.2

/-- A character with the property *White_Space*. -/
def isWhiteSpace (c : Char) : Bool := inRanges whiteSpaceRanges c

/-- A blank character. -/
def isBlank (c : Char) : Bool := isWhiteSpace c || inRanges [separatorRange] c

/-- What stands between the characters of a class at both ends. -/
def trim (inClass : Char → Bool) (cs : List Char) : List Char :=
  ((cs.dropWhile inClass).reverse.dropWhile inClass).reverse

/-- The text without the blanks at both ends. -/
def strip (s : String) : String := String.ofList (trim isBlank s.toList)

end Workbench.Text
