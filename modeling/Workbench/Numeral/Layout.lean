import Workbench.Numeral.Decimal

/-!
# How numbers are written

* `decimalDigits`, `integerText`: integers, in base ten;
* `FiniteDecimal.layout`: a finite decimal; positional with at least one place after the point
  while the leading digit stands for `10 ^ (-4)` to `10 ^ 15`, with an exponent of at least two
  digits otherwise;
* `Decimal.layout`: a real, with words for those that are not finite.
-/

namespace Workbench

/-- The digits of a natural number in base ten. -/
def decimalDigits (n : Nat) : List Char := Nat.toDigits 10 n

/-- An integer in base ten. -/
def integerText : Int → List Char
  | .ofNat n => decimalDigits n
  | .negSucc n => '-' :: decimalDigits (n + 1)

namespace FiniteDecimal

/-- The least power of ten of a leading digit that is written positionally. -/
def leastPositional : Int := -4

/-- The first power of ten of a leading digit that is written with an exponent. -/
def firstScientific : Int := 16

/-- An exponent: a sign and at least two digits. -/
def exponentText (e : Int) : List Char :=
  let digits := decimalDigits e.natAbs
  let padded := if digits.length < 2 then '0' :: digits else digits
  (if e < 0 then '-' else '+') :: padded

/-- The digits with the point after the first `point` of them, zeros filling what is missing. -/
def positional (digits : List Char) (point : Int) : List Char :=
  if point ≤ 0 then
    '0' :: '.' :: (List.replicate (-point).toNat '0' ++ digits)
  else if (digits.length : Int) ≤ point then
    digits ++ List.replicate (point - digits.length).toNat '0' ++ ['.', '0']
  else
    digits.take point.toNat ++ '.' :: digits.drop point.toNat

/-- One digit, the other digits after a point if there are any, and the exponent. -/
def scientific (digits : List Char) (e : Int) : List Char :=
  match digits with
  | [] => []
  | [d] => d :: 'e' :: exponentText e
  | d :: rest => d :: '.' :: (rest ++ 'e' :: exponentText e)

/-- The text of a finite decimal without its sign. -/
def magnitude (d : FiniteDecimal) : List Char :=
  if d.isZero then ['0', '.', '0']
  else
    let digits := decimalDigits d.digits
    let point := d.exponent + digits.length
    let leading := point - 1
    if leastPositional ≤ leading ∧ leading < firstScientific then positional digits point
    else scientific digits leading

/-- The text of a finite decimal. -/
def layout (d : FiniteDecimal) : List Char :=
  if d.negative then '-' :: d.magnitude else d.magnitude

end FiniteDecimal

/-- The words for the reals that are not finite. -/
structure RealWords where
  infinity : String
  nan : String

namespace Decimal

/-- The text of a real, with the given words for the reals that are not finite. -/
def layout (words : RealWords) : Decimal → List Char
  | .finite d => d.layout
  | .infinite negative => (if negative then ['-'] else []) ++ words.infinity.toList
  | .nan => words.nan.toList

/-- The words that a settings value is shown with. -/
def plainWords : RealWords := ⟨"inf", "nan"⟩

/-- The words that a document is written with. -/
def documentWords : RealWords := ⟨"Infinity", "NaN"⟩

/-- The text of a real as a settings value is shown. -/
def text (d : Decimal) : String := String.ofList (d.layout plainWords)

end Decimal

end Workbench
