import Workbench.Numeral.Decimal

/-!
# Binary floating point

Reals are kept with the precision of a 64 bit binary float: a decimal that was written down stands
for the nearest float, and is held as the shortest decimal that the same float is nearest to.

* `Binary64`: the float `significand · 2 ^ exponent`;
* `Binary64.nearest?`: the float nearest to a quotient, a tie going to the even significand;
* `Binary64.shortest`: the fewest digits that read back as the float;
* `Decimal.rounded`: both steps, from written digits to the decimal that is held;
* `Decimal.integer?`: the integer that a decimal stands for, if it stands for one.
-/

namespace Workbench

/-- The positive float `significand · 2 ^ exponent`. -/
structure Binary64 where
  significand : Nat
  exponent : Int
  deriving DecidableEq

namespace Binary64

/-- The significand of a normal float is at least this. -/
def leastNormal : Nat := Nat.pow 2 52

/-- No float has a smaller exponent. -/
def leastExponent : Int := -1074

/-- `num / den`, rounded to the nearest integer, a tie to the even one. -/
def roundQuotient (num den : Nat) : Nat :=
  let q := num / den
  let r := num % den
  if 2 * r < den then q
  else if den < 2 * r then q + 1
  else if q % 2 = 0 then q else q + 1

/-- The fraction `num / den · 2 ^ (-e)` as a numerator and a denominator. -/
def scaleDown (num den : Nat) (e : Int) : Nat × Nat :=
  if 0 ≤ e then (num, den * Nat.pow 2 e.toNat) else (num * Nat.pow 2 (-e).toNat, den)

/-- The exponent at which `num / den` has a significand of 53 bits, and no less than the least. -/
def exponentFor (num den : Nat) : Int :=
  let guess : Int := (Nat.log2 num : Int) - (Nat.log2 den : Int) - 52
  let (n, d) := scaleDown num den guess
  let exact := if n < d * leastNormal then guess - 1 else guess
  max exact leastExponent

/-- The float nearest to `num / den`; none when that is beyond the largest. -/
def nearest? (num den : Nat) : Option Binary64 :=
  let e := exponentFor num den
  let (n, d) := scaleDown num den e
  let m := roundQuotient n d
  let (m, e) := if m = 2 * leastNormal then (leastNormal, e + 1) else (m, e)
  if 971 < e then none else some ⟨m, e⟩

/-- The float as a quotient. -/
def quotient (x : Binary64) : Nat × Nat :=
  if 0 ≤ x.exponent then (x.significand * Nat.pow 2 x.exponent.toNat, 1)
  else (x.significand, Nat.pow 2 (-x.exponent).toNat)

/-- The integer that the float is, if it is one. -/
def integer? (x : Binary64) : Option Nat :=
  let (n, d) := x.quotient
  if n % d = 0 then some (n / d) else none

/-- `c · 10 ^ k` reads back as `x`: it lies between the midpoints to the neighbours of `x`, which
themselves read back when the significand is even. -/
def readsBack (x : Binary64) (c : Nat) (k : Int) : Bool :=
  let below : Nat :=
    if x.significand = leastNormal ∧ leastExponent < x.exponent then 1 else 2
  let low : Binary64 := ⟨4 * x.significand - below, x.exponent - 2⟩
  let high : Binary64 := ⟨4 * x.significand + 2, x.exponent - 2⟩
  let (n, d) := if 0 ≤ k then (c * Nat.pow 10 k.toNat, 1) else (c, Nat.pow 10 (-k).toNat)
  let (ln, ld) := low.quotient
  let (hn, hd) := high.quotient
  if x.significand % 2 = 0 then ln * d ≤ n * ld && n * hd ≤ hn * d
  else ln * d < n * ld && n * hd < hn * d

/-- The least `p` with `x < 10 ^ p`. -/
def decimalPoint (x : Binary64) : Int :=
  let (n, d) := x.quotient
  let guess : Int := ((Nat.toDigits 10 n).length : Int) - ((Nat.toDigits 10 d).length : Int)
  let reaches : Bool :=
    if 0 ≤ guess then d * Nat.pow 10 guess.toNat ≤ n else d ≤ n * Nat.pow 10 (-guess).toNat
  if reaches then guess + 1 else guess

/-- The neighbours of `x` on the grid of multiples of `10 ^ k`, the nearer one first and the even
one on a tie. -/
def gridNeighbours (x : Binary64) (k : Int) : List Nat :=
  let (n, d) := x.quotient
  let (n, d) := if 0 ≤ k then (n, d * Nat.pow 10 k.toNat) else (n * Nat.pow 10 (-k).toNat, d)
  let q := n / d
  let near := roundQuotient n d
  if near = q then [q, q + 1] else [q + 1, q]

/-- The first grid with a neighbour that reads back, tried from the coarsest. -/
def shortestFrom (x : Binary64) (point : Int) : Nat → Nat × Int
  | 0 =>
    let k := point - 17
    ((x.gridNeighbours k).headD 0, k)
  | left + 1 =>
    let k := point - (17 - (left + 1 : Nat) : Int)
    match (x.gridNeighbours k).find? (x.readsBack · k) with
    | some c => (c, k)
    | none => shortestFrom x point left

/-- The fewest digits that read back as the float, and their exponent. -/
def shortest (x : Binary64) : Nat × Int :=
  x.shortestFrom x.decimalPoint 16

end Binary64

namespace Decimal

/-- Written digits lie beyond every float above this place of the decimal point. -/
def farPoint : Int := 310

/-- Written digits are nearer to zero than to any float below this place of the decimal point. -/
def nearPoint : Int := -330

/-- The float nearest to written digits that are not zero: none is beyond the largest, and a zero
significand is nearer to zero than to any float. -/
def floatOf? (digits : Nat) (exponent : Int) : Option Binary64 :=
  let point := exponent + (Nat.toDigits 10 digits).length
  if farPoint < point then none
  else if point < nearPoint then some ⟨0, 0⟩
  else if 0 ≤ exponent then Binary64.nearest? (digits * Nat.pow 10 exponent.toNat) 1
  else Binary64.nearest? digits (Nat.pow 10 (-exponent).toNat)

/-- The decimal that is held for written digits: the shortest with the same nearest float. -/
def rounded (negative : Bool) (digits : Nat) (exponent : Int) : Decimal :=
  if digits = 0 then .finite (.zero negative)
  else match floatOf? digits exponent with
    | none => .infinite negative
    | some x =>
      if x.significand = 0 then .finite (.zero negative)
      else
        let (c, k) := x.shortest
        .finite (.ofDigits negative c k)

/-- The integer that a decimal stands for through its nearest float. -/
def integer? : Decimal → Option Int
  | .finite d =>
    if d.isZero then some 0
    else match floatOf? d.digits d.exponent with
      | none => none
      | some x => x.integer?.map fun n => if d.negative then -(n : Int) else n
  | _ => none

end Decimal

end Workbench
