/-!
# Decimals

A real number of a document is held as a decimal `± digits · 10 ^ exponent` in lowest terms, so
equal numbers have equal parts and a decimal is known by the digits that are written for it.

* `FiniteDecimal`: the parts, with the proof that they are in lowest terms;
* `FiniteDecimal.ofDigits`: any digits and exponent, brought into lowest terms;
* `Decimal`: a finite decimal, one of the two infinities, or not a number;
* `Decimal.less`: the order by value.
-/

namespace Workbench

/-- The decimal `± digits · 10 ^ exponent`. The digits do not end in a zero, and zero has the
exponent `0`. -/
structure FiniteDecimal where
  negative : Bool
  digits : Nat
  exponent : Int
  lowest : digits = 0 ∧ exponent = 0 ∨ digits % 10 ≠ 0
  deriving DecidableEq

namespace FiniteDecimal

/-- Zero, with its sign. -/
def zero (negative : Bool) : FiniteDecimal :=
  ⟨negative, 0, 0, .inl ⟨rfl, rfl⟩⟩

/-- The decimal of any digits and exponent: zeros at the end go into the exponent. -/
def ofDigits (negative : Bool) (digits : Nat) (exponent : Int) : FiniteDecimal :=
  if _hz : digits = 0 then zero negative
  else if h : digits % 10 = 0 then ofDigits negative (digits / 10) (exponent + 1)
  else ⟨negative, digits, exponent, .inr h⟩
termination_by digits
decreasing_by omega

/-- Both zeros are zero. -/
def isZero (d : FiniteDecimal) : Bool := d.digits == 0

/-- The decimal as a multiple of `10 ^ e`, for an `e` that is not above its exponent. -/
def scaled (d : FiniteDecimal) (e : Int) : Int :=
  let size : Int := d.digits * Nat.pow 10 (d.exponent - e).toNat
  if d.negative then -size else size

/-- The order by value. -/
def less (a b : FiniteDecimal) : Bool :=
  let e := min a.exponent b.exponent
  a.scaled e < b.scaled e

end FiniteDecimal

/-- A real number of a document. -/
inductive Decimal where
  | finite (value : FiniteDecimal)
  | infinite (negative : Bool)
  | nan
  deriving DecidableEq

namespace Decimal

/-- Only the two zeros are zero. -/
def isZero : Decimal → Bool
  | .finite d => d.isZero
  | _ => false

/-- An integer as a decimal. -/
def ofInt (n : Int) : Decimal := .finite (.ofDigits (n < 0) n.natAbs 0)

/-- The order by value. What is not a number comes neither before nor after anything. -/
def less : Decimal → Decimal → Bool
  | .finite a, .finite b => a.less b
  | .infinite negative, .finite _ => negative
  | .finite _, .infinite negative => !negative
  | .infinite a, .infinite b => a && !b
  | _, _ => false

end Decimal

end Workbench
