import Workbench.Doc.Order
import Workbench.Numeral.Binary64

/-!
# Loose equality

Names and annotations are compared by value: a truth value counts as zero or one, a real that is an
integer counts as that integer, and the order of members does not matter. `Doc.loosen` is the form
in which documents that are equal by value become one document.

* `Doc.loosen`, `Doc.looseEq`: the form, and the comparison;
* `Doc.key?`: what a document counts as when objects are told apart by it; lists and objects cannot
  be used so;
* `Doc.number?`: the number that a document counts as;
* `Doc.isUnordered`: the one document that, compared on its own, equals nothing.
-/

namespace Workbench.Doc

/-- The form of a document in which equal values are the same. -/
def loosen : Doc → Doc :=
  fold { Fold.rebuild with
    bool := fun b => .int (if b then 1 else 0)
    real := fun r => match r.integer? with
      | some n => .int n
      | none => .real r
    obj := fun ms => .obj (sortMembers ms) }

/-- Equality by value. -/
def looseEq (a b : Doc) : Bool := a.loosen == b.loosen

/-- What a document counts as when things are told apart by it; none for a list or an object. -/
def key? : Doc → Option Doc
  | .arr _ => none
  | .obj _ => none
  | d => some d.loosen

/-- The number that a document counts as. -/
def number? : Doc → Option Decimal
  | .bool b => some (.ofInt (if b then 1 else 0))
  | .int n => some (.ofInt n)
  | .real r => some r
  | _ => none

/-- What is not a number equals nothing that it is compared with on its own, itself included.
`looseEq` compares trees, and there it is one value among others. -/
def isUnordered : Doc → Bool
  | .real r => r == .nan
  | _ => false

end Workbench.Doc
