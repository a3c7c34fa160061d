import Workbench.Doc.Canonical

/-!
# Documents that mean the same

* `Doc.equivalent_iff`: two documents mean the same when their canonical texts are one text;
* `Doc.equivalent_self`, `Doc.equivalent_comm`: so this does not depend on the order of the two.
-/

namespace Workbench.Doc

variable {a b : Doc}

theorem equivalent_iff : a.equivalent b = true ↔ a.canonicalText = b.canonicalText := by
  rw [equivalent, beq_iff_eq]

@[simp] theorem equivalent_self (a : Doc) : a.equivalent a = true := equivalent_iff.mpr rfl

theorem equivalent_comm (a b : Doc) : a.equivalent b = b.equivalent a := by
  rw [Bool.eq_iff_iff, equivalent_iff, equivalent_iff, eq_comm]

end Workbench.Doc
