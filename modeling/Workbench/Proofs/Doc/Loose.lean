import Workbench.Doc.Loose
import Workbench.Proofs.Doc.Access

/-!
# Texts compared by value

A text equals by value no document but itself, so names and keys that are texts are told apart as
texts are.

* `Doc.looseEq_str_iff`, `Doc.str_looseEq_iff`: what equals a text by value;
* `Doc.contains_obj_str`: a text is a name of an object when a member can be looked up under it.
-/

namespace Workbench.Doc

variable {d e : Doc} {s : String}

theorem loosen_eq_str_iff : d.loosen = .str s ↔ d = .str s := by
  cases d with
  | real r => cases hr : r.integer? <;> simp [loosen, fold, hr]
  | arr ds => simp [loosen, Fold.rebuild]
  | obj ms => simp [loosen]
  | _ => simp [loosen, fold, Fold.rebuild]

theorem looseEq_iff : d.looseEq e = true ↔ d.loosen = e.loosen := by
  rw [looseEq, beq_iff_eq]

@[simp] theorem looseEq_str_iff : d.looseEq (.str s) = true ↔ d = .str s := by
  rw [looseEq_iff, show (Doc.str s).loosen = .str s from rfl, loosen_eq_str_iff]

@[simp] theorem str_looseEq_iff : (Doc.str s).looseEq d = true ↔ d = .str s := by
  rw [looseEq_iff, eq_comm, show (Doc.str s).loosen = .str s from rfl, loosen_eq_str_iff]

theorem loosen_arr (ds : List Doc) : (arr ds).loosen = .arr (ds.map loosen) := fold_arr _ ds

theorem looseEq_self (d : Doc) : d.looseEq d = true := looseEq_iff.mpr rfl

/-- A text is among the names of an object when a member can be looked up under it. -/
theorem contains_obj_str (ms : List Member) (key : String) :
    (obj ms).contains key = .ok (ms.lookup key).isSome := by
  have hkey : (Doc.str key).asKey = .ok (.str key) := rfl
  have hany : (ms.any fun m => looseEq (.str m.1) (.str key)) = (ms.lookup key).isSome := by
    rw [Bool.eq_iff_iff, List.any_eq_true, List.lookup_isSome_iff]
    refine exists_congr fun m => and_congr_right fun _ => ?_
    rw [looseEq_str_iff, Doc.str.injEq, beq_iff_eq, eq_comm]
  rw [contains, hkey, hany]
  rfl

end Workbench.Doc
