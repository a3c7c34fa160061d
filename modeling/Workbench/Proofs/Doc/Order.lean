import Mathlib.Data.String.Basic
import Workbench.Doc.Order
import Workbench.Proofs.Doc.Access

/-!
# Members in another order

The order of the members of an object carries no meaning.

* `sortMembers_setMember_comm`: in order, members that were set under two names do not tell which
  name came first;
* `Doc.ordered_setMember`: the ordered form after a member was set;
* `Doc.same_setMember_comm`, `Doc.same_setMember`: objects that are the same up to the order of
  members.
-/

namespace Workbench

variable {α : Type} {name k : String}

/-! ## Members -/

theorem insertMember_comm (hne : name ≠ k) (v w : α) : ∀ ms : List (String × α),
    insertMember (name, v) (insertMember (k, w) ms) = insertMember (k, w) (insertMember (name, v) ms)
  | [] => by
    rcases lt_or_gt_of_ne hne with h | h <;> simp [insertMember, h, h.not_gt]
  | (j, x) :: ms => by
    rcases lt_or_gt_of_ne hne with h | h <;> by_cases hn : name < j <;> by_cases hk : k < j
    all_goals first
      | exact absurd (h.trans hk) hn
      | exact absurd (h.trans hn) hk
      | simp [insertMember, hn, hk, h, h.not_gt, insertMember_comm hne v w ms]

theorem sortMembers_setMember_comm (hne : name ≠ k) (v w : α) (ms : List (String × α)) :
    sortMembers (setMember name v (setMember k w ms)) =
      sortMembers (setMember k w (setMember name v ms)) := by
  induction ms with
  | nil =>
    simp only [setMember, if_neg hne, if_neg hne.symm, sortMembers]
    exact insertMember_comm hne.symm w v []
  | cons m ms ih =>
    obtain ⟨j, x⟩ := m
    by_cases hk : j = k
    · simp [setMember, hk, hne.symm]
    by_cases hname : j = name
    · simp [setMember, hname, hne]
    · simp only [setMember, if_neg hk, if_neg hname, sortMembers, ih]

theorem map_setMember {β : Type} (f : α → β) (v : α) (ms : List (String × α)) :
    (setMember name v ms).map (fun m => (m.1, f m.2)) =
      setMember name (f v) (ms.map fun m => (m.1, f m.2)) := by
  induction ms with
  | nil => rfl
  | cons m ms ih =>
    obtain ⟨j, x⟩ := m
    simp only [setMember, List.map_cons]
    split_ifs with hj
    · rfl
    · rw [List.map_cons, ih]

/-! ## Documents -/

namespace Doc

variable {v w : Doc}

theorem ordered_setMember (v : Doc) (ms : List Member) : (obj (setMember name v ms)).ordered =
    .obj (sortMembers (setMember name v.ordered (ms.map fun m => (m.1, m.2.ordered)))) := by
  rw [ordered, fold_obj, map_setMember]

@[simp] theorem same_self (d : Doc) : d.same d = true := beq_self_eq_true _

theorem same_iff {d e : Doc} : d.same e = true ↔ d.ordered = e.ordered := beq_iff_eq

/-- Members that are set in another order. -/
theorem same_setMember_comm (hne : name ≠ k) (v w : Doc) (ms : List Member) :
    (obj (setMember name v (setMember k w ms))).same (obj (setMember k w (setMember name v ms))) := by
  rw [same_iff, ordered_setMember, ordered_setMember, map_setMember, map_setMember,
    sortMembers_setMember_comm hne]

/-- A member that is set to one of two documents that are the same. -/
theorem same_setMember (h : v.same w) (ms : List Member) :
    (obj (setMember name v ms)).same (obj (setMember name w ms)) := by
  rw [same_iff, ordered_setMember, ordered_setMember, same_iff.mp h]

end Doc

end Workbench
