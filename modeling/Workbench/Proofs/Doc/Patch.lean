import Workbench.Doc.Patch
import Workbench.Proofs.Doc.MergePatch

/-!
# Patches of what stays as it is

* `Patch.valueEdits_self`: nothing has to be edited in a value that stays;
* `Patch.between_self`: the patch from a document to itself is empty.
-/

namespace Workbench.Patch

open Doc

mutual

theorem valueEdits_self (place : Place) : ∀ {d : Doc}, d.isProper = true →
    valueEdits place d d = []
  | .obj ms, h => by
    obtain ⟨hms, hproper⟩ := isProper_obj.mp h
    have hgone : (ms.filter fun m => (ms.lookup m.1).isNone) = [] := by
      refine List.filter_eq_nil_iff.mpr fun m hm => ?_
      rw [lookup_of_mem hms hm]
      exact Bool.false_ne_true
    have hstay : memberEdits place ms ms = [] :=
      memberEdits_self place (fun m hm => lookup_of_mem hms hm) hproper
    rw [valueEdits, hgone, hstay]
    rfl
  | .arr ds, h => by
    rw [valueEdits, if_pos rfl]
    exact itemEdits_self place 0 (isProper_arr.mp h)
  | .null, _ | .bool _, _ | .int _, _ | .real _, _ | .str _, _ => by simp [valueEdits]

theorem itemEdits_self (place : Place) : ∀ (index : Nat) {ds : List Doc},
    (∀ d ∈ ds, d.isProper = true) → itemEdits place index ds ds = []
  | _, [], _ => rfl
  | index, d :: ds, h => by
    obtain ⟨hd, hds⟩ := List.forall_mem_cons.mp h
    rw [itemEdits, valueEdits_self _ hd, itemEdits_self place _ hds]
    rfl

theorem memberEdits_self (place : Place) {before : List Member} : ∀ {ms : List Member},
    (∀ m ∈ ms, before.lookup m.1 = some m.2) → (∀ m ∈ ms, m.2.isProper = true) →
      memberEdits place before ms = []
  | [], _, _ => rfl
  | (k, d) :: ms, h, hproper => by
    obtain ⟨hk, hms⟩ := List.forall_mem_cons.mp h
    obtain ⟨hd, hrest⟩ := List.forall_mem_cons.mp hproper
    rw [memberEdits, memberEdit, hk, memberEdits_self place hms hrest, List.append_nil]
    exact valueEdits_self _ hd

end

/-- **A document that stays as it is needs no patch.** -/
theorem between_self {d : Doc} (h : d.isProper = true) : between d d = [] := valueEdits_self [] h

end Workbench.Patch
