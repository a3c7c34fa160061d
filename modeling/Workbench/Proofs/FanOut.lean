import Workbench.FanOut
import Workbench.Proofs.Cluster.Memory
import Workbench.Resource

/-!
# What a change of an object leads back to

An object that was made for a notebook names it as the owner that controls it, so a change of the
object reaches that notebook and no other one.

* **`FanOut.forOwned_of_metadata`**: an object with the metadata of what belongs to a notebook;
* `FanOut.forOwned_stamped`: the object as it is kept leads to the same notebooks.
-/

namespace Workbench.FanOut

open Doc

variable {extra : List Member} {d e objectName ns name uid : Doc} {a : Address} {n : Nat}

/-- **A change of an object that belongs to a notebook reaches that notebook alone.** -/
theorem forOwned_of_metadata
    (h : d.require "metadata" = .ok (Owner.metadata ⟨name, ns, uid⟩ objectName extra)) :
    forOwned d = .ok [⟨ns, name⟩] := by
  obtain ⟨ms, rfl, hms⟩ := require_eq_ok_iff.mp h
  rw [forOwned, read_obj, hms]
  rfl

/-- The version and the identity that an object gets make no difference. -/
theorem forOwned_stamped (h : Memory.stamped a n d = .ok e) : forOwned e = forOwned d := by
  obtain ⟨ms, md, rfl, hmd, rfl⟩ := Memory.stamped_eq_ok_iff.mp h
  have hkept : ∀ k, k ≠ "uid" → k ≠ "resourceVersion" →
      (Memory.stampedMembers a n md).lookup k = md.lookup k :=
    fun _ => Memory.lookup_stampedMembers
  have hreferences := hkept "ownerReferences" (by decide) (by decide)
  have hnamespace := hkept "namespace" (by decide) (by decide)
  simp only [forOwned, read_obj, lookup_setMember_self, hmd, Option.getD_some, ok_bind,
    orElse_empty_obj, require_obj, hreferences, hnamespace]

end Workbench.FanOut
