import Workbench.Cluster.Rehearsal
import Workbench.Proofs.Cluster.Watch
import Workbench.Proofs.Reconcile.GivesUp
import Workbench.Proofs.Reconcile.Settled

/-!
# Reconciles that are cancelled

A reconcile can be cancelled at any moment, and may run past its deadline at any moment. It stops with
the next look at its watch, and nothing that it expects of the cluster or of its own waits keeps it
from that.

* **`Reconciler.reconcile_heeds`**: once a reconcile is over, nothing reaches the cluster any more,
  and no wait goes beyond the deadline;
* `Rehearsal.keepsTime`: the waits of a rehearsal are never too long.
-/

namespace Workbench

open Workbench.Action

variable {σ : Type}

/-- **A reconcile heeds its watch**, whatever the cluster answers and whatever happens meanwhile. Once
it is over, no call reaches the cluster and no wait begins, and it ends as cancelled if it has
anything left to do. So it does when it comes to be over during a wait. No wait ends after the
deadline. -/
theorem Reconciler.reconcile_heeds (r : Reconciler) (ns name : Doc) {h : Host σ} {w : Watch σ}
    (htime : w.KeepsTime h) {s : σ} {rest : Action Unit} {j : Journal σ}
    (hrest : Becomes (h.watched w) w.Lets (r.reconcile ns name) ⟨s, []⟩ rest j) :
    w.Heeded h rest j :=
  Watch.heeded_of_becomes htime (GivesUpOn.reconcile r ns name) hrest

/-! ## A rehearsal -/

theorem Clock.now_wait_le (c : Clock) (ms : Nat) : (c.wait ms).now ≤ c.now + ms := by
  unfold wait
  split
  · split
    · exact Nat.max_le.mpr ⟨Nat.le_add_right _ _, by assumption⟩
    · exact Nat.le_refl _
  · exact Nat.le_refl _

theorem Rehearsal.keepsTime (s : Rehearsal) (timeout : Option Int) :
    (s.watch timeout).KeepsTime Rehearsal.host :=
  ⟨fun _ _ => rfl, fun ms s => s.clock.now_wait_le ms⟩

namespace Reconciler

/-- A cluster with a notebook that is held, on which the run is cancelled after two seconds. -/
def impatientCluster : Rehearsal where
  memory := driftedCluster
  clock := { alarm := some 2000 }

/-- What a run on it looks at. -/
def impatientWatch : Watch Rehearsal := impatientCluster.watch (some 300000)

/-- The run is cancelled during a wait. -/
def isCutShort : Entry Rehearsal → Bool
  | .served .. => false
  | .paused _ _ _ after => after.clock.isCancelled

/-- The second wait for the pull secret is cut short, and the run has ended then. -/
theorem heldNotebook_cancelled :
    ∃ (rest : Action Unit) (j : Journal Rehearsal),
      Becomes (Rehearsal.host.watched impatientWatch) impatientWatch.Lets
        (plainOperator.reconcile "ns" "wb") ⟨impatientCluster, []⟩ rest j ∧
      (∃ e ∈ j.entries, e.IsCutShort impatientWatch) ∧
      impatientWatch.Heeded Rehearsal.host rest j := by
  have hcut : ((plainOperator.reconcile "ns" "wb").run (Rehearsal.host.watched impatientWatch)
      ⟨impatientCluster, []⟩).2.entries.any isCutShort = true := by decide +kernel
  have hrun : Becomes (Rehearsal.host.watched impatientWatch) impatientWatch.Lets
      (plainOperator.reconcile "ns" "wb") ⟨impatientCluster, []⟩ _ _ := becomes_run _ _
  refine ⟨_, _, hrun, ?_,
    reconcile_heeds plainOperator "ns" "wb" (impatientCluster.keepsTime _) hrun⟩
  obtain ⟨e, he, hover⟩ := List.any_eq_true.mp hcut
  refine ⟨e, he, ?_⟩
  cases e with
  | served => cases hover
  | paused => exact .inl hover

end Reconciler

end Workbench
