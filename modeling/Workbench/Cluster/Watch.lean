import Workbench.Cluster.Action

/-!
# Cancellation and deadlines

A run can be cancelled from outside and can have a deadline. Both are looked at before every call and
before and after every wait, and no wait goes beyond the deadline.

* `Watch`: what a run looks at;
* `Watch.check`: whether the run goes on;
* `Host.guarded`: a host whose calls and waits look at a watch.
-/

namespace Workbench

/-- What a run looks at: the time in milliseconds, whether it is cancelled, and its deadline. -/
structure Watch (σ : Type) where
  now : σ → Nat
  isCancelled : σ → Bool
  deadline : Option Int

namespace Watch

variable {σ : Type}

/-- The watch of a run that starts now and may take some time. -/
def starting (now : σ → Nat) (isCancelled : σ → Bool) (timeout : Option Int) (s : σ) : Watch σ :=
  ⟨now, isCancelled, timeout.map (now s + ·)⟩

/-- The time that is left, without bound when there is no deadline. -/
def remaining (w : Watch σ) (s : σ) : Option Int := w.deadline.map (· - w.now s)

/-- The run goes on, unless it is cancelled or the deadline is reached. -/
def check (w : Watch σ) (s : σ) : Except Trouble Unit :=
  if w.isCancelled s then throw (.failure (.cancelled "reconcile cancelled"))
  else if (w.remaining s).any (· ≤ 0) then
    throw (.failure (.cancelled "reconcile deadline exceeded"))
  else return

/-- The part of a wait before the deadline. -/
def cap (w : Watch σ) (s : σ) (ms : Nat) : Nat :=
  match w.remaining s with
  | some left => min ms left.toNat
  | none => ms

end Watch

/-- A host whose calls and waits look at a watch. -/
def Host.guarded {σ : Type} (h : Host σ) (w : Watch σ) : Host σ where
  serve c s :=
    match w.check s with
    | .error t => (.error t, s)
    | .ok () => h.serve c s
  pause ms s :=
    match w.check s with
    | .error t => (.error t, s)
    | .ok () =>
      let (r, s) := h.pause (w.cap s ms) s
      match r with
      | .error t => (.error t, s)
      | .ok () => (w.check s, s)

end Workbench
