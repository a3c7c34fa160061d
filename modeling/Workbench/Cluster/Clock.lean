import Workbench.Cluster.Watch

/-!
# A clock with an alarm

The clock that runs are rehearsed on: it moves only by waits and on demand, and an alarm may cancel
the run at a time. A wait that is cut short by the alarm ends at its time.

* `Clock.wait`, `Clock.advance`: a wait, and time that goes by;
* `Clock.cancel`: the run cancelled now;
* `Clock.watch`: what a run that starts now looks at.
-/

namespace Workbench

/-- The time in milliseconds, whether the run is cancelled, and when it will be. -/
structure Clock where
  now : Nat := 0
  isCancelled : Bool := false
  alarm : Option Nat := none

namespace Clock

/-- A wait of some time. The alarm ends it at its own time, but never before now. -/
def wait (c : Clock) (ms : Nat) : Clock :=
  match c.alarm with
  | some t =>
    if t ≤ c.now + ms then { c with now := max c.now t, isCancelled := true }
    else { c with now := c.now + ms }
  | none => { c with now := c.now + ms }

/-- Time that goes by while the run is busy. -/
def advance (c : Clock) (ms : Nat) : Clock :=
  let now := c.now + ms
  { c with now, isCancelled := c.isCancelled || c.alarm.any (· ≤ now) }

/-- The run cancelled now. -/
def cancel (c : Clock) : Clock := { c with isCancelled := true }

/-- What a run that starts now, and may take some time, looks at in a state with a clock. -/
def watch {σ : Type} (clock : σ → Clock) (timeout : Option Int) (s : σ) : Watch σ :=
  .starting (fun s => (clock s).now) (fun s => (clock s).isCancelled) timeout s

end Clock

end Workbench
