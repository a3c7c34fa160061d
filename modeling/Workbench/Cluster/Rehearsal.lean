import Workbench.Cluster.Clock
import Workbench.Cluster.Memory

/-!
# Rehearsals

A cluster in memory on which things go wrong as planned: calls fail, writes meet conflicts, other
clients write in between, time passes and the run is cancelled. Every call and every wait is noted.

* `Disturbance`, `Hook`, `Plan`: what goes wrong, and when;
* `Rehearsal`: the cluster, its clock, the plan and the notes;
* `Rehearsal.host`: the rehearsal as a host.
-/

namespace Workbench

/-- What another party does just before a call. -/
inductive Disturbance where
  | put (object : Doc)
  | delete (address : Address)
  | advance (ms : Nat)
  | cancel
  /-- The call fails. -/
  | fail (cause : Trouble)

/-- Something that happens just before the `nth` call of its kind. -/
structure Hook where
  on : String
  nth : Nat
  actions : List Disturbance

/-- A verb, and the kind of object that it is used on. -/
structure CallKind where
  verb : String
  kind : Doc

namespace CallKind

/-- One verb on kinds that are equal by value. -/
def looseEq (a b : CallKind) : Bool := a.verb == b.verb && a.kind.looseEq b.kind

/-- The verb and the kind, in words. -/
def text (k : CallKind) : String := k.verb ++ " " ++ k.kind.display

end CallKind

/-- What goes wrong. -/
structure Plan where
  /-- Calls that always fail. -/
  failures : List (CallKind × Trouble) := []
  /-- Calls that meet some conflicts first. A number below zero is never used up. -/
  conflicts : List (CallKind × Int) := []

/-- A cluster in memory, its clock, what is planned for it, and what happened. -/
structure Rehearsal where
  memory : Memory
  clock : Clock := {}
  plan : Plan := {}
  hooks : List Hook := []
  counts : List (String × Nat) := []
  calls : List String := []
  waits : List Nat := []

namespace Rehearsal

/-- What a call is about. A list has no name. -/
def subject : Call → Except Fault Address
  | .get address | .patch address _ | .delete address => return address
  | .list kind ns => return ⟨kind, ns, ""⟩
  | .create d | .update d => Memory.addressOf d

/-- One disturbance, and the trouble that the call is in from then on. It may itself go wrong. -/
def disturb (s : Rehearsal) (trouble : Option Trouble) :
    Disturbance → Except Fault (Option Trouble) × Rehearsal
  | .put d =>
    let (r, memory) := s.memory.put d
    (r.map fun _ => trouble, { s with memory })
  | .delete address =>
    match address.check with
    | .ok () => (return trouble, { s with memory := s.memory.drop address })
    | .error f => (throw f, s)
  | .advance ms => (return trouble, { s with clock := s.clock.advance ms })
  | .cancel => (return trouble, { s with clock := s.clock.cancel })
  | .fail t => (return some t, s)

/-- Disturbances, one after the other, up to the first one that goes wrong. -/
def disturbAll (s : Rehearsal) (trouble : Option Trouble) :
    List Disturbance → Except Fault (Option Trouble) × Rehearsal
  | [] => (return trouble, s)
  | d :: ds =>
    match s.disturb trouble d with
    | (.ok trouble, s) => disturbAll s trouble ds
    | (.error f, s) => (throw f, s)

/-- What happens just before a call of a kind, and the trouble it is in then. -/
def disturbed (s : Rehearsal) (kind : String) : Except Fault (Option Trouble) × Rehearsal :=
  let nth := (s.counts.lookup kind).getD 0 + 1
  let s := { s with counts := setMember kind nth s.counts }
  let due := s.hooks.filter fun h => h.on == kind && h.nth == nth
  s.disturbAll none (due.flatMap Hook.actions)

/-- The conflicts that are left for a kind of call. -/
def conflictsLeft (s : Rehearsal) (kind : CallKind) : Int :=
  ((s.plan.conflicts.find? (·.1.looseEq kind)).map Prod.snd).getD 0

/-- A conflict used up. -/
def useConflict (s : Rehearsal) (kind : CallKind) : Rehearsal :=
  let conflicts := s.plan.conflicts.map fun e => if e.1.looseEq kind then (e.1, e.2 - 1) else e
  { s with plan := { s.plan with conflicts } }

/-- A call that nothing disturbs any more. -/
def answer (s : Rehearsal) (kind : CallKind) (c : Call) (address : Address) :
    Except Trouble Doc × Rehearsal :=
  match s.plan.failures.find? (·.1.looseEq kind) with
  | some (_, t) => (throw t, s)
  | none =>
    if s.conflictsLeft kind = 0 then
      let (r, memory) := s.memory.serve c
      (r, { s with memory })
    else (throw (Memory.conflicting c.verb address "conflict"), s.useConflict kind)

/-- A call, noted and answered. -/
def serve (c : Call) (s : Rehearsal) : Except Trouble Doc × Rehearsal :=
  match subject c with
  | .error f => (throw (.fault f), s)
  | .ok address =>
    let kind : CallKind := ⟨c.verb, address.kind⟩
    match s.disturbed kind.text with
    | (.error f, s) => (throw (.fault f), s)
    | (.ok trouble, s) =>
      let s := { s with calls := s.calls ++ [c.verb ++ " " ++ address.text] }
      match trouble with
      | some t => (throw t, s)
      | none => s.answer kind c address

/-- A wait, noted. -/
def pause (ms : Nat) (s : Rehearsal) : Except Trouble Unit × Rehearsal :=
  (return, { s with clock := s.clock.wait ms, waits := s.waits ++ [ms] })

/-- The rehearsal as a host. -/
def host : Host Rehearsal := ⟨serve, pause⟩

/-- The watch of a run that starts now and may take some time. -/
def watch (s : Rehearsal) (timeout : Option Int) : Watch Rehearsal :=
  Clock.watch Rehearsal.clock timeout s

/-- A run of a program that looks at nothing. -/
def runPlain {α : Type} (s : Rehearsal) (a : Action α) : Except Trouble α × Rehearsal :=
  a.run host s

/-- A run of a program that is cancelled with the clock and may take some time. -/
def runWithin {α : Type} (s : Rehearsal) (timeout : Option Int) (a : Action α) :
    Except Trouble α × Rehearsal :=
  a.run (host.guarded (s.watch timeout)) s

/-- A run of a program of which only the waits are cancelled with the clock. -/
def runPatient {α : Type} (s : Rehearsal) (timeout : Option Int) (a : Action α) :
    Except Trouble α × Rehearsal :=
  a.run { host with pause := (host.guarded (s.watch timeout)).pause } s

end Rehearsal

end Workbench
