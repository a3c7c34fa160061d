import Workbench.Cluster.Watch
import Workbench.Proofs.Cluster.Journal
import Workbench.Proofs.Cluster.Safe

/-!
# Runs that are watched

A run that is over, because it is cancelled or its deadline is reached, makes no call any more. This
may come about at any moment: while a call is served, during a wait, or between the two.

* `Watch.IsOver`, `Watch.check_of_isOver`, `Watch.check_of_not_isOver`: what the check of a watch
  says;
* `Watch.KeepsTime`: a host whose waits are never too long;
* `Host.watched`: a host that looks at a watch, with a journal of what reaches the host behind it;
* `Action.Becomes`: what is left of a program after some of its calls and waits, when something may
  happen in between;
* `Watch.Heeded`: what is left of a program does nothing any more once its run is over;
* `Watch.Follows`: the invariant behind that, which every step keeps (`Watch.Follows.step`);
* **`Watch.heeded_of_becomes`**: a program that gives up when it is cancelled heeds its watch.
-/

namespace Workbench

open Workbench.Action

variable {α σ : Type} {w : Watch σ} {h : Host σ} {s : σ} {ms : Nat}

/-! ## Watches -/

namespace Watch

/-- The run is cancelled, or its deadline is reached. -/
def IsOver (w : Watch σ) (s : σ) : Prop := w.isCancelled s = true ∨ ∃ d ∈ w.deadline, d ≤ w.now s

theorem remaining_any_iff :
    (w.remaining s).any (· ≤ 0) = true ↔ ∃ d ∈ w.deadline, d ≤ w.now s := by
  unfold remaining
  cases w.deadline with
  | none => simp
  | some d =>
    have hzero : d - w.now s ≤ 0 ↔ d ≤ w.now s := by omega
    simpa only [Option.map_some, Option.any_some, decide_eq_true_eq, Option.mem_def,
      Option.some.injEq, exists_eq_left'] using hzero

theorem check_of_isOver (hover : w.IsOver s) :
    ∃ text, w.check s = .error (.failure (.cancelled text)) := by
  unfold check
  split
  · exact ⟨_, rfl⟩
  · next hrunning =>
    rw [if_pos (remaining_any_iff.mpr (hover.resolve_left hrunning))]
    exact ⟨_, rfl⟩

theorem check_of_not_isOver (hrunning : ¬w.IsOver s) : w.check s = .ok () := by
  obtain ⟨hcancelled, hlate⟩ := not_or.mp hrunning
  rw [check, if_neg hcancelled, if_neg (mt remaining_any_iff.mp hlate)]
  rfl

theorem now_add_cap_le (hrunning : ¬w.IsOver s) {d : Int} (hd : d ∈ w.deadline) :
    (w.now s + w.cap s ms : Nat) ≤ d := by
  have hearly : ¬d ≤ w.now s := fun hlate => hrunning (.inr ⟨d, hd, hlate⟩)
  rw [cap, remaining, Option.mem_def.mp hd]
  dsimp only [Option.map_some]
  omega

/-- The waits of a host come to their end, and never later than they should. -/
structure KeepsTime (w : Watch σ) (h : Host σ) : Prop where
  ends (ms : Nat) (s : σ) : (h.pause ms s).1 = .ok ()
  inTime (ms : Nat) (s : σ) : w.now (h.pause ms s).2 ≤ w.now s + ms

/-- The watch beside a journal. -/
def onJournal (w : Watch σ) : Watch (Journal σ) where
  now j := w.now j.state
  isCancelled j := w.isCancelled j.state
  deadline := w.deadline

end Watch

section Guarded

variable {c : Call} {t : Trouble}

theorem guarded_serve (hcheck : w.check s = .ok ()) : (h.guarded w).serve c s = h.serve c s := by
  simp only [Host.guarded, hcheck]

theorem guarded_serve_of_error (hcheck : w.check s = .error t) :
    (h.guarded w).serve c s = (.error t, s) := by
  simp only [Host.guarded, hcheck]

theorem guarded_pause (hcheck : w.check s = .ok ())
    (hends : (h.pause (w.cap s ms) s).1 = .ok ()) :
    (h.guarded w).pause ms s =
      (w.check (h.pause (w.cap s ms) s).2, (h.pause (w.cap s ms) s).2) := by
  simp only [Host.guarded, hcheck, hends]

theorem guarded_pause_of_error (hcheck : w.check s = .error t) :
    (h.guarded w).pause ms s = (.error t, s) := by
  simp only [Host.guarded, hcheck]

end Guarded

/-- A host that looks at a watch, with a journal of what reaches the host behind it. -/
def Host.watched (h : Host σ) (w : Watch σ) : Host (Journal σ) := h.journaled.guarded w.onJournal

/-! ## What is left of a program -/

/-- What is left of a program, and the state then, after some of its calls and waits. `meanwhile` says
what may happen to the state in between. -/
inductive Action.Becomes (h : Host σ) (meanwhile : σ → σ → Prop) (a : Action α) (s : σ) :
    Action α → σ → Prop
  | start : Becomes h meanwhile a s a s
  | step {b b' : Action α} {t t' : σ} (hb : Becomes h meanwhile a s b t)
    (hstep : b.step? h t = some (b', t')) : Becomes h meanwhile a s b' t'
  | disturbed {b : Action α} {t t' : σ} (hb : Becomes h meanwhile a s b t)
    (ht : meanwhile t t') : Becomes h meanwhile a s b t'

namespace Action

section Becomes

variable {meanwhile : σ → σ → Prop}

theorem Becomes.of_step {a b c : Action α} {t u : σ} (hstep : a.step? h s = some (b, t))
    (hb : Becomes h meanwhile b t c u) : Becomes h meanwhile a s c u := by
  induction hb with
  | start => exact .step .start hstep
  | step _ hstep' ih => exact .step ih hstep'
  | disturbed _ ht ih => exact .disturbed ih ht

theorem becomes_run : ∀ (a : Action α) (s : σ),
    Becomes h meanwhile a s (ofExcept (a.run h s).1) (a.run h s).2
  | .done _, _ => .start
  | .fail _, _ => .start
  | .call c next, s => .of_step rfl (becomes_run (next (h.serve c s).1) (h.serve c s).2)
  | .wait ms next, s => .of_step rfl (becomes_run (next (h.pause ms s).1) (h.pause ms s).2)

end Becomes

/-- The program is finished. -/
def IsFinished (a : Action α) : Prop := ∃ x, a = ofExcept x

/-- The program has ended as cancelled. -/
def IsCancelled (a : Action α) : Prop := ∃ text, a = .fail (.failure (.cancelled text))

theorem isFinished_of_step? {a : Action α} (hstep : a.step? h s = none) : a.IsFinished := by
  cases a with
  | done v => exact ⟨.ok v, rfl⟩
  | fail t => exact ⟨.error t, rfl⟩
  | call c next => cases hstep
  | wait ms next => cases hstep

theorem run_of_step? {a : Action α} {next : Action α × σ} (hstep : a.step? h s = some next) :
    a.run h s = next.1.run h next.2 := by
  cases a <;> cases hstep <;> rfl

end Action

namespace Watch

/-- What may happen between two calls of a run: anything, but what is over stays over. -/
structure Lets (w : Watch σ) (j j' : Journal σ) : Prop where
  entries : j'.entries = j.entries
  isOver : w.IsOver j.state → w.IsOver j'.state

end Watch

namespace Entry

/-- The entry is a wait during which the run came to be over. -/
def IsCutShort (w : Watch σ) : Entry σ → Prop
  | .served .. => False
  | .paused _ _ _ after => w.IsOver after

/-- The entry is no wait that ended after the deadline. -/
def IsInTime (w : Watch σ) : Entry σ → Prop
  | .served .. => True
  | .paused _ _ _ after => ∀ d ∈ w.deadline, w.now after ≤ d

end Entry

/-- What is left of a program, with the journal so far, heeds a watch. -/
structure Watch.Heeded (w : Watch σ) (h : Host σ) (rest : Action α) (j : Journal σ) : Prop where
  /-- Once the run is over, no call reaches the host and no wait begins, whatever happens. -/
  silent : w.IsOver j.state → ∀ rest' j', Becomes (h.watched w) w.Lets rest j rest' j' →
    j'.entries = j.entries ∧ (rest' = rest ∨ rest'.IsCancelled)
  /-- Once it is over, it ends as cancelled, unless it is finished anyway. -/
  ends : w.IsOver j.state → rest.IsFinished ∨
    ∃ text, rest.run (h.watched w) j = (.error (.failure (.cancelled text)), j)
  /-- It has ended as cancelled when it came to be over during a wait. -/
  woken : ∀ e ∈ j.entries, e.IsCutShort w → rest.IsCancelled
  /-- No wait ended after the deadline. -/
  inTime : ∀ e ∈ j.entries, e.IsInTime w

/-! ## Steps -/

namespace Watch

/-- What holds of a watched run at all times. -/
structure Follows (w : Watch σ) (rest : Action α) (j : Journal σ) : Prop where
  givesUp : rest.GivesUpOn fun _ t => t.isCancelled = true
  woken : ∀ e ∈ j.entries, e.IsCutShort w → rest.IsCancelled
  inTime : ∀ e ∈ j.entries, e.IsInTime w

section Steps

variable {rest rest' : Action α} {j j' : Journal σ}

theorem step_of_isOver (hgives : rest.GivesUpOn fun _ t => t.isCancelled = true)
    (hover : w.IsOver j.state) (hstep : rest.step? (h.watched w) j = some (rest', j')) :
    rest'.IsCancelled ∧ j' = j := by
  obtain ⟨text, hcheck⟩ := check_of_isOver (w := w.onJournal) (s := j) hover
  cases rest with
  | done v => cases hstep
  | fail t => cases hstep
  | call c next =>
    rw [step?, Host.watched, guarded_serve_of_error hcheck] at hstep
    cases hstep
    exact ⟨⟨text, hgives.1 _ rfl⟩, rfl⟩
  | wait ms next =>
    rw [step?, Host.watched, guarded_pause_of_error hcheck] at hstep
    cases hstep
    exact ⟨⟨text, hgives.1 _ rfl⟩, rfl⟩

namespace Follows

theorem not_isCutShort (hj : w.Follows rest j) (hrest : ¬rest.IsCancelled) :
    ∀ e ∈ j.entries, ¬e.IsCutShort w := fun e he hcut => hrest (hj.woken e he hcut)

theorem served {c : Call} {next : Except Trouble Doc → Action α}
    (hj : w.Follows (.call c next) j) :
    w.Follows (next (h.journaled.serve c j).1) (h.journaled.serve c j).2 := by
  have hcut := hj.not_isCutShort (by rintro ⟨_, hrest⟩; cases hrest)
  refine ⟨hj.givesUp.2 _, ?_, ?_⟩
  · refine List.forall_mem_append.mpr ⟨fun e he h => absurd h (hcut e he), ?_⟩
    exact List.forall_mem_singleton.mpr fun hserved => hserved.elim
  · exact List.forall_mem_append.mpr ⟨hj.inTime, List.forall_mem_singleton.mpr trivial⟩

theorem paused {next : Except Trouble Unit → Action α} (htime : w.KeepsTime h)
    (hj : w.Follows (.wait ms next) j) (hrunning : ¬w.IsOver j.state) :
    w.Follows (next ((h.watched w).pause ms j).1) ((h.watched w).pause ms j).2 := by
  have hcut := hj.not_isCutShort (by rintro ⟨_, hrest⟩; cases hrest)
  have hcheck : w.onJournal.check j = .ok () := check_of_not_isOver hrunning
  let u := (h.journaled.pause (w.cap j.state ms) j).2
  have hpause : (h.watched w).pause ms j = (w.onJournal.check u, u) :=
    guarded_pause hcheck (htime.ends (w.cap j.state ms) j.state)
  rw [hpause]
  have hentries : u.entries = j.entries ++ [.paused (w.cap j.state ms) j.state
    (h.pause (w.cap j.state ms) j.state).1 u.state] := rfl
  refine ⟨hj.givesUp.2 _, ?_, ?_⟩
  · rw [hentries]
    refine List.forall_mem_append.mpr ⟨fun e he h => absurd h (hcut e he), ?_⟩
    refine List.forall_mem_singleton.mpr fun hover => ?_
    obtain ⟨text, hcancelled⟩ := check_of_isOver (w := w.onJournal) (s := u) hover
    rw [hcancelled]
    exact ⟨text, hj.givesUp.1 _ rfl⟩
  · rw [hentries]
    refine List.forall_mem_append.mpr ⟨hj.inTime, List.forall_mem_singleton.mpr fun d hd => ?_⟩
    have hlate := htime.inTime (w.cap j.state ms) j.state
    have hcap : (w.now j.state + w.cap j.state ms : Nat) ≤ d := now_add_cap_le hrunning hd
    change ((w.now (h.pause (w.cap j.state ms) j.state).2 : Nat) : Int) ≤ d
    omega

/-- **What holds of a watched run holds after its next step.** -/
theorem step (htime : w.KeepsTime h) (hj : w.Follows rest j)
    (hstep : rest.step? (h.watched w) j = some (rest', j')) : w.Follows rest' j' := by
  by_cases hover : w.IsOver j.state
  · obtain ⟨⟨text, rfl⟩, rfl⟩ := step_of_isOver hj.givesUp hover hstep
    exact ⟨trivial, fun _ _ _ => ⟨text, rfl⟩, hj.inTime⟩
  · have hcheck : w.onJournal.check j = .ok () := check_of_not_isOver hover
    cases rest with
    | done v => cases hstep
    | fail t => cases hstep
    | call c next =>
      rw [step?, Host.watched, guarded_serve hcheck] at hstep
      cases hstep
      exact hj.served
    | wait ms next =>
      cases hstep
      exact hj.paused htime hover

theorem disturbed (hj : w.Follows rest j) (hlets : w.Lets j j') : w.Follows rest j' :=
  ⟨hj.givesUp, hlets.entries ▸ hj.woken, hlets.entries ▸ hj.inTime⟩

theorem of_becomes {a : Action α} (htime : w.KeepsTime h) (hs : w.Follows a j)
    (hrest : Becomes (h.watched w) w.Lets a j rest j') : w.Follows rest j' := by
  induction hrest with
  | start => exact hs
  | step _ hstep ih => exact ih.step htime hstep
  | disturbed _ hlets ih => exact ih.disturbed hlets

end Follows

end Steps

/-! ## Runs -/

variable {a rest : Action α} {j : Journal σ}

theorem still_of_isOver (hgives : a.GivesUpOn fun _ t => t.isCancelled = true)
    (hover : w.IsOver j.state) {rest : Action α} {j' : Journal σ}
    (hrest : Becomes (h.watched w) w.Lets a j rest j') :
    w.IsOver j'.state ∧ j'.entries = j.entries ∧ (rest = a ∨ rest.IsCancelled) := by
  induction hrest with
  | start => exact ⟨hover, rfl, .inl rfl⟩
  | step _ hstep ih =>
    obtain ⟨hover', hentries, rfl | ⟨text, rfl⟩⟩ := ih
    · obtain ⟨hcancelled, rfl⟩ := step_of_isOver hgives hover' hstep
      exact ⟨hover', hentries, .inr hcancelled⟩
    · cases hstep
  | disturbed _ hlets ih =>
    obtain ⟨hover', hentries, hrest⟩ := ih
    exact ⟨hlets.isOver hover', hlets.entries.trans hentries, hrest⟩

theorem run_of_isOver (hgives : rest.GivesUpOn fun _ t => t.isCancelled = true)
    (hover : w.IsOver j.state) : rest.IsFinished ∨
      ∃ text, rest.run (h.watched w) j = (.error (.failure (.cancelled text)), j) := by
  cases hstep : rest.step? (h.watched w) j with
  | none => exact .inl (isFinished_of_step? hstep)
  | some next =>
    obtain ⟨⟨text, hrest⟩, hj⟩ := step_of_isOver hgives hover hstep
    rw [run_of_step? hstep, hrest, hj]
    exact .inr ⟨text, rfl⟩

/-- **A program that gives up when it is cancelled heeds its watch**, whatever the host answers and
whenever the run comes to be over. -/
theorem heeded_of_becomes (htime : w.KeepsTime h)
    (hgives : a.GivesUpOn fun _ t => t.isCancelled = true)
    (hrest : Becomes (h.watched w) w.Lets a ⟨s, []⟩ rest j) : w.Heeded h rest j := by
  have hstart : w.Follows a ⟨s, []⟩ := ⟨hgives, nofun, nofun⟩
  have hj := hstart.of_becomes htime hrest
  exact ⟨fun hover _ _ hrest' => (still_of_isOver hj.givesUp hover hrest').2,
    run_of_isOver hj.givesUp, hj.woken, hj.inTime⟩

end Watch

end Workbench
