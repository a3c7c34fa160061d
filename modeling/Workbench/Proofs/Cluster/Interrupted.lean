import Workbench.Proofs.Cluster.Journal
import Workbench.Proofs.Cluster.Reads

/-!
# Runs that are interrupted

A call may fail without having done anything: the cluster does not answer, or the run is cancelled. A
program that does not expect such a failure ends with it, and leaves what its calls have done so far.

* `Trouble.interrupts`: the failures in question;
* `Host.failing`: a host on which one call fails;
* `Action.Interrupted`: how a run ends in which one call fails, and what it leaves; `run_failing` says
  that a run on such a host is one, or comes to its end before;
* `Action.passed`: the memories that a run comes through; `Safe.passed` says what they have in common;
* `Action.Interruptible`: an interrupted run ends with the failure, where the undisturbed run comes
  through, or as if nothing had happened; `Interruptible.seq` composes such programs;
* **`GivesUpOn.interruptible`**: a program that gives up on the failure is one.
-/

namespace Workbench

open Memory

/-- The cluster did not do what it was asked for, or the run was cancelled. -/
def Trouble.interrupts : Trouble → Bool
  | .failure (.unexpected ..) => true
  | .failure (.cancelled _) => true
  | _ => false

theorem Trouble.isNotFound_of_interrupts {e : Trouble} (he : e.interrupts = true) :
    e.isNotFound = false := by
  cases e with
  | failure f => cases f <;> first | rfl | cases he
  | _ => rfl

theorem Trouble.isConflict_of_interrupts {e : Trouble} (he : e.interrupts = true) :
    e.isConflict = false := by
  cases e with
  | failure f => cases f <;> first | rfl | cases he
  | _ => rfl

/-- A host on which one call fails and has no effect: the one that comes after `k` others. The state
says how many calls there were. -/
def Host.failing {σ : Type} (h : Host σ) (k : Nat) (e : Trouble) : Host (Nat × σ) where
  serve c s :=
    if s.1 = k then (.error e, s.1 + 1, s.2)
    else
      let (r, t) := h.serve c s.2
      (r, s.1 + 1, t)
  pause ms s :=
    let (r, t) := h.pause ms s.2
    (r, s.1, t)

theorem Memory.Sound.run {α : Type} : ∀ {p : Action α} {m : Memory}, m.Sound →
    (p.run Memory.host m).2.Sound
  | .done _, _, hm => hm
  | .fail _, _, hm => hm
  | .call c next, m, hm => Sound.run (p := next (m.serve c).1) (hm.serve c)
  | .wait _ next, _, hm => Sound.run (p := next (.ok ())) hm

theorem Memory.Sound.of_run {α : Type} {p : Action α} {m t : Memory} {x : Except Trouble α}
    (hm : m.Sound) (h : p.run Memory.host m = (x, t)) : t.Sound := by
  have ht := hm.run (p := p)
  rwa [h] at ht

namespace Action

variable {α β : Type} {e : Trouble} {k n : Nat} {m u : Memory} {rely guar : Change}

/-! ## One call that fails -/

/-- One call of a run fails with `e` and has no effect. The run ends as `x` then, and leaves `u`. -/
def Interrupted (e : Trouble) : Action α → Memory → Except Trouble α → Memory → Prop
  | .done _, _, _, _ => False
  | .fail _, _, _, _ => False
  | .call c next, m, x, u => (next (.error e)).run Memory.host m = (x, u) ∨
    Interrupted e (next (m.serve c).1) (m.serve c).2 x u
  | .wait _ next, m, x, u => Interrupted e (next (.ok ())) m x u

theorem run_failing_of_lt : ∀ {p : Action α} {n : Nat} {m : Memory}, k < n →
    ∃ n', p.run (Memory.host.failing k e) (n, m) =
      ((p.run Memory.host m).1, n', (p.run Memory.host m).2)
  | .done _, n, _, _ => ⟨n, rfl⟩
  | .fail _, n, _, _ => ⟨n, rfl⟩
  | .call c next, n, m, hn => by
    obtain ⟨n', hrun⟩ := run_failing_of_lt (p := next (m.serve c).1) (m := (m.serve c).2)
      (Nat.lt_succ_of_lt hn)
    have hserve : (Memory.host.failing k e).serve c (n, m) =
        ((m.serve c).1, n + 1, (m.serve c).2) := if_neg (Nat.ne_of_gt hn)
    exact ⟨n', by rw [Action.run, hserve]; exact hrun⟩
  | .wait _ next, _, _, hn => run_failing_of_lt (p := next (.ok ())) hn

/-- A run on which a call is to fail is interrupted, or comes to its end before. -/
theorem run_failing : ∀ {p : Action α} {n n' : Nat} {m u : Memory} {x : Except Trouble α},
    p.run (Memory.host.failing k e) (n, m) = (x, n', u) →
      Interrupted e p m x u ∨ p.run Memory.host m = (x, u)
  | .done _, _, _, _, _, _, h => by
    cases h
    exact .inr rfl
  | .fail _, _, _, _, _, _, h => by
    cases h
    exact .inr rfl
  | .call c next, n, n', m, u, x, h => by
    rw [Action.run] at h
    by_cases hn : n = k
    · subst hn
      have hserve : (Memory.host.failing n e).serve c (n, m) = (.error e, n + 1, m) := if_pos rfl
      obtain ⟨_, hrun⟩ := run_failing_of_lt (e := e) (p := next (.error e)) (m := m)
        (Nat.lt_succ_self n)
      rw [hserve] at h
      obtain ⟨hx, hu⟩ := Prod.mk.inj (hrun.symm.trans h)
      exact .inl (.inl (Prod.ext hx (Prod.mk.inj hu).2))
    · have hserve : (Memory.host.failing k e).serve c (n, m) =
          ((m.serve c).1, n + 1, (m.serve c).2) := if_neg hn
      rw [hserve] at h
      exact (run_failing h).imp_left .inr
  | .wait _ next, _, _, _, _, _, h => run_failing (p := next (.ok ())) h

theorem Interrupted.of_seq {f : α → Action β} {y : Except Trouble β} :
    ∀ {p : Action α} {m : Memory}, Interrupted e (p >>= f) m y u →
      (∃ x t, Interrupted e p m x t ∧ (ofExcept x >>= f).run Memory.host t = (y, u)) ∨
        ∃ v t, p.run Memory.host m = (.ok v, t) ∧ Interrupted e (f v) t y u
  | .done v, m, h => .inr ⟨v, m, rfl, h⟩
  | .fail _, _, h => h.elim
  | .call c next, m, h => by
    rcases h with h | h
    · refine .inl ⟨_, _, .inl rfl, ?_⟩
      rw [run_seq, run_ofExcept]
      exact (run_seq (next (.error e)) f).symm.trans h
    · rcases of_seq h with ⟨x, t, hx, hrest⟩ | hrest
      · exact .inl ⟨x, t, .inr hx, hrest⟩
      · exact .inr hrest
  | .wait _ next, _, h => of_seq (p := next (.ok ())) h

theorem Interrupted.of_rescue {f : Trouble → Action α} {y : Except Trouble α} :
    ∀ {p : Action α} {m : Memory}, Interrupted e (p.rescue f) m y u →
      (∃ x t, Interrupted e p m x t ∧ ((ofExcept x).rescue f).run Memory.host t = (y, u)) ∨
        ∃ e' t, p.run Memory.host m = (.error e', t) ∧ Interrupted e (f e') t y u
  | .done _, _, h => h.elim
  | .fail e', m, h => .inr ⟨e', m, rfl, h⟩
  | .call c next, m, h => by
    rcases h with h | h
    · refine .inl ⟨_, _, .inl rfl, ?_⟩
      rw [run_rescue, run_ofExcept]
      exact (run_rescue Memory.host f (next (.error e)) m).symm.trans h
    · rcases of_rescue h with ⟨x, t, hx, hrest⟩ | hrest
      · exact .inl ⟨x, t, .inr hx, hrest⟩
      · exact .inr hrest
  | .wait _ next, _, h => of_rescue (p := next (.ok ())) h

/-! ## Where a run comes through -/

/-- The memories that a run comes through: the one before each call, and the last one. -/
def passed : Action α → Memory → List Memory
  | .done _, m => [m]
  | .fail _, m => [m]
  | .call c next, m => m :: passed (next (m.serve c).1) (m.serve c).2
  | .wait _ next, m => passed (next (.ok ())) m

theorem start_mem_passed : ∀ (p : Action α) (m : Memory), m ∈ p.passed m
  | .done _, _ => List.mem_cons_self
  | .fail _, _ => List.mem_cons_self
  | .call _ _, _ => List.mem_cons_self
  | .wait _ next, m => start_mem_passed (next (.ok ())) m

theorem end_mem_passed : ∀ (p : Action α) (m : Memory), (p.run Memory.host m).2 ∈ p.passed m
  | .done _, _ => List.mem_cons_self
  | .fail _, _ => List.mem_cons_self
  | .call c next, m => List.mem_cons_of_mem _ (end_mem_passed (next (m.serve c).1) (m.serve c).2)
  | .wait _ next, m => end_mem_passed (next (.ok ())) m

theorem mem_passed_of_run {p : Action α} {x : Except Trouble α}
    (h : p.run Memory.host m = (x, u)) : u ∈ p.passed m := by
  have hend := end_mem_passed p m
  rwa [h] at hend

theorem mem_passed_seq {f : α → Action β} : ∀ {p : Action α} {m : Memory},
    u ∈ (p >>= f).passed m ↔
      u ∈ p.passed m ∨ ∃ v t, p.run Memory.host m = (.ok v, t) ∧ u ∈ (f v).passed t
  | .done v, m => by
    refine ⟨fun h => .inr ⟨v, m, rfl, h⟩, ?_⟩
    rintro (h | ⟨_, _, hrun, h⟩)
    · rw [List.mem_singleton.mp h]
      exact start_mem_passed (f v) m
    · cases hrun
      exact h
  | .fail _, m => by
    refine ⟨.inl, ?_⟩
    rintro (h | ⟨_, _, hrun, -⟩)
    · exact h
    · cases hrun
  | .call c next, m => by
    change u ∈ m :: passed (next (m.serve c).1 >>= f) (m.serve c).2 ↔ _
    rw [List.mem_cons, mem_passed_seq, passed, List.mem_cons, or_assoc]
    rfl
  | .wait _ next, m => mem_passed_seq (p := next (.ok ()))

/-- A run comes through sound memories, as the program guarantees. -/
theorem Safe.passed {post : Except Trouble α → Memory → Prop} (hrely : ∀ s, rely s s)
    (hguar : guar.Closed) : ∀ {p : Action α} {m : Memory}, m.Sound → Safe rely guar post p m →
      ∀ u ∈ p.passed m, u.Sound ∧ guar m u
  | .done _, m, hm, _, u, hu => by
    rw [List.mem_singleton.mp hu]
    exact ⟨hm, hguar.refl m⟩
  | .fail _, m, hm, _, u, hu => by
    rw [List.mem_singleton.mp hu]
    exact ⟨hm, hguar.refl m⟩
  | .call c next, m, hm, h, u, hu => by
    obtain ⟨hg, hrest⟩ := h hm m hm (hrely m)
    rcases List.mem_cons.mp hu with rfl | hu
    · exact ⟨hm, hguar.refl u⟩
    · obtain ⟨hsound, hgu⟩ := Safe.passed hrely hguar (hm.serve c) hrest u hu
      exact ⟨hsound, hguar.trans hg hgu⟩
  | .wait _ next, _, hm, h, u, hu => Safe.passed hrely hguar (p := next (.ok ())) hm h u hu

theorem sound_of_mem_passed : ∀ {p : Action α} {m : Memory}, m.Sound → u ∈ p.passed m → u.Sound
  | .done _, _, hm, hu => List.mem_singleton.mp hu ▸ hm
  | .fail _, _, hm, hu => List.mem_singleton.mp hu ▸ hm
  | .call c next, m, hm, hu => by
    rcases List.mem_cons.mp hu with rfl | hu
    · exact hm
    · exact sound_of_mem_passed (hm.serve c) hu
  | .wait _ next, _, hm, hu => sound_of_mem_passed (p := next (.ok ())) hm hu

/-- A run that only gets objects stays where it is. -/
theorem Gets.passed {P : Address → Prop} : ∀ {p : Action α} {m : Memory}, Gets P p →
    ∀ u ∈ p.passed m, u = m
  | .done _, _, _, _, hu => List.mem_singleton.mp hu
  | .fail _, _, _, _, hu => List.mem_singleton.mp hu
  | .call _ next, _, h, u, hu => by
    obtain ⟨⟨a, rfl, -⟩, hnext⟩ := h
    rcases List.mem_cons.mp hu with hu | hu
    · exact hu
    · exact Gets.passed (hnext _) u hu
  | .wait _ next, _, h, u, hu => Gets.passed (p := next (.ok ())) (h _) u hu

section Gets

variable {P : Address → Prop} {r : Action α} {v : α} {f : α → Action β}

theorem Gets.run_seq (hr : r.Gets P) (hv : (r.run Memory.host m).1 = .ok v) :
    (r >>= f).run Memory.host m = (f v).run Memory.host m := by
  rw [Action.run_seq, (OnlyReads.of_gets hr).run, hv]

theorem Gets.passed_seq (hr : r.Gets P) (hv : (r.run Memory.host m).1 = .ok v) :
    ∀ u ∈ (r >>= f).passed m, u ∈ (f v).passed m := by
  intro u hu
  rcases mem_passed_seq.mp hu with hu | ⟨_, t, ht, hu⟩
  · rw [hr.passed u hu]
    exact start_mem_passed _ _
  · rw [(OnlyReads.of_gets hr).run, hv] at ht
    cases ht
    exact hu

end Gets

/-! ## Programs that may be interrupted -/

/-- An interrupted run ends with the failure, where the undisturbed run comes through, or as if
nothing had happened. -/
def Interruptible (e : Trouble) (p : Action α) : Prop :=
  ∀ ⦃m u : Memory⦄ ⦃x : Except Trouble α⦄, m.Sound → Interrupted e p m x u →
    (x = .error e ∧ u ∈ p.passed m) ∨ p.run Memory.host m = (x, u)

/-- **A program that gives up on the failure may be interrupted by it.** -/
theorem GivesUpOn.interruptible :
    ∀ {p : Action α}, GivesUpOn (fun _ t => t = e) p → Interruptible e p
  | .done _, _ => fun _ _ _ _ h => h.elim
  | .fail _, _ => fun _ _ _ _ h => h.elim
  | .call c _, hp => by
    rintro m u x hm (h | h)
    · -- A single call that fails has done nothing.
      rw [hp.1 e rfl] at h
      cases h
      exact .inl ⟨rfl, List.mem_cons_self⟩
    · exact (interruptible (hp.2 _) (hm.serve c) h).imp_left fun ⟨hx, hu⟩ =>
        ⟨hx, List.mem_cons_of_mem _ hu⟩
  | .wait _ next, hp => fun _ _ _ hm h => interruptible (p := next (.ok ())) (hp.2 _) hm h

namespace Interruptible

theorem seq_from {p : Action α} {f : α → Action β} {y : Except Trouble β}
    (hp : Interruptible e p) (hm : m.Sound)
    (hf : ∀ v t, p.run Memory.host m = (.ok v, t) → Interruptible e (f v))
    (h : Interrupted e (p >>= f) m y u) :
    (y = .error e ∧ u ∈ (p >>= f).passed m) ∨ (p >>= f).run Memory.host m = (y, u) := by
  rcases Interrupted.of_seq h with ⟨x, t, hx, hrest⟩ | ⟨v, t, hrun, hrest⟩
  · rcases hp hm hx with ⟨rfl, ht⟩ | hrun
    · cases hrest
      exact .inl ⟨rfl, mem_passed_seq.mpr (.inl ht)⟩
    · refine .inr ?_
      rw [run_seq, hrun]
      rwa [run_seq, run_ofExcept] at hrest
  · rcases hf v t hrun (hm.of_run hrun) hrest with ⟨hy, hu⟩ | hrest
    · exact .inl ⟨hy, mem_passed_seq.mpr (.inr ⟨v, t, hrun, hu⟩)⟩
    · exact .inr (by rw [run_seq, hrun]; exact hrest)

theorem seq {p : Action α} {f : α → Action β} (hp : Interruptible e p)
    (hf : ∀ v, Interruptible e (f v)) : Interruptible e (p >>= f) :=
  fun _ _ _ hm h => seq_from hp hm (fun v _ _ => hf v) h

end Interruptible

end Action

end Workbench
