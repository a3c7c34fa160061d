import Workbench.Proofs.Cluster.Shared

/-!
# Programs that spare an address

A program may spare an address whatever others do there and elsewhere. This needs no knowledge of how
the program ends.

* `Shared.among`: a cluster that others write to, and that answers every call;
* `Shared.run_perform_among`, `Shared.run_find?_among`: how a call is answered there, and what a look
  for an object finds;
* **`Safe.shared`**: what a program guarantees holds of each of its calls, whatever others do;
* `Action.Spares`: what is kept at an address is not changed by the calls of a program.
-/

namespace Workbench

open Doc Memory

/-- A memory that others write to between the calls of a run, and that answers every call. -/
def Shared.among (others : Nat → List Call) : Host Shared :=
  Shared.host fun n => { calls := others n }

/-- A call is served after the others have written. -/
theorem Shared.run_perform_among (others : Nat → List Call) (c : Call) (s : Shared) :
    ∃ w, (Action.perform c).run (among others) s =
      (((s.memory.serveAll (others s.log.length)).serve c).1,
        ⟨((s.memory.serveAll (others s.log.length)).serve c).2, s.log ++ [w]⟩) :=
  ⟨s.next (fun n => { calls := others n }) c, run_perform⟩

/-- A look for an object finds what is there after the others have written. -/
theorem Shared.run_find?_among (others : Nat → List Call) {a : Address} (ha : a.IsPlain)
    (s : Shared) : ∃ w, w.after = w.before ∧ (Action.find? a).run (among others) s =
      (.ok ((s.memory.serveAll (others s.log.length)).lookup a),
        ⟨s.memory.serveAll (others s.log.length), s.log ++ [w]⟩) := by
  let meanwhile : Nat → Meanwhile := fun n => { calls := others n }
  have hget : (Action.get a).run (among others) s =
      ((s.memory.serveAll (others s.log.length)).fetch "get" a,
        s.note (s.next meanwhile (.get a))) := run_perform
  refine ⟨s.next meanwhile (.get a), rfl, ?_⟩
  rw [Action.find?, Action.except, Action.run_rescue, map_eq_pure_bind, Action.run_seq, hget,
    fetch_plain ha]
  cases (s.memory.serveAll (others s.log.length)).lookup a <;> rfl

namespace Action

variable {α β : Type} {rely guar : Change} {post : Except Trouble α → Memory → Prop}
  {others : Nat → List Call}

/-- **What a program guarantees holds of each of its calls**, if it relies on nothing. -/
theorem Safe.shared (hrely : ∀ s t, rely s t) : ∀ {p : Action α} {s t : Shared}
    {x : Except Trouble α}, s.memory.Orderly → Safe rely guar post p s.memory →
      p.run (Shared.among others) s = (x, t) → ∀ w ∈ t.log, w ∈ s.log ∨ guar w.before w.after
  | .done _, s, t, x, _, _, hrun => by
    cases hrun
    exact fun w hw => .inl hw
  | .fail _, s, t, x, _, _, hrun => by
    cases hrun
    exact fun w hw => .inl hw
  | .call c next, s, t, x, hs, hp, hrun => by
    let meanwhile : Nat → Meanwhile := fun n => { calls := others n }
    obtain ⟨horder, -⟩ := Shared.met_orderly meanwhile hs
    obtain ⟨hguar, hnext⟩ := hp hs.sound _ horder.sound (hrely _ _)
    intro w hw
    rcases Safe.shared hrely (p := next ((s.met meanwhile).serve c).1)
      (s := s.note (s.next meanwhile c)) (horder.serve c) hnext hrun w hw with hw | hw
    · rcases List.mem_append.mp hw with hw | hw
      · exact .inl hw
      · rw [List.mem_singleton.mp hw]
        exact .inr hguar
    · exact .inr hw
  | .wait _ next, s, t, x, hs, hp, hrun =>
    Safe.shared hrely (p := next (.ok ())) hs hp hrun

/-- The program leaves what is kept at an address as it is, whatever others do there and elsewhere. -/
def Spares (b : Address) (p : Action α) : Prop :=
  ∀ m, Safe (fun _ _ => True) (fun s t => t.lookup b = s.lookup b) (fun _ _ => True) p m

end Action

end Workbench
