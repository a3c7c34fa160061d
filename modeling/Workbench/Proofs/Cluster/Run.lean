import Workbench.Cluster.Action
import Workbench.Proofs.Doc.Access

/-!
# What is known of a program before it runs

* `run_pure`, `run_liftM_fault`, `run_seq_eq_ok_iff` and the like: runs of programs written as
  sequences;
* `Action.Yields`: whatever its calls are answered, a program ends with a value of some kind or in
  trouble; `Yields.seq` composes such facts, and `Yields.of_run` applies them to the runs on any
  host.
-/

namespace Workbench

theorem mapError_eq_ok_iff {ε ε' α : Type} {g : ε → ε'} {x : Except ε α} {a : α} :
    x.mapError g = .ok a ↔ x = .ok a := by
  cases x <;> simp [Except.mapError]

theorem liftM_fault_eq_ok_iff {α : Type} {x : Except Fault α} {v : α} :
    (liftM x : Except Trouble α) = .ok v ↔ x = .ok v := mapError_eq_ok_iff

namespace Action

variable {α β σ : Type} {h : Host σ} {s t : σ}

/-! ## Runs of sequences -/

@[simp] theorem run_pure (v : α) : (pure v : Action α).run h s = (.ok v, s) := rfl

@[simp] theorem run_throw (e : Trouble) : (throw e : Action α).run h s = (.error e, s) := rfl

@[simp] theorem run_ofExcept (x : Except Trouble α) : (ofExcept x).run h s = (x, s) := by
  cases x <;> rfl

@[simp] theorem run_liftM_trouble (x : Except Trouble α) :
    (liftM x : Action α).run h s = (x, s) := run_ofExcept x

@[simp] theorem run_liftM_fault (x : Except Fault α) :
    (liftM x : Action α).run h s = (x.mapError .fault, s) := run_ofExcept _

theorem run_seq (a : Action α) (f : α → Action β) :
    (a >>= f).run h s =
      match a.run h s with
      | (.ok v, s) => (f v).run h s
      | (.error t, s) => (.error t, s) := run_bind h f a s

theorem discard_eq (a : Action α) : discard a = a >>= fun _ => pure () := rfl

theorem liftM_ok_seq (v : α) (f : α → Action β) :
    ((liftM (Except.ok v : Except Fault α) : Action α) >>= f) = f v := rfl

theorem liftM_fault_seq (x : Except Fault α) (f : α → Except Fault β) :
    (liftM (x >>= f) : Action β) = liftM x >>= fun v => liftM (f v) := by
  cases x <;> rfl

/-- A sequence ends with a value when both parts do. -/
theorem run_seq_eq_ok_iff {a : Action α} {f : α → Action β} {b : β} :
    (a >>= f).run h s = (.ok b, t) ↔
      ∃ v u, a.run h s = (.ok v, u) ∧ (f v).run h u = (.ok b, t) := by
  rw [run_seq]
  rcases a.run h s with ⟨v | v, u⟩ <;> simp

theorem exists_run_eq_ok {a : Action α} {f : α → β} {b : β} (hb : (a.run h s).1.map f = .ok b) :
    ∃ v t, a.run h s = (.ok v, t) ∧ f v = b := by
  obtain ⟨v, hv, hf⟩ := map_eq_ok_iff.mp hb
  exact ⟨v, (a.run h s).2, Prod.ext hv rfl, hf⟩

theorem run_liftM_fault_eq_ok_iff {x : Except Fault α} {v : α} :
    (liftM x : Action α).run h s = (.ok v, t) ↔ x = .ok v ∧ s = t := by
  simp [mapError_eq_ok_iff]

/-! ## Values that a program may end with -/

/-- Whatever its calls and waits are answered, the program ends with a value that `post` holds of,
or in trouble. -/
def Yields (post : α → Prop) : Action α → Prop
  | done v => post v
  | fail _ => True
  | call _ next => ∀ r, Yields post (next r)
  | wait _ next => ∀ r, Yields post (next r)

variable {post : α → Prop} {post' : β → Prop}

theorem Yields.mono {p q : α → Prop} (hpq : ∀ v, p v → q v) :
    ∀ {a : Action α}, Yields p a → Yields q a
  | done v, ha => hpq v ha
  | fail _, _ => trivial
  | call _ _, ha => fun r => (ha r).mono hpq
  | wait _ _, ha => fun r => (ha r).mono hpq

theorem Yields.seq {f : α → Action β} (hf : ∀ v, post v → Yields post' (f v)) :
    ∀ {a : Action α}, Yields post a → Yields post' (a >>= f)
  | done v, ha => hf v ha
  | fail _, _ => trivial
  | call _ _, ha => fun r => Yields.seq hf (ha r)
  | wait _ _, ha => fun r => Yields.seq hf (ha r)

theorem Yields.any : ∀ a : Action α, Yields (fun _ => True) a
  | done _ => trivial
  | fail _ => trivial
  | call _ next => fun r => Yields.any (next r)
  | wait _ next => fun r => Yields.any (next r)

theorem Yields.pure {v : α} (hv : post v) : Yields post (pure v) := hv

theorem Yields.ofExcept {x : Except Trouble α} (hx : ∀ v, x = .ok v → post v) :
    Yields post (ofExcept x) := by
  cases x with
  | ok v => exact hx v rfl
  | error _ => trivial

theorem Yields.liftM_trouble {x : Except Trouble α} (hx : ∀ v, x = .ok v → post v) :
    Yields post (liftM x) := Yields.ofExcept hx

theorem Yields.liftM_fault {x : Except Fault α} (hx : ∀ v, x = .ok v → post v) :
    Yields post (liftM x) := Yields.ofExcept fun v hv => hx v (mapError_eq_ok_iff.mp hv)

/-- On every host, a run ends with such a value. -/
theorem Yields.of_run {v : α} : ∀ {a : Action α} {s : σ}, Yields post a →
    a.run h s = (.ok v, t) → post v
  | done _, _, ha, hr => by cases hr; exact ha
  | fail _, _, _, hr => by cases hr
  | call _ _, _, ha, hr => (ha _).of_run hr
  | wait _ _, _, ha, hr => (ha _).of_run hr

end Action

end Workbench
