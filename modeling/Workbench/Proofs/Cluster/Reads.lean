import Workbench.Proofs.Cluster.Calls

/-!
# Programs that only read

* `Action.Gets`: programs that only get objects, at some addresses, whatever they are answered;
  `Gets.safe` says that what they end with rests on these addresses alone;
* `Action.Asks`: programs that make no calls but reads, and do not wait; `Asks.run_eq` says that they
  leave a state alone that reads leave alone;
* `Action.calls`: the calls that a run makes; `calls_seq` for composed programs;
* `Action.OnlyReads`: a run that ends with a result, makes no call that could write, and leaves the
  memory as it is.
-/

namespace Workbench

open Doc Memory

/-- The call asks for objects, and changes none. -/
def Call.isRead : Call → Bool
  | .get _ | .list _ _ => true
  | _ => false

theorem Memory.serve_of_isRead {c : Call} (hc : c.isRead) (m : Memory) : (m.serve c).2 = m := by
  cases c with
  | get a => rfl
  | list kind ns => rfl
  | _ => cases hc

namespace Action

variable {α β : Type} {P : Address → Prop} {m : Memory}

/-! ## Single reads -/

theorem run_find? {a : Address} (ha : a.IsPlain) :
    (find? a).run Memory.host m = (.ok (m.lookup a), m) := by
  change Action.run Memory.host (Action.rescue (some <$> ofExcept (m.fetch "get" a)) _) m = _
  rw [fetch_plain ha]
  cases m.lookup a <;> rfl

theorem run_exists? {a : Address} (ha : a.IsPlain) :
    (exists? a).run Memory.host m = (.ok (m.lookup a).isSome, m) := by
  change Action.run Memory.host (Action.rescue (Action.bind (discard (ofExcept (m.fetch "get" a)))
    fun _ => Pure.pure true) _) m = _
  rw [fetch_plain ha]
  cases m.lookup a <;> rfl

/-! ## Programs that get objects -/

/-- The program only gets objects at plain addresses that `P` holds of, whatever it is answered. -/
def Gets (P : Address → Prop) : Action α → Prop
  | .done _ => True
  | .fail _ => True
  | .call c next => (∃ a, c = .get a ∧ a.IsPlain ∧ P a) ∧ ∀ r, Gets P (next r)
  | .wait _ next => ∀ r, Gets P (next r)

namespace Gets

theorem seq {f : α → Action β} (hf : ∀ v, Gets P (f v)) :
    ∀ {a : Action α}, Gets P a → Gets P (a >>= f)
  | .done v, _ => hf v
  | .fail _, _ => trivial
  | .call _ _, h => ⟨h.1, fun r => seq hf (h.2 r)⟩
  | .wait _ _, h => fun r => seq hf (h r)

theorem pure (v : α) : Gets P (pure v) := trivial

theorem ofExcept (x : Except Trouble α) : Gets P (ofExcept x) := by
  cases x <;> trivial

theorem liftM_fault (x : Except Fault α) : Gets P (liftM x : Action α) := ofExcept _

theorem liftM_trouble (x : Except Trouble α) : Gets P (liftM x : Action α) := ofExcept x

theorem find? {a : Address} (ha : a.IsPlain) (hP : P a) : Gets P (find? a) := by
  refine ⟨⟨a, rfl, ha, hP⟩, fun r => ?_⟩
  cases r with
  | ok d => trivial
  | error t =>
    change Gets P (if t.isNotFound then _ else _)
    split <;> trivial

theorem exists? {a : Address} (ha : a.IsPlain) (hP : P a) : Gets P (exists? a) := by
  refine ⟨⟨a, rfl, ha, hP⟩, fun r => ?_⟩
  cases r with
  | ok d => trivial
  | error t =>
    change Gets P (if t.isNotFound then _ else _)
    split <;> trivial

/-- What a program ends with that only gets objects rests on what is kept at these addresses. What
the others keep holds afterwards. -/
theorem safe {rely guar : Change} (hrely : ∀ a, P a → rely.Fixes a) (hguar : ∀ t, guar t t)
    {kept : Memory → Prop} (hkept : ∀ s t, rely s t → kept s → kept t) {m₀ : Memory} :
    ∀ {a : Action α} {m : Memory}, Gets P a → (∀ a, P a → m.lookup a = m₀.lookup a) → kept m →
      Safe rely guar (fun x t => x = (a.run Memory.host m₀).1 ∧
        (∀ a, P a → t.lookup a = m₀.lookup a) ∧ kept t) a m
  | .done _, _, _, hm, hk => fun _ => ⟨rfl, hm, hk⟩
  | .fail _, _, _, hm, hk => fun _ => ⟨rfl, hm, hk⟩
  | .call _ next, m, h, hm, hk => fun _ t _ hmt => by
    obtain ⟨⟨a, rfl, ha, hP⟩, hnext⟩ := h
    have ht : ∀ a, P a → t.lookup a = m₀.lookup a :=
      fun a hP => (hrely a hP m t hmt).trans (hm a hP)
    have hserve : (t.serve (.get a)).1 = (m₀.serve (.get a)).1 := by
      simp only [Memory.serve, fetch_plain ha, ht a hP]
    refine ⟨hguar t, ?_⟩
    rw [hserve]
    exact safe hrely hguar hkept (hnext _) ht (hkept m t hmt hk)
  | .wait _ next, _, h, hm, hk => safe hrely hguar hkept (a := next (.ok ())) (h _) hm hk

/-- So does a run of it. -/
theorem run_eq {p : Action α} {m₀ : Memory} (hp : Gets P p) (hm : m.Sound)
    (hsame : ∀ a, P a → m.lookup a = m₀.lookup a) :
    (p.run Memory.host m).1 = (p.run Memory.host m₀).1 := by
  have hsafe : Safe (fun s t => s = t) (fun s t => s = t) (fun x t => x = (p.run Memory.host m₀).1 ∧
      (∀ a, P a → t.lookup a = m₀.lookup a) ∧ True) p m :=
    safe (fun a _ s t hst => by rw [hst]) (fun _ => rfl) (fun _ _ _ => id) hp hsame trivial
  exact (Safe.run (fun _ => rfl) hm hsafe).2.1

theorem rounds : ∀ {p : Action α}, Gets P p →
    Relation.ReflTransGen (Round Memory.host) (p, p, m)
      (.ofExcept (p.run Memory.host m).1, .ofExcept (p.run Memory.host m).1, m)
  | .done _, _ => .refl
  | .fail _, _ => .refl
  | .call _ next, h => by
    obtain ⟨⟨a, rfl, -⟩, hnext⟩ := h
    exact .head ⟨m, rfl, rfl⟩ (rounds (p := next (m.serve (.get a)).1) (hnext _))
  | .wait _ next, h => .head ⟨m, rfl, rfl⟩ (rounds (p := next (.ok ())) (h _))

end Gets

theorem step?_find? {a : Address} (ha : a.IsPlain) :
    (find? a).step? Memory.host m = some (pure (m.lookup a), m) := by
  change some (((some <$> ofExcept (m.fetch "get" a)).rescue _), m) = _
  rw [fetch_plain ha]
  cases m.lookup a <;> rfl

end Action

/-! ## Programs that make no calls but reads -/

/-- Reads leave the state alone. -/
def Host.Steady {σ : Type} (h : Host σ) (s : σ) : Prop :=
  ∀ c : Call, c.isRead → (h.serve c s).2 = s

theorem Memory.steady (m : Memory) : Memory.host.Steady m := fun _ hc => serve_of_isRead hc m

namespace Action

variable {α β : Type}

/-- Whatever the program is answered, its calls are reads, and it does not wait. -/
def Asks : Action α → Prop
  | .done _ => True
  | .fail _ => True
  | .call c next => c.isRead ∧ ∀ r, Asks (next r)
  | .wait _ _ => False

namespace Asks

theorem ofExcept (x : Except Trouble α) : Asks (ofExcept x) := by
  cases x <;> trivial

theorem liftM_fault (x : Except Fault α) : Asks (liftM x : Action α) := ofExcept _

theorem seq {f : α → Action β} (hf : ∀ v, Asks (f v)) :
    ∀ {a : Action α}, Asks a → Asks (a >>= f)
  | .done v, _ => hf v
  | .fail _, _ => trivial
  | .call _ _, h => ⟨h.1, fun r => seq hf (h.2 r)⟩

theorem list (kind ns : Doc) : Asks (list kind ns) := ⟨rfl, ofExcept⟩

theorem exists? (a : Address) : Asks (exists? a) := by
  refine ⟨rfl, fun r => ?_⟩
  cases r with
  | ok d => trivial
  | error t =>
    change Asks (if t.isNotFound then _ else _)
    split <;> trivial

/-- The run ends in the state that it starts from. -/
theorem run_eq {σ : Type} {h : Host σ} {s : σ} (hs : h.Steady s) :
    ∀ {a : Action α}, Asks a → a.run h s = ((a.run h s).1, s)
  | .done _, _ => rfl
  | .fail _, _ => rfl
  | .call c next, ha => by
    change (next (h.serve c s).1).run h (h.serve c s).2 = _
    rw [hs c ha.1, run_eq hs (ha.2 _)]
    change _ = ((Action.run h (next (h.serve c s).1) (h.serve c s).2).1, s)
    rw [hs c ha.1]

end Asks

end Action

namespace Action

variable {α β : Type} {m : Memory}

/-! ## The calls of a run -/

/-- The calls that a run makes, in order. -/
def calls {σ : Type} (h : Host σ) : Action α → σ → List Call
  | .done _, _ => []
  | .fail _, _ => []
  | .call c next, s => c :: calls h (next (h.serve c s).1) (h.serve c s).2
  | .wait ms next, s => calls h (next (h.pause ms s).1) (h.pause ms s).2

theorem calls_seq {σ : Type} (h : Host σ) (f : α → Action β) : ∀ (a : Action α) (s : σ),
    (a >>= f).calls h s = a.calls h s ++
      match a.run h s with
      | (.ok v, t) => (f v).calls h t
      | (.error _, _) => []
  | .done _, _ => rfl
  | .fail _, _ => rfl
  | .call c next, s => congrArg (c :: ·) (calls_seq h f (next (h.serve c s).1) (h.serve c s).2)
  | .wait ms next, s => calls_seq h f (next (h.pause ms s).1) (h.pause ms s).2

theorem calls_rescue {σ : Type} (h : Host σ) (f : Trouble → Action α) : ∀ (a : Action α) (s : σ),
    (a.rescue f).calls h s = a.calls h s ++
      match a.run h s with
      | (.ok _, _) => []
      | (.error e, t) => (f e).calls h t
  | .done _, _ => rfl
  | .fail _, _ => rfl
  | .call c next, s => congrArg (c :: ·) (calls_rescue h f (next (h.serve c s).1) (h.serve c s).2)
  | .wait ms next, s => calls_rescue h f (next (h.pause ms s).1) (h.pause ms s).2

/-- A run of the program from the memory ends with `x`, only reads, and leaves the memory as it
is. -/
structure OnlyReads (x : Except Trouble α) (a : Action α) (m : Memory) : Prop where
  run : a.run Memory.host m = (x, m)
  calls : ∀ c ∈ a.calls Memory.host m, c.isRead

namespace OnlyReads

theorem pure (v : α) : OnlyReads (.ok v) (pure v) m := ⟨rfl, fun _ h => absurd h List.not_mem_nil⟩

theorem seq {a : Action α} {f : α → Action β} {v : α} {y : Except Trouble β}
    (ha : OnlyReads (.ok v) a m) (hf : OnlyReads y (f v) m) : OnlyReads y (a >>= f) m where
  run := by
    rw [run_seq, ha.run]
    exact hf.run
  calls c hc := by
    rw [calls_seq, ha.run, List.mem_append] at hc
    exact hc.elim (ha.calls c) (hf.calls c)

theorem liftM_fault {x : Except Fault α} {v : α} (hx : x = .ok v) :
    OnlyReads (.ok v) (liftM x : Action α) m := by
  subst hx
  exact OnlyReads.pure v

theorem rescue {a : Action α} {f : Trouble → Action α} {v : α} (ha : OnlyReads (.ok v) a m) :
    OnlyReads (.ok v) (a.rescue f) m where
  run := by rw [run_rescue, ha.run]
  calls c hc := by
    rw [calls_rescue, ha.run, List.append_nil] at hc
    exact ha.calls c hc

theorem retrying {again : Trouble → Bool} {a : Action α} {waits : List Nat} {v : α}
    (ha : OnlyReads (.ok v) a m) : OnlyReads (.ok v) (retrying again a waits) m := by
  cases waits with
  | nil => exact ha
  | cons ms waits => exact ha.rescue

theorem of_gets : ∀ {a : Action α}, Gets P a → OnlyReads (a.run Memory.host m).1 a m
  | .done _, _ => ⟨rfl, fun _ h => absurd h List.not_mem_nil⟩
  | .fail _, _ => ⟨rfl, fun _ h => absurd h List.not_mem_nil⟩
  | .call _ next, h => by
    obtain ⟨⟨a, rfl, -⟩, hnext⟩ := h
    have hrest := of_gets (hnext (m.serve (.get a)).1)
    exact ⟨hrest.run, List.forall_mem_cons.mpr ⟨rfl, hrest.calls⟩⟩
  | .wait _ next, h =>
    have hrest := of_gets (a := next (.ok ())) (h _)
    ⟨hrest.run, hrest.calls⟩

theorem get {a : Address} {d : Doc} (ha : a.IsPlain) (hlookup : m.lookup a = some d) :
    OnlyReads (.ok d) (get a) m := by
  have hfetch : m.fetch "get" a = .ok d := by rw [fetch_plain ha, hlookup]
  constructor
  · change (Action.ofExcept (m.fetch "get" a)).run Memory.host m = _
    rw [run_ofExcept, hfetch]
  · change ∀ c ∈ Call.get a :: (Action.ofExcept (m.fetch "get" a)).calls Memory.host m, _
    rw [hfetch]
    exact List.forall_mem_cons.mpr ⟨rfl, fun c hc => absurd hc List.not_mem_nil⟩

theorem find? {a : Address} (ha : a.IsPlain) : OnlyReads (.ok (m.lookup a)) (find? a) m := by
  have h := of_gets (m := m) (Gets.find? (P := fun _ => True) ha trivial)
  rwa [run_find? ha] at h

theorem exists? {a : Address} (ha : a.IsPlain) :
    OnlyReads (.ok (m.lookup a).isSome) (exists? a) m := by
  have h := of_gets (m := m) (Gets.exists? (P := fun _ => True) ha trivial)
  rwa [run_exists? ha] at h

end OnlyReads

end Action

end Workbench
