import Mathlib.Logic.Relation
import Workbench.Proofs.Cluster.Memory
import Workbench.Proofs.Cluster.Run

/-!
# Programs among other programs

Several programs share a cluster in memory, and their calls may come in any order. What is known of
one of them rests on what the others leave alone: it relies on some changes of the memory being the
only ones that others make, and guarantees to make only some itself.

* `Change.Fixes`, `Change.Frees`: what others leave alone at an address, and what a program may do
  there;
* `Action.Safe`: a program that ends as promised, and makes only changes that it guarantees, as long
  as it can rely on the others;
* `Safe.seq`, `Safe.rescue`: composed programs; `Safe.mono`, `Safe.frame`: weaker and stronger
  promises;
* `Safe.of_rely`: the promise outlives what others do before the program starts;
* **`Safe.run`**: what is promised holds of a run on its own;
* `Action.step?`, `Interleaved`: one call or wait of a program, and two programs in turns;
  `Round` is one of each;
* **`Interleaved.ends`**: both programs end as promised when each can rely on what the other
  guarantees.
-/

namespace Workbench

/-- The changes of the memory that may happen. -/
abbrev Change := Memory → Memory → Prop

/-- Nothing may happen, and one change after another. -/
structure Change.Closed (change : Change) : Prop where
  refl (s : Memory) : change s s
  trans {s t u : Memory} : change s t → change t u → change s u

namespace Change

/-- Nothing happens at an address. -/
def Fixes (change : Change) (a : Address) : Prop :=
  ∀ s t, change s t → t.lookup a = s.lookup a

/-- Everything may happen at an address. -/
def Frees (change : Change) (a : Address) : Prop :=
  ∀ s t : Memory, (∀ b, b ≠ a → t.lookup b = s.lookup b) → change s t

theorem Frees.refl {change : Change} {a : Address} (h : change.Frees a) (s : Memory) :
    change s s := h s s fun _ _ => rfl

end Change

namespace Action

variable {α β : Type} {rely rely' guar guar' : Change} {m t : Memory}

/-- The program ends as `post` says and changes the memory as `guar` allows, when others change it
between its calls only as `rely` allows. Memories are sound throughout. -/
def Safe (rely guar : Change) (post : Except Trouble α → Memory → Prop) :
    Action α → Memory → Prop
  | .done v, m => m.Sound → post (.ok v) m
  | .fail e, m => m.Sound → post (.error e) m
  | .call c next, m => m.Sound → ∀ t, t.Sound → rely m t →
    guar t (t.serve c).2 ∧ Safe rely guar post (next (t.serve c).1) (t.serve c).2
  | .wait _ next, m => Safe rely guar post (next (.ok ())) m

namespace Safe

variable {post post' : Except Trouble α → Memory → Prop} {p : Except Trouble α → Memory → Prop}
  {last : Except Trouble β → Memory → Prop}

/-! ## Promises -/

theorem assume : ∀ {a : Action α} {m : Memory}, (m.Sound → Safe rely guar post a m) →
    Safe rely guar post a m
  | .done _, _, h => fun hm => h hm hm
  | .fail _, _, h => fun hm => h hm hm
  | .call _ _, _, h => fun hm => h hm hm
  | .wait _ next, _, h => assume (a := next (.ok ())) h

theorem mono (hrely : ∀ s t, rely' s t → rely s t) (hguar : ∀ s t, guar s t → guar' s t)
    (hpost : ∀ x t, t.Sound → post x t → post' x t) :
    ∀ {a : Action α} {m : Memory}, Safe rely guar post a m → Safe rely' guar' post' a m
  | .done _, _, h => fun hm => hpost _ _ hm (h hm)
  | .fail _, _, h => fun hm => hpost _ _ hm (h hm)
  | .call _ _, _, h => fun hm t ht hmt =>
    have hcall := h hm t ht (hrely _ _ hmt)
    ⟨hguar _ _ hcall.1, mono hrely hguar hpost hcall.2⟩
  | .wait _ next, _, h => mono hrely hguar hpost (a := next (.ok ())) h

theorem weaken (hpost : ∀ x t, t.Sound → post x t → post' x t) {a : Action α}
    (h : Safe rely guar post a m) : Safe rely guar post' a m :=
  mono (fun _ _ => id) (fun _ _ => id) hpost h

/-- A program promises what everybody keeps, the others and itself. -/
theorem frame {kept : Change} (hkept : kept.Closed) (hrely : ∀ s t, rely s t → kept s t)
    (hguar : ∀ s t, guar s t → kept s t) :
    ∀ {a : Action α} {s m : Memory}, kept s m → Safe rely guar post a m →
      Safe rely guar (fun x t => post x t ∧ kept s t) a m
  | .done _, _, _, hs, h => fun hm => ⟨h hm, hs⟩
  | .fail _, _, _, hs, h => fun hm => ⟨h hm, hs⟩
  | .call _ _, _, _, hs, h => fun hm t ht hmt =>
    have hcall := h hm t ht hmt
    have hst := hkept.trans hs (hrely _ _ hmt)
    ⟨hcall.1, frame hkept hrely hguar (hkept.trans hst (hguar _ _ hcall.1)) hcall.2⟩
  | .wait _ next, _, _, hs, h => frame hkept hrely hguar (a := next (.ok ())) hs h

/-- What is promised outlives a change by others before the program starts. -/
theorem of_rely (hrely : rely.Closed)
    (hpost : ∀ x s t, s.Sound → t.Sound → rely s t → post x s → post x t)
    (hm : m.Sound) (hmt : rely m t) :
    ∀ {a : Action α}, Safe rely guar post a m → Safe rely guar post a t
  | .done _, h => fun ht => hpost _ _ _ hm ht hmt (h hm)
  | .fail _, h => fun ht => hpost _ _ _ hm ht hmt (h hm)
  | .call _ _, h => fun _ u hu htu => h hm u hu (hrely.trans hmt htu)
  | .wait _ next, h => of_rely hrely hpost hm hmt (a := next (.ok ())) h

/-! ## Composed programs -/

theorem pure {v : α} (h : m.Sound → post (.ok v) m) : Safe rely guar post (pure v) m := h

theorem throw {e : Trouble} (h : m.Sound → post (.error e) m) :
    Safe rely guar post (throw e) m := h

theorem ofExcept {x : Except Trouble α} (h : m.Sound → post x m) :
    Safe rely guar post (ofExcept x) m := by
  cases x <;> exact h

/-- A program, and one that goes on with its value. -/
theorem seq {f : α → Action β} (hok : ∀ v t, t.Sound → p (.ok v) t → Safe rely guar last (f v) t)
    (herror : ∀ e t, t.Sound → p (.error e) t → last (.error e) t) :
    ∀ {a : Action α} {m : Memory}, Safe rely guar p a m → Safe rely guar last (a >>= f) m
  | .done v, m, h => assume fun hm => hok v m hm (h hm)
  | .fail e, m, h => fun hm => herror e m hm (h hm)
  | .call _ _, _, h => fun hm t ht hmt =>
    have hcall := h hm t ht hmt
    ⟨hcall.1, seq hok herror hcall.2⟩
  | .wait _ next, _, h => seq hok herror (a := next (.ok ())) h

/-- A program, and one that takes over when it ends in trouble. -/
theorem rescue {f : Trouble → Action α} (hok : ∀ v t, t.Sound → p (.ok v) t → post (.ok v) t)
    (herror : ∀ e t, t.Sound → p (.error e) t → Safe rely guar post (f e) t) :
    ∀ {a : Action α} {m : Memory}, Safe rely guar p a m → Safe rely guar post (a.rescue f) m
  | .done v, m, h => fun hm => hok v m hm (h hm)
  | .fail e, m, h => assume fun hm => herror e m hm (h hm)
  | .call _ _, _, h => fun hm t ht hmt =>
    have hcall := h hm t ht hmt
    ⟨hcall.1, rescue hok herror hcall.2⟩
  | .wait _ next, _, h => rescue hok herror (a := next (.ok ())) h

theorem retrying_once {again : Trouble → Bool} {a : Action α} {waits : List Nat}
    (h : Safe rely guar post a m) (hagain : ∀ e t, post (.error e) t → again e = false) :
    Safe rely guar post (retrying again a waits) m := by
  cases waits with
  | nil => exact h
  | cons ms waits =>
    refine h.rescue (fun _ _ _ hv => hv) fun e t _ he => ?_
    rw [hagain e t he]
    exact fun _ => he

/-! ## Runs -/

/-- **What is promised holds of a run on its own.** -/
theorem run (hrely : ∀ s, rely s s) : ∀ {a : Action α} {m : Memory}, m.Sound →
    Safe rely guar post a m →
      (a.run Memory.host m).2.Sound ∧ post (a.run Memory.host m).1 (a.run Memory.host m).2
  | .done _, _, hm, h => ⟨hm, h hm⟩
  | .fail _, _, hm, h => ⟨hm, h hm⟩
  | .call c next, m, hm, h =>
    run hrely (a := next (m.serve c).1) (hm.serve c) (h hm m hm (hrely m)).2
  | .wait _ next, _, hm, h => run hrely (a := next (.ok ())) hm h

end Safe

/-! ## Two programs in turns -/

/-- One call or wait of a program that is not finished. -/
def step? {σ : Type} (h : Host σ) : Action α → σ → Option (Action α × σ)
  | .done _, _ => none
  | .fail _, _ => none
  | .call c next, s =>
    let (r, s) := h.serve c s
    some (next r, s)
  | .wait ms next, s =>
    let (r, s) := h.pause ms s
    some (next r, s)

/-- Two programs that take turns, call by call and wait by wait, in any order: how each of them ends,
and the state then. -/
inductive Interleaved {σ : Type} (h : Host σ) :
    Action α → Action β → σ → Except Trouble α → Except Trouble β → σ → Prop where
  | ended (x : Except Trouble α) (y : Except Trouble β) (s : σ) :
    Interleaved h (.ofExcept x) (.ofExcept y) s x y s
  | first {a a' : Action α} {b : Action β} {s s' t : σ} {x y} (hstep : a.step? h s = some (a', s'))
    (rest : Interleaved h a' b s' x y t) : Interleaved h a b s x y t
  | second {a : Action α} {b b' : Action β} {s s' t : σ} {x y}
    (hstep : b.step? h s = some (b', s')) (rest : Interleaved h a b' s' x y t) :
    Interleaved h a b s x y t

theorem step?_seq {σ : Type} {h : Host σ} {a a' : Action α} {s s' : σ}
    (ha : a.step? h s = some (a', s')) (f : α → Action β) :
    (a >>= f).step? h s = some (a' >>= f, s') := by
  cases a with
  | done v => cases ha
  | fail e => cases ha
  | call c next =>
    cases ha
    rfl
  | wait ms next =>
    cases ha
    rfl

/-- One call or wait of each of two programs, of the first one first. -/
def Round {σ : Type} (h : Host σ) (p q : Action α × Action β × σ) : Prop :=
  ∃ s, p.1.step? h p.2.2 = some (q.1, s) ∧ p.2.1.step? h s = some q.2

theorem rounds_seq {σ α' β' : Type} {h : Host σ} {a a' : Action α} {b b' : Action β} {s s' : σ}
    (hrounds : Relation.ReflTransGen (Round h) (a, b, s) (a', b', s')) (f : α → Action α')
    (g : β → Action β') :
    Relation.ReflTransGen (Round h) (a >>= f, b >>= g, s) (a' >>= f, b' >>= g, s') := by
  refine hrounds.lift (fun p => (p.1 >>= f, p.2.1 >>= g, p.2.2)) ?_
  rintro p q ⟨t, hfirst, hsecond⟩
  exact ⟨t, step?_seq hfirst f, step?_seq hsecond g⟩

namespace Interleaved

variable {σ : Type} {h : Host σ} {a : Action α} {b : Action β} {s u : σ} {x : Except Trouble α}
  {y : Except Trouble β}

theorem swap (hab : Interleaved h a b s x y u) : Interleaved h b a s y x u := by
  induction hab with
  | ended x y s => exact .ended y x s
  | first hstep _ ih => exact .second hstep ih
  | second hstep _ ih => exact .first hstep ih

theorem of_runs : ∀ (a : Action α) (s : σ),
    Interleaved h a b s (a.run h s).1 (b.run h (a.run h s).2).1 (b.run h (a.run h s).2).2
  | .done v, s => alone (.ok v) b s
  | .fail e, s => alone (.error e) b s
  | .call c next, s => .first rfl (of_runs (next (h.serve c s).1) (h.serve c s).2)
  | .wait ms next, s => .first rfl (of_runs (next (h.pause ms s).1) (h.pause ms s).2)
where
  /-- The second program when the first has ended. -/
  alone (x : Except Trouble α) : ∀ (b : Action β) (s : σ),
    Interleaved h (ofExcept x) b s x (b.run h s).1 (b.run h s).2
  | .done v, s => .ended x (.ok v) s
  | .fail e, s => .ended x (.error e) s
  | .call c next, s => .second rfl (alone x (next (h.serve c s).1) (h.serve c s).2)
  | .wait ms next, s => .second rfl (alone x (next (h.pause ms s).1) (h.pause ms s).2)

theorem of_rounds {p q : Action α × Action β × σ} (hpq : Relation.ReflTransGen (Round h) p q)
    (hq : Interleaved h q.1 q.2.1 q.2.2 x y u) : Interleaved h p.1 p.2.1 p.2.2 x y u := by
  induction hpq using Relation.ReflTransGen.head_induction_on with
  | refl => exact hq
  | head hround _ ih =>
    obtain ⟨s, hfirst, hsecond⟩ := hround
    exact .first hfirst (.second hsecond ih)

end Interleaved

theorem Safe.step {post : Except Trouble α → Memory → Prop} {a a' : Action α} {s s' : Memory}
    (hrely : rely.Closed) (hguar : guar.Closed) (hs : s.Sound) (h : Safe rely guar post a s)
    (hstep : a.step? Memory.host s = some (a', s')) :
    s'.Sound ∧ guar s s' ∧ Safe rely guar post a' s' := by
  cases a with
  | done v => cases hstep
  | fail e => cases hstep
  | call c next =>
    cases hstep
    exact ⟨hs.serve c, h hs s hs (hrely.refl s)⟩
  | wait ms next =>
    cases hstep
    exact ⟨hs, hguar.refl s, h⟩

section Together

variable {rely₁ guar₁ rely₂ guar₂ both : Change} {post₁ : Except Trouble α → Memory → Prop}
  {post₂ : Except Trouble β → Memory → Prop}

/-- **Two programs end as each of them promises**, in whatever order their calls come, when each can
rely on what the other one guarantees. The memory changes only as they guarantee together. -/
theorem Interleaved.ends (hr₁ : rely₁.Closed) (hr₂ : rely₂.Closed) (hg₁ : guar₁.Closed)
    (hg₂ : guar₂.Closed) (hboth : both.Closed) (h₁₂ : ∀ s t, guar₁ s t → rely₂ s t)
    (h₂₁ : ∀ s t, guar₂ s t → rely₁ s t) (hboth₁ : ∀ s t, guar₁ s t → both s t)
    (hboth₂ : ∀ s t, guar₂ s t → both s t)
    (hpost₁ : ∀ x s t, s.Sound → t.Sound → rely₁ s t → post₁ x s → post₁ x t)
    (hpost₂ : ∀ x s t, s.Sound → t.Sound → rely₂ s t → post₂ x s → post₂ x t)
    {a : Action α} {b : Action β} {s t : Memory} {x : Except Trouble α} {y : Except Trouble β}
    (hab : Interleaved Memory.host a b s x y t) (hs : s.Sound) (ha : Safe rely₁ guar₁ post₁ a s)
    (hb : Safe rely₂ guar₂ post₂ b s) : post₁ x t ∧ post₂ y t ∧ both s t := by
  induction hab with
  | ended x y s =>
    refine ⟨?_, ?_, hboth.refl s⟩
    · cases x <;> exact ha hs
    · cases y <;> exact hb hs
  | first hstep rest ih =>
    obtain ⟨hs', hg, ha'⟩ := ha.step hr₁ hg₁ hs hstep
    -- The step of the first program is a change that the second one can rely on.
    have hb' := hb.of_rely hr₂ hpost₂ hs (h₁₂ _ _ hg)
    obtain ⟨hx, hy, hrest⟩ := ih hs' ha' hb'
    exact ⟨hx, hy, hboth.trans (hboth₁ _ _ hg) hrest⟩
  | second hstep rest ih =>
    obtain ⟨hs', hg, hb'⟩ := hb.step hr₂ hg₂ hs hstep
    have ha' := ha.of_rely hr₁ hpost₁ hs (h₂₁ _ _ hg)
    obtain ⟨hx, hy, hrest⟩ := ih hs' ha' hb'
    exact ⟨hx, hy, hboth.trans (hboth₂ _ _ hg) hrest⟩

end Together

end Action

end Workbench
