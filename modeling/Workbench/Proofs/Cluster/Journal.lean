import Workbench.Proofs.Cluster.Run

/-!
# Journals, and programs that give up

A journal lists the calls that reached a cluster and the waits that came to their end, whatever the
host does besides. It tells what a program did with the trouble that it met.

* `Entry`, `Journal`, `Host.journaled`: a call or a wait with the states around it, a list of them
  beside the state, and the host that keeps the list; `run_journaled` says that it changes nothing
  else;
* `Action.GivesUpOn`: a program that ends with every trouble of some kind that a call or a wait of it
  meets; `GivesUpOn.seq`, `GivesUpOn.except`, `GivesUpOn.retrying` and the like compose such programs;
* **`GivesUpOn.run`**: the journal of a run tells whether it met such trouble, and the run ended
  with it then.
-/

namespace Workbench

/-! ## Journals -/

/-- A call that was answered, or a wait that is over, with the states before and after. -/
inductive Entry (σ : Type) where
  | served (call : Call) (before : σ) (answer : Except Trouble Doc) (after : σ)
  | paused (ms : Nat) (before : σ) (answer : Except Trouble Unit) (after : σ)

/-- A state, and what has led to it. -/
structure Journal (σ : Type) where
  state : σ
  entries : List (Entry σ) := []

/-- A host that keeps a journal. -/
def Host.journaled {σ : Type} (h : Host σ) : Host (Journal σ) where
  serve c j :=
    let (r, s) := h.serve c j.state
    (r, ⟨s, j.entries ++ [.served c j.state r s]⟩)
  pause ms j :=
    let (r, s) := h.pause ms j.state
    (r, ⟨s, j.entries ++ [.paused ms j.state r s]⟩)

/-- The entry ended in trouble that `fatal` holds of. -/
def Entry.EndsIn {σ : Type} (fatal : Option Call → Trouble → Prop) (t : Trouble) : Entry σ → Prop
  | .served c _ r _ => r = .error t ∧ fatal (some c) t
  | .paused _ _ r _ => r = .error t ∧ fatal none t

namespace Action

variable {α β σ : Type} {h : Host σ}

/-- A journal makes no difference to a run. -/
theorem run_journaled : ∀ (a : Action α) (j : Journal σ),
    (a.run h j.state) = ((a.run h.journaled j).1, (a.run h.journaled j).2.state)
  | .done _, _ => rfl
  | .fail _, _ => rfl
  | .call c next, j => run_journaled (next (h.serve c j.state).1) (h.journaled.serve c j).2
  | .wait ms next, j => run_journaled (next (h.pause ms j.state).1) (h.journaled.pause ms j).2

/-! ## Programs that give up -/

/-- The program ends with the trouble of a call when `fatal` holds of the two, and with the trouble of
a wait when `fatal` holds of it: nothing takes over. -/
def GivesUpOn (fatal : Option Call → Trouble → Prop) : Action α → Prop
  | .done _ => True
  | .fail _ => True
  | .call c next => (∀ t, fatal (some c) t → next (.error t) = .fail t) ∧
    ∀ r, GivesUpOn fatal (next r)
  | .wait _ next => (∀ t, fatal none t → next (.error t) = .fail t) ∧
    ∀ r, GivesUpOn fatal (next r)

namespace GivesUpOn

variable {fatal : Option Call → Trouble → Prop}

theorem pure (v : α) : GivesUpOn fatal (pure v : Action α) := trivial

theorem throw (t : Trouble) : GivesUpOn fatal (throw t : Action α) := trivial

theorem ofExcept (x : Except Trouble α) : GivesUpOn fatal (ofExcept x) := by
  cases x <;> trivial

theorem liftM_trouble (x : Except Trouble α) : GivesUpOn fatal (liftM x : Action α) := ofExcept x

theorem liftM_fault (x : Except Fault α) : GivesUpOn fatal (liftM x : Action α) := ofExcept _

theorem perform (c : Call) : GivesUpOn fatal (perform c) := ⟨fun _ _ => rfl, ofExcept⟩

theorem seq {f : α → Action β} (hf : ∀ v, GivesUpOn fatal (f v)) :
    ∀ {a : Action α}, GivesUpOn fatal a → GivesUpOn fatal (a >>= f)
  | .done v, _ => hf v
  | .fail _, _ => trivial
  | .call _ _, ⟨hend, hnext⟩ =>
    ⟨fun t ht => congrArg (Action.bind · f) (hend t ht), fun r => seq hf (hnext r)⟩
  | .wait _ _, ⟨hend, hnext⟩ =>
    ⟨fun t ht => congrArg (Action.bind · f) (hend t ht), fun r => seq hf (hnext r)⟩

theorem discard {a : Action α} (ha : GivesUpOn fatal a) : GivesUpOn fatal (discard a) :=
  ha.seq fun _ => pure ()

theorem rescue {f : Trouble → Action α} (hf : ∀ t, GivesUpOn fatal (f t))
    (hfatal : ∀ c t, fatal c t → f t = .fail t) :
    ∀ {a : Action α}, GivesUpOn fatal a → GivesUpOn fatal (a.rescue f)
  | .done _, _ => trivial
  | .fail t, _ => hf t
  | .call _ _, ⟨hend, hnext⟩ =>
    ⟨fun t ht => (congrArg (Action.rescue · f) (hend t ht)).trans (hfatal _ t ht),
      fun r => rescue hf hfatal (hnext r)⟩
  | .wait _ _, ⟨hend, hnext⟩ =>
    ⟨fun t ht => (congrArg (Action.rescue · f) (hend t ht)).trans (hfatal _ t ht),
      fun r => rescue hf hfatal (hnext r)⟩

section Expected

variable {a other : Action α} {expected : Trouble → Bool}

theorem except (hexpected : ∀ c t, fatal c t → expected t = false) (ha : GivesUpOn fatal a)
    (hother : GivesUpOn fatal other) : GivesUpOn fatal (except a expected other) := by
  refine rescue (fun t => ?_) (fun c t ht => ?_) ha
  · split
    · exact hother
    · exact throw t
  · rw [hexpected c t ht]
    rfl

theorem retrying (hexpected : ∀ c t, fatal c t → expected t = false) (ha : GivesUpOn fatal a) :
    ∀ waits, GivesUpOn fatal (retrying expected a waits)
  | [] => ha
  | ms :: waits => by
    have hpause : GivesUpOn fatal (pause ms) := ⟨fun _ _ => rfl, ofExcept⟩
    refine rescue (fun t => ?_) (fun c t ht => ?_) ha
    · split
      · exact hpause.seq fun _ => retrying hexpected ha waits
      · exact throw t
    · rw [hexpected c t ht]
      rfl

end Expected

/-! ### Programs of a single call -/

theorem find? {a : Address} (h : ∀ t, fatal (some (.get a)) t → t.isNotFound = false) :
    GivesUpOn fatal (find? a) := by
  refine ⟨fun t ht => if_neg (by simp [h t ht]), fun r => ?_⟩
  cases r with
  | ok d => exact pure (some d)
  | error t =>
    change GivesUpOn fatal (if t.isNotFound = true then Pure.pure none else .fail t)
    split
    · exact pure none
    · exact throw t

theorem exists? {a : Address} (h : ∀ t, fatal (some (.get a)) t → t.isNotFound = false) :
    GivesUpOn fatal (exists? a) := by
  refine ⟨fun t ht => if_neg (by simp [h t ht]), fun r => ?_⟩
  cases r with
  | ok d => exact pure true
  | error t =>
    change GivesUpOn fatal (if t.isNotFound = true then Pure.pure false else .fail t)
    split
    · exact pure false
    · exact throw t

theorem createUnlessThere {d : Doc} (h : ∀ c t, fatal c t → t.isConflict = false) :
    GivesUpOn fatal (createUnlessThere d) :=
  except h ((perform _).discard.seq fun _ => pure true) (pure false)

/-! ### Runs -/

/-- **A run that met fatal trouble ended with it.** -/
theorem run : ∀ {a : Action α} {j j' : Journal σ} {x : Except Trouble α}, GivesUpOn fatal a →
    a.run h.journaled j = (x, j') →
      ∃ es, j'.entries = j.entries ++ es ∧ ∀ e ∈ es, ∀ t, e.EndsIn fatal t → x = .error t
  | .done _, _, _, _, _, hrun => by
    cases hrun
    exact ⟨[], (List.append_nil _).symm, fun _ he => absurd he List.not_mem_nil⟩
  | .fail _, _, _, _, _, hrun => by
    cases hrun
    exact ⟨[], (List.append_nil _).symm, fun _ he => absurd he List.not_mem_nil⟩
  | .call c next, j, j', x, ⟨hend, hnext⟩, hrun => by
    obtain ⟨es, hes, htrouble⟩ := run (hnext _) hrun
    refine ⟨_ :: es, hes.trans (List.append_assoc _ [_] es), List.forall_mem_cons.mpr ⟨?_, htrouble⟩⟩
    rintro t ⟨hanswer, ht⟩
    -- Nothing takes over from the trouble of this call.
    have hrest : (next (h.journaled.serve c j).1).run h.journaled _ = (x, j') := hrun
    rw [show (h.journaled.serve c j).1 = .error t from hanswer, hend t ht] at hrest
    exact (congrArg Prod.fst hrest).symm
  | .wait ms next, j, j', x, ⟨hend, hnext⟩, hrun => by
    obtain ⟨es, hes, htrouble⟩ := run (hnext _) hrun
    refine ⟨_ :: es, hes.trans (List.append_assoc _ [_] es), List.forall_mem_cons.mpr ⟨?_, htrouble⟩⟩
    rintro t ⟨hanswer, ht⟩
    have hrest : (next (h.journaled.pause ms j).1).run h.journaled _ = (x, j') := hrun
    rw [show (h.journaled.pause ms j).1 = .error t from hanswer, hend t ht] at hrest
    exact (congrArg Prod.fst hrest).symm

end GivesUpOn

end Action

end Workbench
