import Workbench.Proofs.Cluster.Shared

/-!
# A cluster whose calls go wrong

Nobody else writes to the cluster, but any call of a run may end in any trouble, and any wait may end
early. A call that ends in trouble may have been served even so. What the cluster says about an object
that is there, or is not, is true.

* `Mishap`, `Shared.alone`: what goes wrong, and the memory as a host on which it does;
* `Served.Happens`, `Served.IsHonest`: the calls that may take place, and the answers that are true;
* `Shared.run_find?_alone`: what a look for an object finds there;
* `Action.Upholds`: whatever goes wrong, the calls of a program are of some kind, and it ends as
  promised when it ends with a value; `Upholds.seq`, `Upholds.kept` and the like compose such
  promises;
* **`Upholds.run`**: what is promised holds of every run;
* `Upholds.find?_seq`, `Upholds.createUnlessThere` and the like: single calls.
-/

namespace Workbench

open Doc Memory

/-! ## The host -/

/-- What goes wrong at a call: the trouble that it ends in, and whether it has been served even so.
A wait before the call ends as `wait` says. -/
structure Mishap where
  trouble : Option Trouble := none
  isServed : Bool := false
  wait : Except Trouble Unit := .ok ()

namespace Shared

variable {mishaps : Nat → Mishap} {s : Shared} {c : Call}

/-- The next call. -/
def nextAlone (mishaps : Nat → Mishap) (c : Call) (s : Shared) : Served :=
  let mishap := mishaps s.log.length
  match mishap.trouble with
  | none => ⟨c, s.memory, (s.memory.serve c).1, (s.memory.serve c).2⟩
  | some e => ⟨c, s.memory, .error e, if mishap.isServed then (s.memory.serve c).2 else s.memory⟩

/-- A memory that nobody else writes to. `mishaps` says what goes wrong at each call of a run. -/
def alone (mishaps : Nat → Mishap) : Host Shared where
  serve c s := ((s.nextAlone mishaps c).answer, s.note (s.nextAlone mishaps c))
  pause _ s := ((mishaps s.log.length).wait, s)

theorem nextAlone_call : (s.nextAlone mishaps c).call = c := by
  unfold nextAlone
  dsimp only
  split <;> rfl

theorem nextAlone_before : (s.nextAlone mishaps c).before = s.memory := by
  unfold nextAlone
  dsimp only
  split <;> rfl

theorem run_discard_alone : (discard (Action.perform c)).run (alone mishaps) s =
    ((s.nextAlone mishaps c).answer.map fun _ => (), s.note (s.nextAlone mishaps c)) := by
  change Action.run _ (Action.bind (Action.ofExcept (s.nextAlone mishaps c).answer) _) _ = _
  cases (s.nextAlone mishaps c).answer <;> rfl

theorem log_alone {α : Type} : ∀ {a : Action α} {s t : Shared} {x : Except Trouble α},
    a.run (alone mishaps) s = (x, t) → s.log <+: t.log
  | .done _, _, _, _, hrun => by
    cases hrun
    exact List.prefix_rfl
  | .fail _, _, _, _, hrun => by
    cases hrun
    exact List.prefix_rfl
  | .call _ next, _, _, _, hrun =>
    (List.prefix_append _ _).trans (log_alone (a := next _) hrun)
  | .wait _ next, _, _, _, hrun => log_alone (a := next _) hrun

end Shared

/-! ## Calls and answers -/

/-- A call that takes place: it is served and answered, or its answer is lost, or it is refused. -/
inductive Served.Happens : Served → Prop where
  | served (m : Memory) (c : Call) : Happens ⟨c, m, (m.serve c).1, (m.serve c).2⟩
  | lost (m : Memory) (c : Call) (e : Trouble) : Happens ⟨c, m, .error e, (m.serve c).2⟩
  | refused (m : Memory) (c : Call) (e : Trouble) : Happens ⟨c, m, .error e, m⟩

theorem Served.Happens.after_eq {w : Served} (h : w.Happens) :
    w.after = w.before ∨ w.after = (w.before.serve w.call).2 := by
  cases h with
  | served m c => exact .inr rfl
  | lost m c e => exact .inr rfl
  | refused m c e => exact .inl rfl

theorem Served.Happens.serve_of_ok {w : Served} (h : w.Happens) {d : Doc} (hd : w.answer = .ok d) :
    w.before.serve w.call = (.ok d, w.after) := by
  cases h with
  | served m c =>
    rw [← hd]
  | lost m c e => cases hd
  | refused m c e => cases hd

theorem Shared.nextAlone_happens (mishaps : Nat → Mishap) (s : Shared) (c : Call) :
    (s.nextAlone mishaps c).Happens := by
  unfold nextAlone
  dsimp only
  split
  · exact .served s.memory c
  · split
    · exact .lost s.memory c _
    · exact .refused s.memory c _

/-- A look for an object changes nothing, and finds no other one than the one that is there. -/
theorem Shared.run_find?_alone (mishaps : Nat → Mishap) {a : Address} (ha : a.IsPlain) (s : Shared) :
    ∃ w x, w.after = w.before ∧ w.before = s.memory ∧
      (Action.find? a).run (alone mishaps) s = (x, s.note w) ∧
        ∀ d, x = .ok (some d) → s.memory.lookup a = some d := by
  have hhappens := s.nextAlone_happens mishaps (.get a)
  have hcall : (s.nextAlone mishaps (.get a)).call = .get a := nextAlone_call
  have hbefore : (s.nextAlone mishaps (.get a)).before = s.memory := nextAlone_before
  have hafter : (s.nextAlone mishaps (.get a)).after = (s.nextAlone mishaps (.get a)).before := by
    rcases hhappens.after_eq with hsame | hserved
    · exact hsame
    · rw [hserved, hcall]
      rfl
  have hget : (Action.get a).run (alone mishaps) s =
      ((s.nextAlone mishaps (.get a)).answer, s.note (s.nextAlone mishaps (.get a))) :=
    Action.run_ofExcept _
  rw [Action.find?, Action.except, Action.run_rescue, map_eq_pure_bind, Action.run_seq, hget]
  cases hanswer : (s.nextAlone mishaps (.get a)).answer with
  | ok d =>
    refine ⟨_, _, hafter, hbefore, rfl, fun d' hd => ?_⟩
    cases hd
    have hfound := congrArg Prod.fst (hhappens.serve_of_ok hanswer)
    rw [hcall, hbefore, Memory.serve, fetch_plain ha] at hfound
    cases hlookup : s.memory.lookup a <;> simp_all
  | error e =>
    dsimp only
    split
    · exact ⟨_, _, hafter, hbefore, rfl, fun _ h => by cases h⟩
    · exact ⟨_, _, hafter, hbefore, rfl, fun _ h => by cases h⟩

/-- What the answer says about an object is true: one that is not found is not there, and one that is
in the way is. -/
structure Served.IsHonest (w : Served) : Prop where
  notFound : ∀ a e, w.call = .get a → w.answer = .error e → e.isNotFound = true →
    w.before.lookup a = none
  conflict : ∀ d e, w.call = .create d → w.answer = .error e → e.isConflict = true →
    ∃ a, addressOf d = .ok a ∧ (w.after.lookup a).isSome

theorem find?_cases (m : Memory) (a : Address) :
    m.find? a = .ok (m.lookup a) ∨ ∃ f, m.find? a = .error f := by
  unfold Memory.find?
  cases a.check with
  | ok _ => exact .inl rfl
  | error f => exact .inr ⟨f, rfl⟩

theorem Served.isHonest_served (m : Memory) (c : Call) :
    IsHonest ⟨c, m, (m.serve c).1, (m.serve c).2⟩ := by
  constructor
  · rintro a e (rfl : c = .get a) (hanswer : m.fetch "get" a = .error e) hmissing
    change m.lookup a = none
    unfold fetch at hanswer
    rcases find?_cases m a with hfind | ⟨f, hfind⟩ <;> rw [hfind] at hanswer
    · cases hlookup : m.lookup a with
      | none => rfl
      | some d =>
        rw [hlookup] at hanswer
        cases hanswer
    · cases hanswer
      cases hmissing
  · rintro d e (rfl : c = .create d) (hanswer : (m.write (m.checkCreate d)).1 = .error e) hconflict
    cases hcheck : m.checkCreate d with
    | ok d' =>
      -- A document that cannot be kept is no conflict.
      rw [hcheck] at hanswer
      obtain ⟨f, hf⟩ : ∃ f, (m.put d').1 = .error f := by
        cases hput : (m.put d').1 with
        | error f => exact ⟨f, rfl⟩
        | ok e' => simp [Memory.write, hput, Except.mapError] at hanswer
      simp only [Memory.write, hf, Except.mapError, Except.error.injEq] at hanswer
      subst hanswer
      cases hconflict
    | error e' =>
      have hafter : (m.serve (.create d)).2 = m := by rw [Memory.serve, hcheck]; rfl
      rw [hcheck] at hanswer
      cases hanswer
      unfold checkCreate at hcheck
      cases haddress : addressOf d with
      | error f =>
        rw [haddress] at hcheck
        cases hcheck
        cases hconflict
      | ok a =>
        refine ⟨a, rfl, ?_⟩
        rw [hafter]
        rw [haddress] at hcheck
        change (liftM (m.find? a) >>= _ : Except Trouble Doc) = _ at hcheck
        rcases find?_cases m a with hfind | ⟨f, hfind⟩ <;> rw [hfind] at hcheck
        · cases hlookup : m.lookup a with
          | some _ => rfl
          | none =>
            rw [hlookup] at hcheck
            cases hcheck
        · cases hcheck
          cases hconflict

theorem Shared.isHonest_nextAlone {mishaps : Nat → Mishap}
    (h : ∀ n e, (mishaps n).trouble = some e → e.isNotFound = false ∧ e.isConflict = false)
    (s : Shared) (c : Call) : (s.nextAlone mishaps c).IsHonest := by
  unfold nextAlone
  dsimp only
  cases htrouble : (mishaps s.log.length).trouble with
  | none => exact Served.isHonest_served s.memory c
  | some e =>
    obtain ⟨hmissing, hconflict⟩ := h _ e htrouble
    constructor
    · rintro a e' - he hmissing'
      cases he
      cases hmissing.symm.trans hmissing'
    · rintro d e' - he hconflict'
      cases he
      cases hconflict.symm.trans hconflict'

theorem Shared.isHonest_alone {α : Type} {mishaps : Nat → Mishap}
    (h : ∀ n e, (mishaps n).trouble = some e → e.isNotFound = false ∧ e.isConflict = false) :
    ∀ {a : Action α} {s t : Shared} {x : Except Trouble α}, a.run (Shared.alone mishaps) s = (x, t) →
      (∀ w ∈ s.log, w.IsHonest) → ∀ w ∈ t.log, w.IsHonest
  | .done _, _, _, _, hrun, hs => by
    cases hrun
    exact hs
  | .fail _, _, _, _, hrun, hs => by
    cases hrun
    exact hs
  | .call c next, s, _, _, hrun, hs => by
    refine isHonest_alone h (a := next _) hrun fun w hw => ?_
    rcases List.mem_append.mp hw with hw | hw
    · exact hs w hw
    · rw [List.mem_singleton.mp hw]
      exact s.isHonest_nextAlone h c
  | .wait _ next, _, _, _, hrun, hs => isHonest_alone h (a := next _) hrun hs

/-! ## Programs -/

namespace Action

variable {α β : Type} {may may' : Call → Prop} {post : α → Memory → Prop} {p : α → Memory → Prop}
  {last : β → Memory → Prop} {m : Memory}

/-- Whatever goes wrong, the calls of the program are such that `may` holds of them, and the program
ends as `post` says when it ends with a value. -/
def Upholds (may : Call → Prop) (post : α → Memory → Prop) : Action α → Memory → Prop
  | .done v, m => post v m
  | .fail _, _ => True
  | .call c next, m => may c ∧ ∀ w : Served, w.Happens → w.IsHonest → w.call = c → w.before = m →
    Upholds may post (next w.answer) w.after
  | .wait _ next, m => ∀ r, Upholds may post (next r) m

namespace Upholds

/-! ### Promises -/

theorem mono (hmay : ∀ c, may c → may' c) {post' : α → Memory → Prop}
    (hpost : ∀ v t, post v t → post' v t) :
    ∀ {a : Action α} {m : Memory}, Upholds may post a m → Upholds may' post' a m
  | .done v, m, h => hpost v m h
  | .fail _, _, _ => trivial
  | .call c _, _, h => ⟨hmay c h.1, fun w hw hhonest hcall hbefore =>
      mono hmay hpost (h.2 w hw hhonest hcall hbefore)⟩
  | .wait _ _, _, h => fun r => mono hmay hpost (h r)

theorem weaken {post' : α → Memory → Prop} (hpost : ∀ v t, post v t → post' v t) {a : Action α}
    (h : Upholds may post a m) : Upholds may post' a m := mono (fun _ => id) hpost h

/-- A program promises what all of its calls keep. -/
theorem kept {kept : Change} (hkept : kept.Closed)
    (hcall : ∀ w : Served, w.Happens → may w.call → kept w.before w.after) :
    ∀ {a : Action α} {s m : Memory}, kept s m → Upholds may post a m →
      Upholds may (fun v t => post v t ∧ kept s t) a m
  | .done _, _, _, hs, h => ⟨h, hs⟩
  | .fail _, _, _, _, _ => trivial
  | .call _ _, _, _, hs, h => by
    refine ⟨h.1, fun w hw hhonest hc hbefore => ?_⟩
    have hstep := hcall w hw (hc ▸ h.1)
    rw [hbefore] at hstep
    exact Upholds.kept hkept hcall (hkept.trans hs hstep) (h.2 w hw hhonest hc hbefore)
  | .wait _ _, _, _, hs, h => fun r => Upholds.kept hkept hcall hs (h r)

/-! ### Composed programs -/

theorem pure {v : α} (h : post v m) : Upholds may post (pure v) m := h

theorem throw (e : Trouble) : Upholds may post (throw e) m := trivial

theorem liftM_fault {x : Except Fault α} (h : ∀ v, x = .ok v → post v m) :
    Upholds may post (liftM x) m := by
  cases x with
  | error _ => trivial
  | ok v => exact h v rfl

theorem liftM_any (x : Except Fault α) : Upholds may (fun _ _ => True) (liftM x) m :=
  liftM_fault fun _ _ => trivial

theorem seq {f : α → Action β} (hf : ∀ v t, p v t → Upholds may last (f v) t) :
    ∀ {a : Action α} {m : Memory}, Upholds may p a m → Upholds may last (a >>= f) m
  | .done v, m, h => hf v m h
  | .fail _, _, _ => trivial
  | .call _ _, _, h => ⟨h.1, fun w hw hhonest hc hbefore => seq hf (h.2 w hw hhonest hc hbefore)⟩
  | .wait _ _, _, h => fun r => seq hf (h r)

theorem discard {post : Memory → Prop} {a : Action α} (h : Upholds may (fun _ t => post t) a m) :
    Upholds may (fun _ t => post t) (discard a) m := h.seq fun _ _ => id

theorem rescue {f : Trouble → Action α} (hf : ∀ e t, Upholds may post (f e) t) :
    ∀ {a : Action α} {m : Memory}, Upholds may post a m → Upholds may post (a.rescue f) m
  | .done _, _, h => h
  | .fail e, m, _ => hf e m
  | .call _ _, _, h => ⟨h.1, fun w hw hhonest hc hbefore => rescue hf (h.2 w hw hhonest hc hbefore)⟩
  | .wait _ _, _, h => fun r => rescue hf (h r)

theorem except {a other : Action α} {expected : Trouble → Bool} (h : Upholds may post a m)
    (hother : ∀ t, Upholds may post other t) : Upholds may post (except a expected other) m := by
  refine h.rescue fun e t => ?_
  split
  · exact hother t
  · exact throw e

theorem retrying {again : Trouble → Bool} {a : Action α} (h : ∀ t, Upholds may post a t) :
    ∀ (waits : List Nat) {m : Memory}, Upholds may post (retrying again a waits) m
  | [], m => h m
  | ms :: waits, m => by
    refine (h m).rescue fun e t => ?_
    split
    · refine fun r => ?_
      cases r with
      | error e => trivial
      | ok _ => exact retrying h waits
    · exact throw e

/-! ### Runs -/

/-- **What is promised holds of every run** whose answers are honest. -/
theorem run {mishaps : Nat → Mishap} : ∀ {a : Action α} {s t : Shared} {x : Except Trouble α},
    Upholds may post a s.memory → a.run (Shared.alone mishaps) s = (x, t) →
      (∀ w ∈ t.log, w.IsHonest) → (∀ v, x = .ok v → post v t.memory) ∧
        ∃ l, t.log = s.log ++ l ∧ ∀ w ∈ l, may w.call
  | .done v, s, t, x, h, hrun, _ => by
    cases hrun
    refine ⟨fun _ hv => ?_, [], (List.append_nil _).symm, fun _ hw => absurd hw List.not_mem_nil⟩
    cases hv
    exact h
  | .fail e, s, t, x, _, hrun, _ => by
    cases hrun
    exact ⟨fun _ hv => (by cases hv), [], (List.append_nil _).symm,
      fun _ hw => absurd hw List.not_mem_nil⟩
  | .call c next, s, t, x, h, hrun, hhonest => by
    let w := s.nextAlone mishaps c
    have hrest : (next w.answer).run (Shared.alone mishaps) (s.note w) = (x, t) := hrun
    have hw : w ∈ t.log := (Shared.log_alone hrest).subset (by simp [Shared.note])
    obtain ⟨hpost, l, hl, hmay⟩ := run (a := next w.answer) (s := s.note w)
      (h.2 w (s.nextAlone_happens mishaps c) (hhonest w hw) Shared.nextAlone_call
        Shared.nextAlone_before) hrest hhonest
    refine ⟨hpost, w :: l, by rw [hl]; simp [Shared.note], List.forall_mem_cons.mpr ⟨?_, hmay⟩⟩
    rw [show w.call = c from Shared.nextAlone_call]
    exact h.1
  | .wait _ next, s, t, x, h, hrun, hhonest => run (a := next _) (h _) hrun hhonest

/-! ### Single calls -/

section Calls

variable {a : Address} {d : Doc}

theorem get_next {next : Except Trouble Doc → Action α} (ha : a.IsPlain) (hmay : may (.get a))
    (hok : ∀ d, m.lookup a = some d → Upholds may post (next (.ok d)) m)
    (herror : ∀ e, (e.isNotFound = true → m.lookup a = none) → Upholds may post (next (.error e)) m) :
    Upholds may post (.call (.get a) next) m := by
  refine ⟨hmay, fun w hw hhonest hcall hbefore => ?_⟩
  have hmissing := hhonest.notFound a
  cases hw with
  | served m' c =>
    obtain rfl : c = .get a := hcall
    obtain rfl : m' = m := hbefore
    change Upholds may post (next (m'.fetch "get" a)) m'
    rw [fetch_plain ha]
    cases hlookup : m'.lookup a with
    | some d => exact hok d hlookup
    | none => exact herror _ fun _ => hlookup
  | lost m' c e =>
    obtain rfl : c = .get a := hcall
    obtain rfl : m' = m := hbefore
    exact herror e (hmissing e rfl rfl)
  | refused m' c e =>
    obtain rfl : c = .get a := hcall
    obtain rfl : m' = m := hbefore
    exact herror e (hmissing e rfl rfl)

theorem find?_seq {f : Option Doc → Action α} (ha : a.IsPlain) (hmay : may (.get a))
    (h : ∀ found, m.lookup a = found → Upholds may post (f found) m) :
    Upholds may post (find? a >>= f) m := by
  refine get_next ha hmay (fun d hd => h _ hd) fun e he => ?_
  change Upholds may post ((if e.isNotFound = true then (Pure.pure none : Action (Option Doc))
    else fail e) >>= f) m
  split
  · next hnone => exact h none (he hnone)
  · trivial

theorem exists?_seq {f : Bool → Action α} (ha : a.IsPlain) (hmay : may (.get a))
    (h : Upholds may post (f (m.lookup a).isSome) m) :
    Upholds may post (exists? a >>= f) m := by
  refine get_next ha hmay (fun d hd => ?_) fun e he => ?_
  · rw [hd] at h
    exact h
  change Upholds may post ((if e.isNotFound = true then (Pure.pure false : Action Bool)
    else fail e) >>= f) m
  split
  · next hnone =>
    rw [he hnone] at h
    exact h
  · trivial

/-- A new object is there afterwards, whoever has made it. -/
theorem createUnlessThere (ha : a.IsPlain) (hd : addressOf d = .ok a) (hmay : may (.create d)) :
    Upholds may (fun _ t => (t.lookup a).isSome) (createUnlessThere d) m := by
  refine ⟨hmay, fun w hw hhonest hcall hbefore => ?_⟩
  cases hanswer : w.answer with
  | ok e =>
    have hserve := hw.serve_of_ok hanswer
    rw [hcall] at hserve
    obtain ⟨-, -, hkept, -⟩ := serve_create_eq_ok ha hd hserve
    change (w.after.lookup a).isSome
    rw [hkept, Option.isSome_some]
  | error e =>
    change Upholds may _ (if e.isConflict = true then (Pure.pure false : Action Bool) else fail e) _
    split
    · next hconflict =>
      obtain ⟨b, hb, hthere⟩ := hhonest.conflict d e hcall hanswer hconflict
      cases hd.symm.trans hb
      exact hthere
    · trivial

theorem of_gets {P : Address → Prop} (hmay : ∀ a, may (.get a)) :
    ∀ {a : Action α} {m : Memory}, Gets P a → Upholds may (fun _ _ => True) a m
  | .done _, _, _ => trivial
  | .fail _, _, _ => trivial
  | .call _ _, _, h => by
    obtain ⟨⟨a, rfl, -⟩, hnext⟩ := h
    exact ⟨hmay a, fun w _ _ _ _ => of_gets hmay (hnext w.answer)⟩
  | .wait _ _, _, h => fun r => of_gets hmay (h r)

theorem perform {c : Call} (hmay : may c) : Upholds may (fun _ _ => True) (perform c) m := by
  refine ⟨hmay, fun w _ _ _ _ => ?_⟩
  cases w.answer <;> trivial

end Calls

end Upholds

end Action

end Workbench
