import Workbench.Proofs.Cluster.Mishaps

/-!
# Programs that keep to some calls

Which calls a program makes is said without the cluster, whatever its calls end in: they are refused,
or served although their answers are lost, and the waits between them are cut short. All that has to
be known of an answer is that an object which was got belongs where it was looked for.

* `Call.Fetches`: what has to be known of an answer;
* `Action.Confined`: all calls of a program are of some kind; `Confined.seq`, `Confined.rescue`,
  `Confined.retrying` and the like compose such programs;
* `Confined.get_seq`, `Confined.find?`, `Confined.createUnlessThere`: programs of a single call;
* **`Confined.run`**: what calls of the kind preserve is preserved by every run.
-/

namespace Workbench

open Doc Memory

/-- An object that was got belongs where it was looked for. -/
def Call.Fetches (c : Call) (r : Except Trouble Doc) : Prop :=
  ∀ a d, c = .get a → a.IsPlain → r = .ok d → addressOf d = .ok a

theorem Served.Happens.fetches {w : Served} (h : w.Happens) (hsound : w.before.Sound) :
    w.call.Fetches w.answer := by
  intro a d hcall ha hanswer
  have hserve := h.serve_of_ok hanswer
  rw [hcall, Memory.serve, fetch_plain ha] at hserve
  have hfound := congrArg Prod.fst hserve
  cases hlookup : w.before.lookup a with
  | none => simp [hlookup] at hfound
  | some found =>
    obtain rfl : found = d := by simpa [hlookup] using hfound
    exact hsound.addressOf_eq ha hlookup

namespace Action

variable {α β : Type} {may may' : Call → Prop}

/-- `may` holds of all calls of the program, whatever they end in. -/
def Confined (may : Call → Prop) : Action α → Prop
  | .done _ => True
  | .fail _ => True
  | .call c next => may c ∧ ∀ r, c.Fetches r → Confined may (next r)
  | .wait _ next => ∀ r, Confined may (next r)

namespace Confined

theorem mono (h : ∀ c, may c → may' c) : ∀ {p : Action α}, Confined may p → Confined may' p
  | .done _, _ => trivial
  | .fail _, _ => trivial
  | .call c _, hp => ⟨h c hp.1, fun r hr => mono h (hp.2 r hr)⟩
  | .wait _ _, hp => fun r => mono h (hp r)

/-! ## Composed programs -/

theorem pure (v : α) : Confined may (pure v : Action α) := trivial

theorem throw (e : Trouble) : Confined may (throw e : Action α) := trivial

theorem ofExcept (x : Except Trouble α) : Confined may (ofExcept x) := by
  cases x <;> trivial

theorem liftM_fault (x : Except Fault α) : Confined may (liftM x : Action α) := ofExcept _

theorem seq {f : α → Action β} (hf : ∀ v, Confined may (f v)) :
    ∀ {p : Action α}, Confined may p → Confined may (p >>= f)
  | .done v, _ => hf v
  | .fail _, _ => trivial
  | .call _ _, hp => ⟨hp.1, fun r hr => seq hf (hp.2 r hr)⟩
  | .wait _ _, hp => fun r => seq hf (hp r)

theorem discard {p : Action α} (hp : Confined may p) : Confined may (discard p) :=
  hp.seq fun _ => pure ()

theorem rescue {f : Trouble → Action α} (hf : ∀ e, Confined may (f e)) :
    ∀ {p : Action α}, Confined may p → Confined may (p.rescue f)
  | .done _, _ => trivial
  | .fail e, _ => hf e
  | .call _ _, hp => ⟨hp.1, fun r hr => rescue hf (hp.2 r hr)⟩
  | .wait _ _, hp => fun r => rescue hf (hp r)

theorem except {p other : Action α} {expected : Trouble → Bool} (hp : Confined may p)
    (hother : Confined may other) : Confined may (except p expected other) := by
  refine hp.rescue fun e => ?_
  split
  · exact hother
  · exact throw e

theorem retrying {again : Trouble → Bool} {p : Action α} (hp : Confined may p) :
    ∀ waits : List Nat, Confined may (retrying again p waits)
  | [] => hp
  | _ :: waits => by
    refine hp.rescue fun e => ?_
    split
    · intro r
      cases r with
      | error e => exact throw e
      | ok _ => exact retrying hp waits
    · exact throw e

/-! ## Single calls -/

section Calls

variable {a : Address} {d : Doc}

theorem perform {c : Call} (h : may c) : Confined may (perform c) := ⟨h, fun r _ => ofExcept r⟩

/-- A program that goes on with an object. -/
theorem get_seq {f : Doc → Action β} (ha : a.IsPlain) (h : may (.get a))
    (hf : ∀ d, addressOf d = .ok a → Confined may (f d)) : Confined may (get a >>= f) := by
  refine ⟨h, fun r hr => ?_⟩
  cases r with
  | error e => exact throw e
  | ok d => exact hf d (hr a d rfl ha rfl)

theorem find? (h : may (.get a)) : Confined may (find? a) :=
  ((perform h).seq fun d => pure (some d)).except (pure none)

theorem exists? (h : may (.get a)) : Confined may (exists? a) :=
  ((perform h).discard.seq fun _ => pure true).except (pure false)

theorem createUnlessThere (h : may (.create d)) : Confined may (createUnlessThere d) :=
  ((perform h).discard.seq fun _ => pure true).except (pure false)

theorem of_gets {P : Address → Prop} (h : ∀ a, may (.get a)) :
    ∀ {p : Action α}, Gets P p → Confined may p
  | .done _, _ => trivial
  | .fail _, _ => trivial
  | .call _ _, hp => by
    obtain ⟨⟨a, rfl, -⟩, hnext⟩ := hp
    exact ⟨h a, fun r _ => of_gets h (hnext r)⟩
  | .wait _ _, hp => fun r => of_gets h (hp r)

end Calls

/-! ## Runs -/

/-- **What calls of the kind preserve is preserved by every run**, and the run makes no others. -/
theorem run {mishaps : Nat → Mishap} {inv : Memory → Prop} (hsound : ∀ m, inv m → m.Sound)
    (hstep : ∀ w : Served, w.Happens → may w.call → inv w.before → inv w.after) :
    ∀ {p : Action α} {s t : Shared} {x : Except Trouble α}, Confined may p → inv s.memory →
      p.run (Shared.alone mishaps) s = (x, t) → inv t.memory ∧
        ∃ l, t.log = s.log ++ l ∧ ∀ w ∈ l, w.Happens ∧ may w.call ∧ inv w.before
  | .done _, _, _, _, _, hs, hrun => by
    cases hrun
    exact ⟨hs, [], (List.append_nil _).symm, fun _ hw => absurd hw List.not_mem_nil⟩
  | .fail _, _, _, _, _, hs, hrun => by
    cases hrun
    exact ⟨hs, [], (List.append_nil _).symm, fun _ hw => absurd hw List.not_mem_nil⟩
  | .call c next, s, t, x, hp, hs, hrun => by
    let w := s.nextAlone mishaps c
    have hhappens : w.Happens := s.nextAlone_happens mishaps c
    have hcall : w.call = c := Shared.nextAlone_call
    have hmay : may w.call := hcall ▸ hp.1
    have hmemory : w.before = s.memory := Shared.nextAlone_before
    have hbefore : inv w.before := hmemory ▸ hs
    have hfetches := hhappens.fetches (hsound _ hbefore)
    rw [hcall] at hfetches
    have hrest : (next w.answer).run (Shared.alone mishaps) (s.note w) = (x, t) := hrun
    obtain ⟨hend, l, hlog, hl⟩ :=
      run hsound hstep (hp.2 w.answer hfetches) (hstep w hhappens hmay hbefore) hrest
    refine ⟨hend, w :: l, ?_, List.forall_mem_cons.mpr ⟨⟨hhappens, hmay, hbefore⟩, hl⟩⟩
    rw [hlog, Shared.note, List.append_assoc, List.singleton_append]
  | .wait _ next, s, _, _, hp, hs, hrun => run hsound hstep (p := next _) (hp _) hs hrun

end Confined

end Action

end Workbench
