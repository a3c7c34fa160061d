import Workbench.Proofs.Cluster.Dated
import Workbench.Proofs.Cluster.Reads

/-!
# A cluster that others write to

Between two calls of a run, other clients may do anything: create, update, patch and remove whatever
they like. A run is followed call by call, with the memories around each call.

* `Meanwhile`, `Served`, `Shared`, `Shared.host`: what the others do, a call with the memories around
  it, the memory with a record of the calls of the run, and the host that puts all this together;
* `Served.isWrite`, `Shared.writes`: the calls of the run that could write and were not refused;
  `Served.IsTrue.unchanged` says that no other call changes anything;
* `Shared.Goes`: a part of a run with some writes;
* `run_get`, `run_find?`, `run_createUnlessThere`, `run_update`: single calls;
* **`run_retrying`**: a program that writes once, or fails and has not written, does so when it is
  tried again.
-/

namespace Workbench

open Doc Memory

/-! ## The host -/

/-- The memory after some calls. -/
def Memory.serveAll (m : Memory) (cs : List Call) : Memory := cs.foldl (fun m c => (m.serve c).2) m

/-- What happens just before a call: what other clients ask of the cluster, the trouble that the call
itself is in then, and the end of a wait before it. -/
structure Meanwhile where
  calls : List Call := []
  trouble : Option Trouble := none
  wait : Except Trouble Unit := .ok ()

/-- A call of a run and its answer, with the memories right before and right after it. -/
structure Served where
  call : Call
  before : Memory
  answer : Except Trouble Doc
  after : Memory

/-- The call is one that writes, and was not refused. -/
def Served.isWrite (w : Served) : Bool := !w.call.isRead && w.answer.isOk

/-- A memory that others use as well, and the calls of a run on it. -/
structure Shared where
  memory : Memory
  log : List Served := []

namespace Shared

/-- The memory that the next call meets. -/
def met (others : Nat → Meanwhile) (s : Shared) : Memory :=
  s.memory.serveAll (others s.log.length).calls

/-- The next call. -/
def next (others : Nat → Meanwhile) (c : Call) (s : Shared) : Served :=
  let before := s.met others
  match (others s.log.length).trouble with
  | some t => ⟨c, before, .error t, before⟩
  | none => ⟨c, before, (before.serve c).1, (before.serve c).2⟩

/-- The memory after a call, and the call noted. -/
def note (s : Shared) (w : Served) : Shared := ⟨w.after, s.log ++ [w]⟩

/-- A memory that others write to between the calls of a run: `others` says what they do before each
of its calls. -/
def host (others : Nat → Meanwhile) : Host Shared where
  serve c s := ((s.next others c).answer, s.note (s.next others c))
  pause _ s := ((others s.log.length).wait, s)

/-- The calls of the run that wrote. -/
def writes (s : Shared) : List Served := s.log.filter Served.isWrite

end Shared

/-! ## Single calls -/

/-- Every object is kept where it belongs, and the versions count the writes. -/
structure Memory.Orderly (m : Memory) : Prop where
  sound : m.Sound
  dated : m.Dated

theorem Memory.Orderly.serve {m : Memory} (hm : m.Orderly) (c : Call) : (m.serve c).2.Orderly :=
  ⟨hm.sound.serve c, hm.dated.serve c⟩

theorem Memory.Orderly.serveAll : ∀ {m : Memory} (cs : List Call), m.Orderly →
    (m.serveAll cs).Orderly ∧ Since m (m.serveAll cs)
  | m, [], hm => ⟨hm, .refl m⟩
  | m, c :: cs, hm => by
    obtain ⟨horder, hsince⟩ := Memory.Orderly.serveAll cs (hm.serve c)
    exact ⟨horder, (Since.serve m c).trans hsince⟩

theorem Memory.ofObjects_orderly {m : Memory} {objects : List Doc}
    (h : ofObjects objects = .ok m) : m.Orderly := ⟨ofObjects_sound h, ofObjects_dated h⟩

/-- A call is refused, or it is served by the memory that it meets. -/
def Served.IsTrue (w : Served) : Prop :=
  (∃ e, w.answer = .error e ∧ w.after = w.before) ∨ w.before.serve w.call = (w.answer, w.after)

/-- A call that could not write or was refused changes nothing. -/
theorem Served.IsTrue.unchanged {w : Served} (h : w.IsTrue) (hw : w.isWrite = false) :
    w.after.objects = w.before.objects := by
  obtain ⟨e, -, hafter⟩ | hserve := h
  · rw [hafter]
  cases hread : w.call.isRead with
  | true =>
    have hafter := Memory.serve_of_isRead hread w.before
    rw [hserve] at hafter
    exact congrArg objects hafter
  | false =>
    cases hanswer : w.answer with
    | ok d => simp [isWrite, hread, hanswer, Except.isOk, Except.toBool] at hw
    | error e =>
      have hafter := objects_of_refused (m := w.before) (c := w.call) (e := e) (by rw [hserve, hanswer])
      rwa [hserve] at hafter

/-- A write that put in an object where none was. It is kept with an identity and a version, and
nothing else has changed. -/
structure Served.Creates (w : Served) (a : Address) (d e : Doc) : Prop where
  call : w.call = .create d
  free : w.before.lookup a = none
  stamped : ∃ n, stamped a n d = .ok e
  kept : w.after.lookup a = some e
  elsewhere : ∀ b, b ≠ a → w.after.lookup b = w.before.lookup b

/-- A write that put an object in the place of the one whose version it names. -/
structure Served.Updates (w : Served) (a : Address) (d found e : Doc) : Prop where
  call : w.call = .update d
  there : w.before.lookup a = some found
  current : isCurrent found d = .ok true
  stamped : ∃ n, stamped a n d = .ok e
  kept : w.after.lookup a = some e
  elsewhere : ∀ b, b ≠ a → w.after.lookup b = w.before.lookup b

namespace Shared

variable {α : Type} {others : Nat → Meanwhile} {s t u : Shared} {a : Address} {c : Call} {d : Doc}

theorem next_call : (s.next others c).call = c := by
  unfold next
  cases (others s.log.length).trouble <;> rfl

theorem next_before : (s.next others c).before = s.met others := by
  unfold next
  cases (others s.log.length).trouble <;> rfl

theorem next_isTrue (others : Nat → Meanwhile) (s : Shared) (c : Call) :
    (s.next others c).IsTrue := by
  unfold next
  cases (others s.log.length).trouble with
  | some e => exact .inl ⟨e, rfl, rfl⟩
  | none => exact .inr rfl

theorem met_orderly (others : Nat → Meanwhile) (hs : s.memory.Orderly) :
    (s.met others).Orderly ∧ Since s.memory (s.met others) := Memory.Orderly.serveAll _ hs

/-! ## Parts of a run -/

/-- A part of a run leads from `s` to `t`, and `ws` are its writes. -/
structure Goes (s t : Shared) (ws : List Served) : Prop where
  orderly : t.memory.Orderly
  since : Since s.memory t.memory
  writes : t.writes = s.writes ++ ws

theorem Goes.trans {ws ws' : List Served} (h : Goes s t ws) (h' : Goes t u ws') :
    Goes s u (ws ++ ws') where
  orderly := h'.orderly
  since := h.since.trans h'.since
  writes := by rw [h'.writes, h.writes, List.append_assoc]

theorem goes_next (others : Nat → Meanwhile) (c : Call) (hs : s.memory.Orderly) :
    Goes s (s.note (s.next others c)) ([s.next others c].filter Served.isWrite) := by
  obtain ⟨horder, hsince⟩ := met_orderly others hs
  rw [← next_before (c := c)] at horder hsince
  refine ⟨?_, ?_, List.filter_append _ _⟩
  · obtain ⟨e, -, hafter⟩ | hserve := next_isTrue others s c
    · rwa [note, hafter]
    · have hafter := horder.serve (s.next others c).call
      rwa [hserve] at hafter
  · obtain ⟨e, -, hafter⟩ | hserve := next_isTrue others s c
    · rwa [note, hafter]
    · have hafter := hsince.trans (Since.serve _ (s.next others c).call)
      rwa [hserve] at hafter

theorem goes_quiet (hs : s.memory.Orderly) (hw : (s.next others c).isWrite = false) :
    Goes s (s.note (s.next others c)) [] := by
  have h := goes_next others c hs
  rwa [List.filter_cons_of_neg (by rw [hw]; exact Bool.false_ne_true), List.filter_nil] at h

theorem goes_write (hs : s.memory.Orderly) (hw : (s.next others c).isWrite = true) :
    Goes s (s.note (s.next others c)) [s.next others c] := by
  have h := goes_next others c hs
  rwa [List.filter_cons_of_pos hw, List.filter_nil] at h

theorem log_isTrue : ∀ {p : Action α} {s : Shared} {x : Except Trouble α},
    p.run (host others) s = (x, t) → (∀ w ∈ s.log, w.IsTrue) → ∀ w ∈ t.log, w.IsTrue
  | .done _, s, x, hrun, hs => by
    cases hrun
    exact hs
  | .fail _, s, x, hrun, hs => by
    cases hrun
    exact hs
  | .call c next, s, x, hrun, hs =>
    log_isTrue (p := next (s.next others c).answer) hrun fun w hw => by
      rcases List.mem_append.mp hw with hw | hw
      · exact hs w hw
      · rw [List.mem_singleton.mp hw]
        exact next_isTrue _ _ _
  | .wait _ next, s, x, hrun, hs => log_isTrue (p := next (others s.log.length).wait) hrun hs

/-! ## Programs of a single call -/

theorem run_perform : (Action.perform c).run (host others) s =
    ((s.next others c).answer, s.note (s.next others c)) := Action.run_ofExcept _

theorem run_pause {ms : Nat} : (Action.pause ms).run (host others) s =
    ((others s.log.length).wait, s) := Action.run_ofExcept _

theorem run_discard : (discard (Action.perform c)).run (host others) s =
    ((s.next others c).answer.map fun _ => (), s.note (s.next others c)) := by
  rw [Action.discard_eq, Action.run_seq, run_perform]
  cases (s.next others c).answer <;> rfl

/-- An object that is got is the one that is kept. -/
theorem run_get {x : Except Trouble Doc} (ha : a.IsPlain) (hs : s.memory.Orderly)
    (hrun : (Action.get a).run (host others) s = (x, t)) :
    Goes s t [] ∧ ∀ d, x = .ok d → t.memory.lookup a = some d := by
  obtain ⟨rfl, rfl⟩ := Prod.mk.inj (run_perform.symm.trans hrun)
  refine ⟨goes_quiet hs (by rw [Served.isWrite, next_call]; rfl), fun d hd => ?_⟩
  obtain ⟨e, he, -⟩ | hserve := next_isTrue others s (.get a)
  · rw [he] at hd
    cases hd
  · rw [next_call, Memory.serve, fetch_plain ha, hd, Prod.mk.injEq] at hserve
    obtain ⟨hfound, hafter⟩ := hserve
    change (s.next others (.get a)).after.lookup a = some d
    rw [← hafter]
    revert hfound
    cases (s.next others (.get a)).before.lookup a <;> simp

/-- So is one that is looked for. -/
theorem run_find? {x : Except Trouble (Option Doc)} (ha : a.IsPlain) (hs : s.memory.Orderly)
    (hrun : (Action.find? a).run (host others) s = (x, t)) :
    Goes s t [] ∧ ∀ d, x = .ok (some d) → t.memory.lookup a = some d := by
  rcases hget : (Action.get a).run (host others) s with ⟨y, u⟩
  obtain ⟨hgoes, hlookup⟩ := run_get ha hs hget
  rw [Action.find?, Action.except, Action.run_rescue, map_eq_pure_bind, Action.run_seq, hget] at hrun
  cases y with
  | ok d =>
    obtain ⟨rfl, rfl⟩ := Prod.mk.inj hrun
    refine ⟨hgoes, fun d' hd => hlookup d' ?_⟩
    rw [Except.ok.injEq, Option.some.injEq] at hd
    rw [hd]
  | error e =>
    dsimp only at hrun
    split at hrun <;> obtain ⟨rfl, rfl⟩ := Prod.mk.inj hrun
    · exact ⟨hgoes, fun _ h => by cases h⟩
    · exact ⟨hgoes, fun _ h => by cases h⟩

/-! ## Writing -/

theorem isWrite_next (hc : c.isRead = false) {e : Doc} (h : (s.next others c).answer = .ok e) :
    (s.next others c).isWrite = true := by
  rw [Served.isWrite, next_call, hc, h]
  rfl

theorem not_isWrite_next {e : Trouble} (h : (s.next others c).answer = .error e) :
    (s.next others c).isWrite = false := by
  rw [Served.isWrite, h]
  exact Bool.and_false _

theorem serve_of_ok {e : Doc} (h : (s.next others c).answer = .ok e) :
    (s.next others c).before.serve c = (.ok e, (s.next others c).after) := by
  obtain ⟨t, ht, -⟩ | hserve := next_isTrue others s c
  · rw [h] at ht
    cases ht
  · rwa [next_call, h] at hserve

/-- A new object is made where none was, or nothing is written. -/
theorem run_createUnlessThere {x : Except Trouble Bool} (ha : a.IsPlain)
    (hd : addressOf d = .ok a) (hs : s.memory.Orderly)
    (hrun : (Action.createUnlessThere d).run (host others) s = (x, t)) :
    (x = .ok true ∧ ∃ w e, Goes s t [w] ∧ w.Creates a d e) ∨ (x ≠ .ok true ∧ Goes s t []) := by
  rw [Action.createUnlessThere, Action.except, Action.run_rescue, Action.run_seq, Action.create,
    run_discard] at hrun
  cases hanswer : (s.next others (.create d)).answer with
  | error e =>
    have hgoes := goes_quiet hs (not_isWrite_next hanswer)
    simp only [hanswer, Except.map] at hrun
    split at hrun <;> obtain ⟨rfl, rfl⟩ := Prod.mk.inj hrun
    · exact .inr ⟨by simp, hgoes⟩
    · exact .inr ⟨by simp, hgoes⟩
  | ok e =>
    simp only [hanswer, Except.map] at hrun
    obtain ⟨rfl, rfl⟩ := Prod.mk.inj hrun
    refine .inl ⟨rfl, _, e, goes_write hs (isWrite_next rfl hanswer), ?_⟩
    obtain ⟨hfree, hstamped, hkept, helse⟩ := serve_create_eq_ok ha hd (serve_of_ok hanswer)
    exact ⟨next_call, hfree, ⟨_, hstamped⟩, hkept, helse⟩

/-- An object is written over whose version was named, or nothing is written. -/
theorem run_update {x : Except Trouble Unit} (ha : a.IsPlain) (hd : addressOf d = .ok a)
    (hs : s.memory.Orderly) (hrun : (Action.update d).run (host others) s = (x, t)) :
    (x = .ok () ∧ ∃ w found e, Goes s t [w] ∧ Since s.memory w.before ∧ w.Updates a d found e) ∨
      ((∃ e, x = .error e) ∧ Goes s t []) := by
  rw [Action.update, run_discard] at hrun
  obtain ⟨rfl, rfl⟩ := Prod.mk.inj hrun
  cases hanswer : (s.next others (.update d)).answer with
  | error e => exact .inr ⟨⟨e, rfl⟩, goes_quiet hs (not_isWrite_next hanswer)⟩
  | ok e =>
    obtain ⟨found, hthere, hcurrent, hstamped, hkept, helse⟩ :=
      serve_update_eq_ok ha hd (serve_of_ok hanswer)
    refine .inl ⟨rfl, _, found, e, goes_write hs (isWrite_next rfl hanswer), ?_,
      next_call, hthere, hcurrent, ⟨_, hstamped⟩, hkept, helse⟩
    rw [next_before]
    exact (met_orderly others hs).2

/-! ## Trying again -/

/-- A part of a run ends well with one write, which is as `good` says, or fails and has not
written. -/
def Ends (good : Served → Prop) (x : Except Trouble α) (s t : Shared) : Prop :=
  (∃ v w, x = .ok v ∧ Goes s t [w] ∧ good w) ∨ (∃ e, x = .error e ∧ Goes s t [])

/-- **A program that writes once, or fails and has not written, does so when it is tried again.** -/
theorem run_retrying {again : Trouble → Bool} {body : Action α} {good : Served → Prop}
    (hbody : ∀ s x t, s.memory.Orderly → body.run (host others) s = (x, t) → Ends good x s t) :
    ∀ (waits : List Nat) {s x t}, s.memory.Orderly →
      (Action.retrying again body waits).run (host others) s = (x, t) → Ends good x s t
  | [], s, x, t, hs, hrun => hbody s x t hs hrun
  | ms :: waits, s, x, t, hs, hrun => by
    rw [Action.retrying, Action.run_rescue] at hrun
    rcases hfirst : body.run (host others) s with ⟨y, u⟩
    rw [hfirst] at hrun
    obtain ⟨v, w, rfl, hgoes, hgood⟩ | ⟨e, rfl, hgoes⟩ := hbody s y u hs hfirst
    · obtain ⟨rfl, rfl⟩ := Prod.mk.inj hrun
      exact .inl ⟨v, w, rfl, hgoes, hgood⟩
    · dsimp only at hrun
      split at hrun
      · rw [Action.run_bind, run_pause] at hrun
        cases hwait : (others u.log.length).wait with
        | error e' =>
          rw [hwait] at hrun
          obtain ⟨rfl, rfl⟩ := Prod.mk.inj hrun
          exact .inr ⟨e', rfl, hgoes⟩
        | ok _ =>
          rw [hwait] at hrun
          -- The failed try has not written, so the next one starts from a memory in order.
          obtain ⟨v, w, hx, hgoes', hgood⟩ | ⟨e', hx, hgoes'⟩ :=
            run_retrying hbody waits hgoes.orderly hrun
          · exact .inl ⟨v, w, hx, hgoes.trans hgoes', hgood⟩
          · exact .inr ⟨e', hx, hgoes.trans hgoes'⟩
      · obtain ⟨rfl, rfl⟩ := Prod.mk.inj hrun
        exact .inr ⟨e, rfl, hgoes⟩

end Shared

end Workbench
