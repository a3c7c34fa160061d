import Workbench.Proofs.Cluster.Reads

/-!
# How programs end, reply by reply

What a program that only reads ends with rests on the replies. When every reply is of some kind, so
is the end, whatever the host does besides.

* `Action.Ends`: as long as the replies are fair, a program that only reads ends with a value of some
  kind, or in trouble that it may end in; `Ends.seq`, `Ends.rescue` and the like compose such facts;
* `Host.Replies`: a host whose replies to reads are fair;
* **`Ends.run`**: runs on such a host end so;
* `Ends.perform`, `Ends.exists?`: single calls.
-/

namespace Workbench

/-- The replies to reads are fair in the states that `fine` holds of, and it holds on. -/
structure Host.Replies {σ : Type} (h : Host σ) (fair : Call → Except Trouble Doc → Prop)
    (fine : σ → Prop) : Prop where
  reply {c : Call} {s : σ} : c.isRead → fine s → fair c (h.serve c s).1
  state {c : Call} {s : σ} : c.isRead → fine s → fine (h.serve c s).2

namespace Action

variable {α β σ : Type} {fair : Call → Except Trouble Doc → Prop} {may may' : Trouble → Prop}
  {post : α → Prop} {post' : β → Prop}

/-- The program only reads. As long as it gets fair replies, it ends with a value that `post` holds
of, or in trouble that `may` holds of. -/
def Ends (fair : Call → Except Trouble Doc → Prop) (may : Trouble → Prop) (post : α → Prop) :
    Action α → Prop
  | done v => post v
  | fail t => may t
  | call c next => c.isRead ∧ ∀ r, fair c r → Ends fair may post (next r)
  | wait _ _ => False

namespace Ends

theorem pure {v : α} (h : post v) : Ends fair may post (pure v) := h

theorem seq {f : α → Action β} (hf : ∀ v, post v → Ends fair may post' (f v)) : ∀ {a : Action α},
    Ends fair may post a → Ends fair may post' (a >>= f)
  | done v, h => hf v h
  | fail _, h => h
  | call _ _, h => ⟨h.1, fun r hr => seq hf (h.2 r hr)⟩

theorem andThen {a : Action α} {f : α → Action β} (ha : Ends fair may (fun _ => True) a)
    (hf : ∀ v, Ends fair may post' (f v)) : Ends fair may post' (a >>= f) :=
  seq (fun v _ => hf v) ha

/-- Trouble that a program is rescued from does not count. -/
theorem rescue {f : Trouble → Action α} (hf : ∀ t, may t → Ends fair may' post (f t)) :
    ∀ {a : Action α}, Ends fair may post a → Ends fair may' post (rescue a f)
  | done _, h => h
  | fail t, h => hf t h
  | call _ _, h => ⟨h.1, fun r hr => rescue hf (h.2 r hr)⟩

theorem liftM_fault {x : Except Fault α} (h : ∃ v, x = .ok v ∧ post v) :
    Ends fair may post (liftM x) := by
  obtain ⟨v, rfl, hv⟩ := h
  exact hv

theorem any_fault (hfault : ∀ f, may (.fault f)) (x : Except Fault α) :
    Ends fair may (fun _ => True) (liftM x) := by
  cases x with
  | ok v => trivial
  | error f => exact hfault f

theorem liftM_trouble {x : Except Trouble α} (hvalue : ∀ v, x = .ok v → post v)
    (htrouble : ∀ t, x = .error t → may t) : Ends fair may post (liftM x) := by
  cases x with
  | ok v => exact hvalue v rfl
  | error t => exact htrouble t rfl

theorem liftM_seq {x : Except Trouble α} {f : α → Except Trouble β}
    (hx : Ends fair may post (liftM x)) (hf : ∀ v, post v → Ends fair may post' (liftM (f v))) :
    Ends fair may post' (liftM (x >>= f)) := by
  cases x with
  | ok v => exact hf v hx
  | error t => exact hx

/-- **Runs on a host whose replies are fair end so.** -/
theorem run {h : Host σ} {fine : σ → Prop} (hreplies : h.Replies fair fine) :
    ∀ {a : Action α} {s : σ}, fine s → Ends fair may post a →
      (∀ v, (a.run h s).1 = .ok v → post v) ∧ ∀ t, (a.run h s).1 = .error t → may t
  | done _, _, _, ha => ⟨fun _ hv => by cases hv; exact ha, nofun⟩
  | fail _, _, _, ha => ⟨nofun, fun _ ht => by cases ht; exact ha⟩
  | call c next, s, hs, ha => run hreplies (a := next (h.serve c s).1)
      (hreplies.state ha.1 hs) (ha.2 _ (hreplies.reply ha.1 hs))

/-! ## Single calls -/

theorem perform {post : Doc → Prop} {c : Call} (hread : c.isRead)
    (hvalue : ∀ d, fair c (.ok d) → post d) (htrouble : ∀ t, fair c (.error t) → may t) :
    Ends fair may post (perform c) :=
  ⟨hread, fun _ hr => liftM_trouble (fun d hd => hvalue d (hd ▸ hr)) fun t ht => htrouble t (ht ▸ hr)⟩

theorem exists? {a : Address} (htrouble : ∀ t, fair (.get a) (.error t) → may t) :
    Ends fair may (fun _ => True) (exists? a) := by
  refine ⟨rfl, fun r hr => ?_⟩
  cases r with
  | ok d => trivial
  | error t =>
    change Ends fair may _ (if t.isNotFound then _ else _)
    split
    · trivial
    · exact htrouble t hr

end Ends

end Action

end Workbench
