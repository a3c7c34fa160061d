import Workbench.Proofs.Cluster.Calls

/-!
# Programs that work at one address

Most steps of the operator read and write a single object. Such a step ends as what is kept there
says, whatever the others do elsewhere, and steps of this kind are put together to longer programs
whose end is determined beforehand.

* `Change.Within`: nothing happens outside some addresses; `Change.Brings` and `Change.Lets`: others
  bring what is kept at an address to one goal, and may do so;
* `Action.Local`: a program that works at one address, and what it makes of what is kept there;
  `Local.seq` composes such programs;
* **`Local.run`**: a run of it on its own;
* `Action.Direct`: such a program that writes nothing but how it ends;
* `Action.Determined`: a program that works at some addresses, and whose end rests on what is kept
  there; `Determined.seq` composes such programs;
* **`Local.determined`**: a program that works at one of the addresses is one of them.
-/

namespace Workbench

open Doc Memory

/-! ## Changes at some addresses -/

namespace Change

variable {own own' : List Address} {a : Address} {s t u : Memory} {goal : Option Doc}

/-- Others bring what is kept at an address to one goal, or leave it alone. -/
def Brings (change : Change) (a : Address) (goal : Option Doc) : Prop :=
  ∀ s t, change s t → t.lookup a = s.lookup a ∨ t.view a = goal

/-- What is kept at an address may be brought to a goal. -/
def Lets (change : Change) (a : Address) (goal : Option Doc) : Prop :=
  ∀ s t : Memory, (∀ b, b ≠ a → t.lookup b = s.lookup b) → t.view a = goal → change s t

theorem Frees.lets {change : Change} (h : change.Frees a) : change.Lets a goal :=
  fun s t helsewhere _ => h s t helsewhere

/-- Nothing happens outside some addresses. -/
def Within (own : List Address) : Change := fun s t => ∀ b, b ∉ own → t.lookup b = s.lookup b

theorem within_closed (own : List Address) : (Within own).Closed where
  refl _ _ _ := rfl
  trans h h' b hb := (h' b hb).trans (h b hb)

theorem Within.mono (h : Within own s t) (hown : ∀ b ∈ own, b ∈ own') : Within own' s t :=
  fun b hb => h b fun hb' => hb (hown b hb')

theorem Within.trans (h : Within own s t) (h' : Within own' t u) : Within (own ++ own') s u := by
  intro b hb
  rw [List.mem_append, not_or] at hb
  rw [h' b hb.2, h b hb.1]

theorem Within.view (h : Within own s t) {b : Address} (hb : b ∉ own) : t.view b = s.view b := by
  rw [Memory.view, Memory.view, h b hb]

theorem within_frees (ha : a ∈ own) : (Within own).Frees a := fun _ _ h b hb =>
  h b fun hba => hb (hba ▸ ha)

/-- What is kept at an address is brought to a goal or left alone, and nothing else happens. -/
def Moves (a : Address) (goal : Option Doc) : Change :=
  fun s t => Within [a] s t ∧ (t.lookup a = s.lookup a ∨ t.view a = goal)

theorem moves_closed (a : Address) (goal : Option Doc) : (Moves a goal).Closed where
  refl s := ⟨fun _ _ => rfl, .inl rfl⟩
  trans h h' := by
    refine ⟨(within_closed [a]).trans h.1 h'.1, ?_⟩
    rcases h'.2 with hsame | hgoal
    · rw [hsame, view_congr hsame]
      exact h.2
    · exact .inr hgoal

theorem moves_lets (a : Address) (goal : Option Doc) : (Moves a goal).Lets a goal :=
  fun _ _ helsewhere hgoal =>
    ⟨fun b hb => helsewhere b fun h => hb (List.mem_singleton.mpr h), .inr hgoal⟩

end Change

namespace Action

open Change

variable {α β : Type} {a b : Address} {m m' : Memory}

/-! ## One address -/

/-- The program works at one address: how it ends, and what is kept there then, rests on what is kept
there, without its version. -/
def Local (a : Address) (out : Option Doc → Except Trouble α × Option Doc) (p : Action α) : Prop :=
  ∀ ⦃rely guar : Change⦄ ⦃m : Memory⦄, rely.Fixes a → guar.Frees a →
    Safe rely guar (fun x t => (x, t.view a) = out (m.view a)) p m

/-- What two programs make of what is kept at an address, one after the other. -/
def andThen (out : Option Doc → Except Trouble α × Option Doc)
    (next : α → Option Doc → Except Trouble β × Option Doc) (kept : Option Doc) :
    Except Trouble β × Option Doc :=
  match out kept with
  | (.ok v, kept) => next v kept
  | (.error e, kept) => (.error e, kept)

namespace Local

variable {out : Option Doc → Except Trouble α × Option Doc}
  {next : α → Option Doc → Except Trouble β × Option Doc} {p : Action α} {f : α → Action β}

theorem seq (hp : Local a out p) (hf : ∀ v, Local a (next v) (f v)) :
    Local a (andThen out next) (p >>= f) := by
  intro rely guar m hrely hguar
  refine Safe.seq ?_ ?_ (hp hrely hguar)
  · intro v t _ ht
    refine (hf v hrely hguar).weaken fun x u _ hx => ?_
    rw [hx, andThen, ← ht]
  · intro e t _ ht
    rw [andThen, ← ht]

theorem pure (v : α) : Local a (fun kept => (.ok v, kept)) (pure v : Action α) :=
  fun _ _ _ _ _ => .pure fun _ => rfl

theorem discard (hp : Local a out p) :
    Local a (andThen out fun _ kept => (.ok (), kept)) (discard p) :=
  hp.seq fun _ => Local.pure ()

/-- **A run of the program ends as what is kept at the address says**, and changes nothing
elsewhere. -/
theorem run (hp : Local a out p) (hm : m.Sound) {x : Except Trouble α}
    (hrun : p.run Memory.host m = (x, m')) :
    m'.Sound ∧ (x, m'.view a) = out (m.view a) ∧ Within [a] m m' := by
  have hclosed := within_closed [a]
  have hsafe : Safe (Within []) (Within [a]) _ p m := Safe.frame hclosed
    (fun s t hst => hst.mono fun b hb => absurd hb List.not_mem_nil) (fun _ _ h => h)
    (hclosed.refl m) (hp (fun s t hst => hst a List.not_mem_nil) (within_frees List.mem_cons_self))
  obtain ⟨hm', hout, hwithin⟩ := Safe.run (within_closed []).refl hm hsafe
  rw [hrun] at hm' hout hwithin
  exact ⟨hm', hout, hwithin⟩

end Local

/-- The program works at one address, and nothing is ever written there but what is kept in the
end. -/
def Direct (a : Address) (out : Option Doc → Except Trouble α × Option Doc) (p : Action α) : Prop :=
  ∀ ⦃rely guar : Change⦄ ⦃m : Memory⦄, rely.Fixes a → (∀ s, guar s s) →
    guar.Lets a (out (m.view a)).2 → Safe rely guar (fun x t => (x, t.view a) = out (m.view a)) p m

theorem Direct.local {out : Option Doc → Except Trouble α × Option Doc} {p : Action α}
    (hp : Direct a out p) : Local a out p :=
  fun _ _ _ hrely hguar => hp hrely hguar.refl hguar.lets

theorem andThen_discard_eq_ok_iff {out : Option Doc → Except Trouble α × Option Doc}
    {before after : Option Doc} :
    andThen out (fun _ kept => (.ok (), kept)) before = (.ok (), after) ↔
      ∃ v, out before = (.ok v, after) := by
  unfold andThen
  split <;> simp_all

theorem Direct.discard {out : Option Doc → Except Trouble α × Option Doc} {p : Action α}
    (hp : Direct a out p) : Direct a (andThen out fun _ kept => (.ok (), kept)) (discard p) := by
  intro rely guar m hrely hguar hlets
  have hend : (andThen out (fun _ kept => (Except.ok (), kept)) (m.view a)).2 = (out (m.view a)).2 := by
    unfold andThen
    split <;> simp_all
  rw [hend] at hlets
  refine Safe.seq ?_ ?_ (hp hrely hguar hlets)
  · intro v t _ ht
    exact .pure fun _ => by rw [andThen, ← ht]
  · intro e t _ ht
    rw [andThen, ← ht]

/-- What a patch makes of what is kept at an address. -/
def patched (a : Address) (p : Doc) : Option Doc → Except Trouble Unit × Option Doc
  | none => (.error (missing "patch" a), none)
  | some d => (.ok (), some (d.merge p))

theorem patch_direct {p : Doc} (ha : a.IsPlain) (hp : KeepsIdentity fun d => .ok (d.merge p)) :
    Direct a (patched a p) (patch a p) := by
  intro rely guar m hrely hguar hlets
  refine Safe.patch ha hguar ?_ ?_
  · intro t d ht hmt hlookup
    have hsame := hp.same (hasMetadata_of_addressOf (ht.addressOf_eq ha hlookup)) rfl
    refine ⟨hsame.addressOf (ht.addressOf_eq ha hlookup), fun u _ hwrote => ?_⟩
    have hview : m.view a = some d.unversioned := by
      rw [Memory.view, ← hrely m t hmt, hlookup, Option.map_some]
    have hunversioned := hp.unversioned (hasMetadata_of_addressOf (ht.addressOf_eq ha hlookup))
    rw [Except.map, Except.ok.injEq] at hunversioned
    have hwritten : u.view a = (patched a p (m.view a)).2 := by
      rw [hwrote.view, ht.asKept_of_same ha hlookup hsame, hview, patched, hunversioned]
    exact ⟨hlets _ _ hwrote.elsewhere hwritten, by rw [hwritten, hview, patched]⟩
  · intro t _ hmt hnone
    have hview : m.view a = none := by
      rw [Memory.view, ← hrely m t hmt, hnone, Option.map_none]
    rw [hview, patched, Memory.view, hnone, Option.map_none]

/-! ## Several addresses -/

/-- The addresses are nobody else's, and what is known besides outlives everything that happens. -/
structure Owned (rely : Change) (own : List Address) (known : Memory → Prop) : Prop where
  fixes : ∀ a ∈ own, rely.Fixes a
  others : ∀ s t, rely s t → known s → known t
  itself : ∀ s t, Within own s t → known s → known t

/-- The program works at some addresses: how it ends, and what is kept there then, rests on what is
kept there, without the versions, and on what is known besides. -/
def Determined (rely : Change) (own : List Address) (known : Memory → Prop) (p : Action α) : Prop :=
  ∀ before : Address → Option Doc, ∃ (x : Except Trouble α) (after : Address → Option Doc),
    ∀ m : Memory, m.Sound → known m → (∀ a ∈ own, m.view a = before a) →
      Safe rely (Within own) (fun y t => y = x ∧ known t ∧ ∀ a ∈ own, t.view a = after a) p m

section Determined

variable {rely : Change} {own : List Address} {known : Memory → Prop}

/-- **A program that works at one of the addresses** is determined by what is kept there. -/
theorem Local.determined {out : Option Doc → Except Trouble α × Option Doc} {p : Action α}
    (hown : Owned rely own known) (ha : a ∈ own) (hp : Local a out p) :
    Determined rely own known p := by
  intro before
  refine ⟨(out (before a)).1, fun b => if b = a then (out (before a)).2 else before b,
    fun m _ hknown hbefore => ?_⟩
  -- What everybody keeps: what is known, and the other addresses.
  let kept : Change := fun s t => (known s → known t) ∧ ∀ b ∈ own, b ≠ a → t.view b = s.view b
  have hkept : kept.Closed :=
    ⟨fun _ => ⟨id, fun _ _ _ => rfl⟩, fun h h' => ⟨h'.1 ∘ h.1, fun b hb hba =>
      (h'.2 b hb hba).trans (h.2 b hb hba)⟩⟩
  have hrely : ∀ s t, rely s t → kept s t := fun s t hst =>
    ⟨hown.others s t hst, fun b hb _ => by
      rw [Memory.view, Memory.view, hown.fixes b hb s t hst]⟩
  have hmono : ∀ s t, Within [a] s t → Within own s t := fun s t h => h.mono fun b hb => by
    rwa [List.mem_singleton.mp hb]
  have hguar : ∀ s t, Within [a] s t → kept s t := fun s t h =>
    ⟨hown.itself s t (hmono s t h), fun b _ hba => h.view fun hb => hba (List.mem_singleton.mp hb)⟩
  refine Safe.mono (fun _ _ => id) hmono ?_ (Safe.frame hkept hrely hguar (hkept.refl m)
    (hp (hown.fixes a ha) (within_frees List.mem_cons_self)))
  rintro y t _ ⟨hout, hknown', hviews⟩
  rw [hbefore a ha, Prod.mk.injEq] at hout
  refine ⟨hout.1, hknown' hknown, fun b hb => ?_⟩
  dsimp only
  by_cases hba : b = a
  · rw [if_pos hba, hba, hout.2]
  · rw [if_neg hba, hviews b hb hba, hbefore b hb]

namespace Determined

theorem seq {p : Action α} {f : α → Action β} (hp : Determined rely own known p)
    (hf : ∀ v, Determined rely own known (f v)) : Determined rely own known (p >>= f) := by
  intro before
  obtain ⟨x, between, hp⟩ := hp before
  cases x with
  | error e =>
    refine ⟨.error e, between, fun m hm hknown hbefore => ?_⟩
    refine Safe.seq ?_ ?_ (hp m hm hknown hbefore)
    · rintro v t _ ⟨hx, -⟩
      cases hx
    · rintro e' t _ ⟨hx, hrest⟩
      cases hx
      exact ⟨rfl, hrest⟩
  | ok v =>
    obtain ⟨y, after, hf⟩ := hf v between
    refine ⟨y, after, fun m hm hknown hbefore => ?_⟩
    refine Safe.seq ?_ ?_ (hp m hm hknown hbefore)
    · rintro v' t ht ⟨hx, hknown', hbetween⟩
      cases hx
      exact hf t ht hknown' hbetween
    · rintro e t _ ⟨hx, -⟩
      cases hx

theorem ofExcept (x : Except Trouble α) : Determined rely own known (ofExcept x) :=
  fun before => ⟨x, before, fun _ _ hknown hbefore => .ofExcept fun _ => ⟨rfl, hknown, hbefore⟩⟩

theorem pure (v : α) : Determined rely own known (pure v : Action α) := ofExcept (.ok v)

theorem liftM_fault (x : Except Fault α) : Determined rely own known (liftM x : Action α) :=
  ofExcept _

theorem exists? (hown : Owned rely own known) {isThere : Bool} (ha : a.IsPlain)
    (h : ∀ m, known m → (m.lookup a).isSome = isThere) :
    Determined rely own known (exists? a) := by
  refine fun before => ⟨.ok isThere, before, fun m _ hknown hbefore => ?_⟩
  refine Safe.exists? ha (within_closed own).refl fun t _ hmt => ?_
  refine ⟨by rw [h t (hown.others m t hmt hknown)], hown.others m t hmt hknown, fun b hb => ?_⟩
  rw [Memory.view, hown.fixes b hb m t hmt, ← Memory.view, hbefore b hb]

end Determined

end Determined

end Action

end Workbench
