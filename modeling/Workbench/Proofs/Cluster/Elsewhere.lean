import Workbench.Proofs.Cluster.Confined
import Workbench.Proofs.Cluster.Spares

/-!
# What a cluster keeps elsewhere

A call writes at one address at most. Everything that is kept elsewhere stays as it is, with its
version and in its place.

* `Memory.besides`: the objects that are kept at other addresses than some;
  `Memory.lookup_of_besides` says that a look for one of them finds the same;
* `Memory.Puts`, `Memory.serve_create`, `Memory.serve_update`, `Memory.serve_patch`,
  `Memory.serve_delete`: what each call can do to a memory;
* `Call.KeepsTo`: calls that write at some addresses only; `KeepsTo.serve_cases` says what they can do;
* **`Call.KeepsTo.besides_eq`**: such calls leave alone what is kept elsewhere;
* `Call.KeepsTo.exists_create`: an object only appears where it is created;
* `Confined.spares`: a program of such calls spares all other addresses.
-/

namespace Workbench

open Doc

namespace Memory

variable {m m' : Memory} {a b : Address} {as : List Address} {d e p : Doc}

/-! ## Objects at other addresses -/

/-- The objects that are kept at other addresses than these. -/
def besides (as : List Address) (m : Memory) : List Kept := m.objects.filter fun e => e.1 ∉ as

theorem lookup_congr (h : m'.objects = m.objects) (b : Address) : m'.lookup b = m.lookup b := by
  rw [lookup, lookup, h]

theorem find?_besides (has : ∀ a ∈ as, a.IsPlain) (hb : b ∉ as) (objects : List Kept) :
    (objects.filter fun e => e.1 ∉ as).find? (·.1.looseEq b) = objects.find? (·.1.looseEq b) := by
  rw [List.find?_filter]
  refine congrArg (List.find? · objects) (funext fun e => ?_)
  by_cases he : e.1 ∈ as
  · have hne : e.1.looseEq b = false := by
      rw [Bool.eq_false_iff, ne_eq, Address.plain_looseEq (has _ he)]
      rintro rfl
      exact hb he
    simp [he, hne]
  · simp [he]

/-- A look for one of these objects finds the same when they are the same. -/
theorem lookup_of_besides (has : ∀ a ∈ as, a.IsPlain) (hb : b ∉ as)
    (h : m'.besides as = m.besides as) : m'.lookup b = m.lookup b := by
  have hfind := congrArg (List.find? (·.1.looseEq b)) h
  rw [besides, besides, find?_besides has hb, find?_besides has hb] at hfind
  rw [lookup, lookup, hfind]

theorem besides_insert (ha : a.IsPlain) (hmem : a ∈ as) (objects : List Kept) :
    (insert a e objects).filter (fun e => e.1 ∉ as) = objects.filter fun e => e.1 ∉ as := by
  induction objects with
  | nil => simp [insert, hmem]
  | cons f objects ih =>
    rw [insert]
    by_cases hf : f.1.looseEq a
    · have hfa : f.1 = a := (Address.looseEq_plain ha).mp hf
      rw [if_pos hf]
      simp [hfa, hmem]
    · rw [if_neg hf, List.filter_cons, List.filter_cons, ih]

theorem besides_drop (ha : a.IsPlain) (hmem : a ∈ as) : (m.drop a).besides as = m.besides as := by
  rw [besides, besides, drop, List.filter_filter]
  refine List.filter_congr fun f _ => ?_
  by_cases hf : f.1.looseEq a
  · have hfa : f.1 = a := (Address.looseEq_plain ha).mp hf
    simp [hfa, hmem]
  · simp [hf]

/-! ## What a call can do -/

/-- An object is put in at an address, with some version. -/
structure Puts (a : Address) (d e : Doc) (m m' : Memory) : Prop where
  stamped : ∃ n, stamped a n d = .ok e
  objects : m'.objects = insert a e m.objects

namespace Puts

variable (h : Puts a d e m m') (ha : a.IsPlain)

include h ha

theorem lookup_self : m'.lookup a = some e := by
  have hlookup := lookup_insert (b := a) (d := e) (v := 0) ha m.objects
  rw [if_pos rfl] at hlookup
  exact (lookup_congr (m := ⟨insert a e m.objects, 0⟩) h.objects a).trans hlookup

theorem lookup_of_ne (hb : b ≠ a) : m'.lookup b = m.lookup b := by
  have hlookup := lookup_insert (b := b) (d := e) (v := 0) ha m.objects
  rw [if_neg hb] at hlookup
  exact (lookup_congr (m := ⟨insert a e m.objects, 0⟩) h.objects b).trans hlookup

theorem besides_eq (hmem : a ∈ as) : m'.besides as = m.besides as := by
  rw [besides, h.objects, besides_insert ha hmem, besides]

end Puts

theorem write_puts (m : Memory) (ha : a.IsPlain) (hd : addressOf d = .ok a) :
    ∃ e, (m.write (.ok d)).1 = .ok e ∧ Puts a d e m (m.write (.ok d)).2 := by
  obtain ⟨e, he⟩ := (hasMetadata_of_addressOf hd).stamped a (m.version + 1)
  refine ⟨e, ?_, ⟨_, he⟩, ?_⟩ <;> simp only [write, put, hd, ha.check_eq, he, Except.mapError]

variable (m) (ha : a.IsPlain)

include ha

/-- A new object is put in where nothing was. -/
theorem serve_create (hd : addressOf d = .ok a) : (m.serve (.create d)).2 = m ∨
    m.lookup a = none ∧ ∃ e, Puts a d e m (m.serve (.create d)).2 := by
  rw [serve, checkCreate_plain ha hd]
  cases hfree : m.lookup a with
  | some found => exact .inl rfl
  | none =>
    obtain ⟨e, -, hputs⟩ := m.write_puts ha hd
    exact .inr ⟨rfl, e, hputs⟩

/-- An object is put in the place of one that was there. -/
theorem serve_update (hd : addressOf d = .ok a) : (m.serve (.update d)).2 = m ∨
    m.lookup a ≠ none ∧ ∃ e, Puts a d e m (m.serve (.update d)).2 := by
  rw [serve, checkUpdate_plain ha hd]
  cases hthere : m.lookup a with
  | none => exact .inl rfl
  | some found =>
    dsimp only
    cases isCurrent found d with
    | error f => exact .inl rfl
    | ok isSame =>
      cases isSame with
      | false => exact .inl rfl
      | true =>
        obtain ⟨e, -, hputs⟩ := m.write_puts ha hd
        exact .inr ⟨Option.some_ne_none found, e, hputs⟩

/-- A patched object is put in the place of the one that was there. -/
theorem serve_patch (hp : ∀ found, m.lookup a = some found → addressOf (found.merge p) = .ok a) :
    m.lookup a = none ∧ m.serve (.patch a p) = (.error (missing "patch" a), m) ∨
      ∃ found e, m.lookup a = some found ∧ (m.serve (.patch a p)).1 = .ok e ∧
        Puts a (found.merge p) e m (m.serve (.patch a p)).2 := by
  rw [serve, fetch_plain ha]
  cases hthere : m.lookup a with
  | none => exact .inl ⟨rfl, rfl⟩
  | some found =>
    obtain ⟨e, hanswer, hputs⟩ := m.write_puts ha (hp found hthere)
    exact .inr ⟨found, e, rfl, hanswer, hputs⟩

/-- An object is removed. -/
theorem serve_delete : (m.serve (.delete a)).2 = m ∨ (m.serve (.delete a)).2 = m.drop a := by
  rw [serve, fetch_plain ha]
  cases m.lookup a with
  | none => exact .inl rfl
  | some found => exact .inr rfl

end Memory

/-! ## Calls that write at some addresses only -/

open Memory

/-- The call writes at one of these addresses if it writes at all. -/
inductive Call.KeepsTo (as : List Address) : Call → Prop where
  | get (a : Address) : KeepsTo as (.get a)
  | create {a : Address} {d : Doc} (ha : a ∈ as) (hd : addressOf d = .ok a) : KeepsTo as (.create d)
  | update {a : Address} {d : Doc} (ha : a ∈ as) (hd : addressOf d = .ok a) : KeepsTo as (.update d)
  | patch {a : Address} {p : Doc} (ha : a ∈ as)
      (hp : ∀ d : Doc, addressOf d = .ok a → addressOf (d.merge p) = .ok a) : KeepsTo as (.patch a p)
  | delete {a : Address} (ha : a ∈ as) : KeepsTo as (.delete a)

variable {as bs : List Address}

theorem Call.KeepsTo.mono {c : Call} (h : c.KeepsTo as) (has : as ⊆ bs) : c.KeepsTo bs := by
  cases h with
  | get a => exact .get a
  | create ha hd => exact .create (has ha) hd
  | update ha hd => exact .update (has ha) hd
  | patch ha hp => exact .patch (has ha) hp
  | delete ha => exact .delete (has ha)

/-- Such a call changes nothing, makes an object where nothing was, writes over one, or removes one. -/
theorem Call.KeepsTo.serve_cases {c : Call} {m : Memory} (h : c.KeepsTo as)
    (has : ∀ a ∈ as, a.IsPlain) (hm : m.Sound) : (m.serve c).2 = m ∨
      (∃ a d e, a ∈ as ∧ c = .create d ∧ addressOf d = .ok a ∧ m.lookup a = none ∧
        Puts a d e m (m.serve c).2) ∨
      (∃ a d e, a ∈ as ∧ m.lookup a ≠ none ∧ Puts a d e m (m.serve c).2) ∨
      ∃ a ∈ as, (m.serve c).2 = m.drop a := by
  cases h with
  | get a => exact .inl rfl
  | create ha hd =>
    rcases m.serve_create (has _ ha) hd with hsame | ⟨hfree, e, hputs⟩
    · exact .inl hsame
    · exact .inr (.inl ⟨_, _, e, ha, rfl, hd, hfree, hputs⟩)
  | update ha hd =>
    rcases m.serve_update (has _ ha) hd with hsame | ⟨hthere, e, hputs⟩
    · exact .inl hsame
    · exact .inr (.inr (.inl ⟨_, _, e, ha, hthere, hputs⟩))
  | patch ha hp =>
    have hbelongs := fun found hfound => hp found (hm.addressOf_eq (has _ ha) hfound)
    rcases m.serve_patch (has _ ha) hbelongs with ⟨-, hserve⟩ | ⟨found, e, hfound, -, hputs⟩
    · exact .inl (congrArg Prod.snd hserve)
    · exact .inr (.inr (.inl ⟨_, _, e, ha, Option.ne_none_iff_exists'.mpr ⟨found, hfound⟩, hputs⟩))
  | delete ha =>
    rcases m.serve_delete (has _ ha) with hsame | hdrop
    · exact .inl hsame
    · exact .inr (.inr (.inr ⟨_, ha, hdrop⟩))

section Effects

variable {b : Address} {c : Call} {e : Doc} {m : Memory} (h : c.KeepsTo as)
  (has : ∀ a ∈ as, a.IsPlain) (hm : m.Sound)

include h has hm

/-- **What is kept elsewhere stays as it is.** -/
theorem Call.KeepsTo.besides_eq : (m.serve c).2.besides as = m.besides as := by
  rcases h.serve_cases has hm with hsame | ⟨a, _, _, ha, -, -, -, hputs⟩ | ⟨a, _, _, ha, -, hputs⟩ |
    ⟨a, ha, hdrop⟩
  · rw [hsame]
  · exact hputs.besides_eq (has a ha) ha
  · exact hputs.besides_eq (has a ha) ha
  · rw [hdrop, besides_drop (has a ha) ha]

/-- An object only appears where it is created, and is kept with some version. -/
theorem Call.KeepsTo.exists_create (hbefore : m.lookup b = none)
    (hafter : (m.serve c).2.lookup b = some e) :
    ∃ d n, c = .create d ∧ addressOf d = .ok b ∧ stamped b n d = .ok e := by
  rcases h.serve_cases has hm with hsame | ⟨a, d, f, ha, hc, hd, -, hputs⟩ |
    ⟨a, _, _, ha, hthere, hputs⟩ | ⟨a, ha, hdrop⟩
  · cases hbefore.symm.trans (hsame ▸ hafter)
  · obtain rfl : b = a := by
      by_contra hne
      cases hbefore.symm.trans ((hputs.lookup_of_ne (has a ha) hne).symm.trans hafter)
    obtain rfl : f = e := Option.some.inj ((hputs.lookup_self (has b ha)).symm.trans hafter)
    obtain ⟨n, hn⟩ := hputs.stamped
    exact ⟨d, n, hc, hd, hn⟩
  · have hne : b ≠ a := fun hba => hthere (hba ▸ hbefore)
    cases hbefore.symm.trans ((hputs.lookup_of_ne (has a ha) hne).symm.trans hafter)
  · rw [hdrop, lookup_drop (has a ha), hbefore, ite_self] at hafter
    cases hafter

end Effects

/-- A program of such calls spares all other addresses. -/
theorem Action.Confined.spares {α : Type} {b : Address} (has : ∀ a ∈ as, a.IsPlain) (hb : b ∉ as) :
    ∀ {p : Action α}, Confined (Call.KeepsTo as) p → Spares b p
  | .done _, _ => fun _ _ => trivial
  | .fail _, _ => fun _ _ => trivial
  | .call c next, hp => fun _ _ t ht _ => by
    have hfetches : c.Fetches (t.serve c).1 := (Served.Happens.served t c).fetches ht
    exact ⟨lookup_of_besides has hb (hp.1.besides_eq has ht),
      spares has hb (hp.2 _ hfetches) _⟩
  | .wait _ next, hp => fun m => spares has hb (p := next (.ok ())) (hp _) m

end Workbench
