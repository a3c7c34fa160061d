import Workbench.Proofs.Doc.Patched

/-!
# Documents that are changed within some places

A change within some places may have to create the objects around them.

* `Doc.StaysOpen`: an object is where there was one or nothing;
* `Doc.ChangedWithin`: two documents that are the same apart from some places, and around them up to
  objects that are created;
* `Doc.HasMember`: a member of an object, the empty object when there is none yet;
* **`Doc.changedWithin_setMember`**: a change within a member is a change within the object;
  `Doc.changedWithin_modify` says so of an edit;
* **`Doc.Focuses.changedWithin`**: a patch changes a document within the places that it speaks of.
-/

namespace Workbench

instance (p q : Place) : Decidable (Place.Apart p q) := inferInstanceAs (Decidable (_ ∧ _))

theorem Place.apart_of_ne {s t : Step} {p q : Place} (h : s ≠ t) : Place.Apart (s :: p) (t :: q) :=
  ⟨fun hp => h (List.cons_prefix_cons.mp hp).1, fun hq => h (List.cons_prefix_cons.mp hq).1.symm⟩

/-- Places of which none lies inside another one. -/
def Place.AllApart (ps : List Place) : Prop := ∀ p ∈ ps, ∀ q ∈ ps, p ≠ q → Place.Apart p q

instance (ps : List Place) : Decidable (Place.AllApart ps) :=
  inferInstanceAs (Decidable (∀ p ∈ ps, ∀ q ∈ ps, p ≠ q → Place.Apart p q))

namespace Doc

variable {d e f v w : Doc} {k : String} {ms ns : List Member} {ps qs : List Place} {rest : Place}
  {x y z : Option Doc} {edit : Doc → Except Fault Doc}

/-! ## Objects that are created -/

/-- What was there stays, or an object is there in place of an object or of nothing. Null counts as
nothing. -/
def StaysOpen (x y : Option Doc) : Prop :=
  y = x ∨ (x.getD .null = .null ∨ (x.getD .null).isObj = true) ∧ (y.getD .null).isObj = true

theorem StaysOpen.trans (h : StaysOpen x y) (h' : StaysOpen y z) : StaysOpen x z := by
  rcases h' with rfl | ⟨hy, hz⟩
  · exact h
  rcases h with rfl | ⟨hx, -⟩
  · exact .inr ⟨hy, hz⟩
  · exact .inr ⟨hx, hz⟩

theorem staysOpen_obj (ms ns : List Member) : StaysOpen (some (.obj ms)) (some (.obj ns)) :=
  .inr ⟨.inr rfl, rfl⟩

/-- An object is there, or nothing. Null counts as nothing. -/
def IsOpen (x : Option Doc) : Prop := x.getD .null = .null ∨ (x.getD .null).isObj = true

theorem StaysOpen.isOpen (h : StaysOpen x y) (hx : IsOpen x) : IsOpen y := by
  rcases h with rfl | ⟨-, hy⟩
  · exact hx
  · exact .inr hy

/-! ## Changes -/

/-- Two documents that are the same apart from some places. Around these places there are objects
afterwards, or whatever was there. -/
structure ChangedWithin (ps : List Place) (d e : Doc) : Prop where
  outside : SameOutside ps d e
  around : ∀ q ∈ ps, ∀ p, p <+: q → p ≠ q → StaysOpen (d.at? p) (e.at? p)

namespace ChangedWithin

theorem refl (ps : List Place) (d : Doc) : ChangedWithin ps d d :=
  ⟨.refl ps d, fun _ _ _ _ _ => .inl rfl⟩

theorem trans (h : ChangedWithin ps d e) (h' : ChangedWithin ps e f) : ChangedWithin ps d f :=
  ⟨h.outside.trans h'.outside,
    fun q hq p hp hne => (h.around q hq p hp hne).trans (h'.around q hq p hp hne)⟩

theorem mono (h : ChangedWithin ps d e) (hps : ps ⊆ qs) (hqs : Place.AllApart qs) :
    ChangedWithin qs d e := by
  refine ⟨h.outside.mono hps, fun q hq p hp hne => ?_⟩
  by_cases hinside : ∃ q' ∈ ps, p <+: q'
  · obtain ⟨q', hq', hp'⟩ := hinside
    refine h.around q' hq' p hp' ?_
    rintro rfl
    exact (hqs p (hps hq') q hq hne).1 hp
  · refine .inl (h.outside p fun q' hq' => ⟨fun hq'p => ?_, fun hpq' => hinside ⟨q', hq', hpq'⟩⟩)
    have hsame : q' = q := by
      by_contra hother
      exact (hqs q' (hps hq') q hq hother).1 (hq'p.trans hp)
    exact hinside ⟨q', hq', hsame ▸ hp⟩

end ChangedWithin

theorem changedWithin_members {ks : List String} (hks : ks ≠ [])
    (h : ∀ j, j ∉ ks → ns.lookup j = ms.lookup j) :
    ChangedWithin (ks.map fun k => [.member k]) (.obj ms) (.obj ns) := by
  refine ⟨fun p hp => ?_, fun q hq p hp hne => ?_⟩
  · rw [List.forall_mem_map] at hp
    cases p with
    | nil =>
      obtain ⟨k, hk⟩ := List.exists_mem_of_ne_nil ks hks
      exact absurd rfl (hp k hk).ne_nil
    | cons step rest =>
      cases step with
      | item _ => rfl
      | member j =>
        have hj : j ∉ ks := fun hj => (hp j hj).1 ⟨rest, rfl⟩
        rw [at?, at?, h j hj]
  · obtain ⟨k, -, rfl⟩ := List.mem_map.mp hq
    cases p with
    | nil => exact staysOpen_obj ms ns
    | cons step rest =>
      obtain ⟨rfl, hrest⟩ := List.cons_prefix_cons.mp hp
      rw [List.prefix_nil.mp hrest] at hne
      exact absurd rfl hne

/-! ## Members -/

theorem at?_member (k : String) (ms : List Member) : (obj ms).at? [.member k] = ms.lookup k := by
  rw [Doc.at?]
  cases ms.lookup k <;> rfl

theorem at?_member_eq_some {p : Place} (h : d.at? (.member k :: p) = some e) :
    ∃ ms v, d = .obj ms ∧ ms.lookup k = some v ∧ v.at? p = some e := by
  cases d with
  | obj ms =>
    obtain ⟨v, hv, he⟩ := Option.bind_eq_some_iff.mp h
    exact ⟨ms, v, rfl, hv, he⟩
  | _ => cases h

/-- A member of an object. It counts as the empty object when it is missing or null. -/
def HasMember (k : String) (v : Doc) (ms : List Member) : Prop :=
  ms.lookup k = some v ∨ v = .empty ∧ (ms.lookup k).getD .null = .null

theorem HasMember.at? (h : HasMember k v ms) (hrest : rest ≠ []) :
    (obj ms).at? (.member k :: rest) = v.at? rest := by
  obtain ⟨s, rest, rfl⟩ := List.exists_cons_of_ne_nil hrest
  rcases h with h | ⟨rfl, h⟩
  · rw [Doc.at?, h, Option.bind_some]
  · have hempty : empty.at? (s :: rest) = none := by cases s <;> rfl
    rw [Doc.at?, hempty]
    cases hk : ms.lookup k with
    | none => rfl
    | some v =>
      rw [hk, Option.getD_some] at h
      subst h
      cases s <;> rfl

/-- **A change within a member is a change within the object.** -/
theorem changedWithin_member (hps : ps ≠ []) (hv : HasMember k v ms) (hw : ns.lookup k = some w)
    (hothers : ∀ j, j ≠ k → ns.lookup j = ms.lookup j) (h : ChangedWithin ps v w) :
    ChangedWithin (ps.map (.member k :: ·)) (.obj ms) (.obj ns) := by
  have hset : HasMember k w ns := .inl hw
  refine ⟨fun p hp => ?_, fun q hq p hp hne' => ?_⟩
  · rw [List.forall_mem_map] at hp
    obtain ⟨q, hq⟩ := List.exists_mem_of_ne_nil ps hps
    cases p with
    | nil => exact absurd rfl (hp q hq).ne_nil
    | cons step rest =>
      cases step with
      | item _ => rfl
      | member j =>
        by_cases hj : j = k
        · subst hj
          have hrest : rest ≠ [] := by
            rintro rfl
            exact (hp q hq).2 ⟨q, rfl⟩
          rw [hset.at? hrest, hv.at? hrest]
          exact h.outside rest fun q hq => (hp q hq).of_cons
        · rw [Doc.at?, Doc.at?, hothers j hj]
  · obtain ⟨q', hq', rfl⟩ := List.mem_map.mp hq
    cases p with
    | nil => exact staysOpen_obj _ _
    | cons step rest =>
      obtain ⟨rfl, hrest⟩ := List.cons_prefix_cons.mp hp
      have hopens := h.around q' hq' rest hrest fun heq => hne' (heq ▸ rfl)
      by_cases hnil : rest = []
      · -- The member itself is what may have to be created.
        subst hnil
        rw [at?_member, at?_member, hw]
        rcases hv with hv | ⟨rfl, hv⟩
        · rw [hv]
          exact hopens
        · refine .inr ⟨.inl hv, ?_⟩
          rcases hopens with hw | ⟨-, hw⟩
          · cases hw
            rfl
          · exact hw
      · rw [hv.at? hnil, hset.at? hnil]
        exact hopens

theorem changedWithin_setMember (hps : ps ≠ []) (hv : HasMember k v ms)
    (h : ChangedWithin ps v w) :
    ChangedWithin (ps.map (.member k :: ·)) (.obj ms) (.obj (setMember k w ms)) :=
  changedWithin_member hps hv (lookup_setMember_self _ _ _)
    (fun j hj => by rw [lookup_setMember, if_neg hj]) h

theorem isOpen_of_at? {names way : List String} (hnames : names <+: way)
    (h : d.at? (Place.ofNames way) = some (.obj ms)) : IsOpen (d.at? (Place.ofNames names)) := by
  obtain ⟨rest, rfl⟩ := hnames
  induction names generalizing d with
  | nil =>
    cases d with
    | obj ms => exact .inr rfl
    | _ => cases rest <;> cases h
  | cons k names ih =>
    rw [List.cons_append, at?_cons] at h
    rw [at?_cons]
    cases hk : d.membersOrNone.lookup k with
    | none => exact .inl rfl
    | some v =>
      rw [hk, Option.bind_some] at h
      exact ih h

/-! ## Edits -/

theorem changedWithin_modify (hps : ps ≠ []) (h : d.modify k edit = .ok e)
    (hedit : ∀ v w, edit v = .ok w → ChangedWithin ps v w) :
    ChangedWithin (ps.map (.member k :: ·)) d e := by
  obtain ⟨ms, v, w, rfl, hv, hw, rfl⟩ := modify_eq_ok_iff.mp h
  exact changedWithin_setMember hps (.inl hv) (hedit v w hw)

theorem SameBut.changedWithin (h : SameBut k d e) : ChangedWithin [[.member k]] d e := by
  obtain ⟨ms, ns, rfl, rfl, hns⟩ := h
  exact changedWithin_members (List.cons_ne_nil k []) fun j hj => hns j (by simpa using hj)

/-! ## Patches -/

theorem Focuses.exists_obj {patched : List Member} : ∀ {way : List String} {patch : Doc},
    patch.Focuses way (.obj patched) → ∃ ps, patch = .obj ps
  | [], _, h => ⟨patched, h⟩
  | _ :: _, _, h => by
    obtain ⟨ps, -, hpatch, -⟩ := h
    exact ⟨ps, hpatch⟩

theorem hasMember_of_isOpen (h : IsOpen (ms.lookup k)) :
    ∃ vs, vs = ((ms.lookup k).getD .null).membersOrNone ∧ HasMember k (.obj vs) ms := by
  cases hk : ms.lookup k with
  | none => exact ⟨[], rfl, .inr ⟨rfl, by rw [hk]; rfl⟩⟩
  | some v =>
    rw [hk] at h
    rcases h with h | h
    · obtain rfl : v = .null := h
      exact ⟨[], rfl, .inr ⟨rfl, by rw [hk]; rfl⟩⟩
    · cases v with
      | obj us => exact ⟨us, rfl, .inl hk⟩
      | _ => cases h

/-- **A patch that speaks of some members of one part changes a document there**, and creates the
objects around them. -/
theorem Focuses.changedWithin {patched : List Member} {ks : List String} (hks : ks ≠ [])
    (hothers : ∀ j, j ∉ ks → patched.lookup j = none) :
    ∀ {way : List String} {patch : Doc} {ms : List Member}, patch.Focuses way (.obj patched) →
      (∀ names, names <+: way → IsOpen ((obj ms).at? (Place.ofNames names))) →
        ChangedWithin (ks.map fun k => Place.ofNames (way ++ [k])) (.obj ms) ((obj ms).merge patch)
  | [], patch, ms, h, _ => by
    obtain rfl : patch = .obj patched := h
    exact changedWithin_members hks fun j hj => lookup_mergeMembers_of_none (hothers j hj)
  | k :: way, patch, ms, h, hopen => by
    obtain ⟨ps, p, rfl, hps, hk, hrest, hway⟩ := h
    have hmember := hopen [k] (List.cons_prefix_cons.mpr ⟨rfl, List.nil_prefix⟩)
    rw [Place.ofNames, List.map_singleton, at?_member] at hmember
    obtain ⟨vs, hvs, hv⟩ := hasMember_of_isOpen hmember
    have hinner : ChangedWithin (ks.map fun k => Place.ofNames (way ++ [k])) (.obj vs)
        ((obj vs).merge p) := by
      refine changedWithin hks hothers hway fun names hnames => ?_
      by_cases hne : names = []
      · exact hne ▸ .inr rfl
      · have hopens := hopen (k :: names) (List.cons_prefix_cons.mpr ⟨rfl, hnames⟩)
        rwa [Place.ofNames, List.map_cons, hv.at? (by simpa using hne)] at hopens
    have hmap : ks.map (fun j => Place.ofNames (k :: way ++ [j])) =
        (ks.map fun j => Place.ofNames (way ++ [j])).map (.member k :: ·) := by
      rw [List.map_map]
      rfl
    rw [hmap]
    refine changedWithin_member (by simpa using hks) hv ?_ (fun j hj => ?_) hinner
    · obtain ⟨qs, rfl⟩ := hway.exists_obj
      rw [lookup_mergeMembers hps, hk, hvs]
      rfl
    · exact lookup_mergeMembers_of_none (hrest j hj)

end Doc

end Workbench
