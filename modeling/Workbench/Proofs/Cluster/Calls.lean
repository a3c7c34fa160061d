import Workbench.Proofs.Cluster.Safe
import Workbench.Proofs.Cluster.Version

/-!
# Single calls among other programs

* `Memory.view`: what is kept at an address, without its version;
* `Memory.Wrote`, `Memory.Removed`: the memory after a write and after a removal;
* `Memory.write_stamped`, `Memory.checkCreate_plain`, `Memory.checkUpdate_plain`: what a write does,
  and when it goes through; `Memory.serve_create_eq_ok`, `Memory.serve_update_eq_ok` say what is known
  once it did;
* `Safe.get`, `Safe.createUnlessThere`, `Safe.update` and the like: what has to be shown of a single
  call for every memory that it may meet;
* `Safe.get_seq`, `Safe.find?_seq`, `Safe.exists?_seq`: the same for a program that reads and goes on
  with what it has read.
-/

namespace Workbench

open Doc

namespace Memory

variable {m m' : Memory} {a b : Address} {d found : Doc}

/-- What is kept at an address, without its version. -/
def view (m : Memory) (a : Address) : Option Doc := (m.lookup a).map Doc.unversioned

/-- An object is kept at its address, and nothing else has changed. -/
structure Wrote (a : Address) (d : Doc) (m m' : Memory) : Prop where
  view : m'.view a = some (d.asKept a)
  elsewhere : ∀ b, b ≠ a → m'.lookup b = m.lookup b

/-- Nothing is kept at an address any more, and nothing else has changed. -/
structure Removed (a : Address) (m m' : Memory) : Prop where
  lookup : m'.lookup a = none
  elsewhere : ∀ b, b ≠ a → m'.lookup b = m.lookup b

/-! ## Answers at plain addresses -/

theorem fetch_plain (ha : a.IsPlain) (verb : String) : m.fetch verb a =
    match m.lookup a with
    | some d => .ok d
    | none => .error (missing verb a) := by
  unfold fetch
  rw [find?_plain ha]
  cases m.lookup a <;> rfl

/-- A write at a plain address goes through: the object is kept there with the next version, and
nothing else has changed. -/
theorem write_stamped (ha : a.IsPlain) (hd : addressOf d = .ok a) :
    ∃ e m', m.write (.ok d) = (.ok e, m') ∧ stamped a (m.version + 1) d = .ok e ∧
      m'.lookup a = some e ∧ ∀ b, b ≠ a → m'.lookup b = m.lookup b := by
  obtain ⟨e, he⟩ := (hasMetadata_of_addressOf hd).stamped a (m.version + 1)
  refine ⟨e, ⟨insert a e m.objects, m.version + 1⟩, ?_, he, ?_, fun b hb => ?_⟩
  · simp only [write, put, hd, ha.check_eq, he, Except.mapError]
  · rw [lookup_insert ha, if_pos rfl]
  · rw [lookup_insert ha, if_neg hb]
    rfl

theorem write_plain (ha : a.IsPlain) (hd : addressOf d = .ok a) :
    ∃ e m', m.write (.ok d) = (.ok e, m') ∧ Wrote a d m m' := by
  obtain ⟨e, m', hwrite, he, hlookup, helse⟩ := write_stamped (m := m) ha hd
  refine ⟨e, m', hwrite, ?_, helse⟩
  rw [Memory.view, hlookup, Option.map_some, unversioned_stamped he]

theorem checkCreate_plain (ha : a.IsPlain) (hd : addressOf d = .ok a) : m.checkCreate d =
    match m.lookup a with
    | some _ => .error (conflicting "create" a "already exists")
    | none => .ok d := by
  unfold checkCreate
  rw [hd]
  change (liftM (m.find? a) >>= _ : Except Trouble Doc) = _
  rw [find?_plain ha]
  cases m.lookup a <;> rfl

theorem checkUpdate_plain (ha : a.IsPlain) (hd : addressOf d = .ok a) : m.checkUpdate d =
    match m.lookup a with
    | some found =>
      match isCurrent found d with
      | .ok true => .ok d
      | .ok false => .error (conflicting "update" a "stale resourceVersion")
      | .error f => .error (.fault f)
    | none => .error (missing "update" a) := by
  unfold checkUpdate
  rw [hd]
  change (m.fetch "update" a >>= _) = _
  rw [fetch_plain ha]
  cases m.lookup a with
  | none => rfl
  | some found =>
    dsimp only
    rw [ok_bind]
    cases isCurrent found d with
    | error f => rfl
    | ok isSame => cases isSame <;> rfl

/-- A new object was kept where nothing was. -/
theorem serve_create_eq_ok {e : Doc} (ha : a.IsPlain) (hd : addressOf d = .ok a)
    (h : m.serve (.create d) = (.ok e, m')) : m.lookup a = none ∧
      stamped a (m.version + 1) d = .ok e ∧ m'.lookup a = some e ∧
        ∀ b, b ≠ a → m'.lookup b = m.lookup b := by
  rw [Memory.serve, checkCreate_plain ha hd] at h
  cases hfree : m.lookup a with
  | some found => simp [hfree, Memory.write] at h
  | none =>
    obtain ⟨e', m₁, hwrite, hstamped, hkept, helse⟩ := write_stamped (m := m) ha hd
    rw [hfree] at h
    obtain ⟨he, rfl⟩ := Prod.mk.inj (hwrite.symm.trans h)
    cases he
    exact ⟨rfl, hstamped, hkept, helse⟩

/-- An object was written over, and its version was named. -/
theorem serve_update_eq_ok {e : Doc} (ha : a.IsPlain) (hd : addressOf d = .ok a)
    (h : m.serve (.update d) = (.ok e, m')) : ∃ found, m.lookup a = some found ∧
      isCurrent found d = .ok true ∧ stamped a (m.version + 1) d = .ok e ∧
        m'.lookup a = some e ∧ ∀ b, b ≠ a → m'.lookup b = m.lookup b := by
  rw [Memory.serve, checkUpdate_plain ha hd] at h
  cases hthere : m.lookup a with
  | none => simp [hthere, Memory.write] at h
  | some found =>
    cases hcurrent : isCurrent found d with
    | error f => simp [hthere, hcurrent, Memory.write] at h
    | ok isSame =>
      cases isSame with
      | false => simp [hthere, hcurrent, Memory.write] at h
      | true =>
        obtain ⟨e', m₁, hwrite, hstamped, hkept, helse⟩ := write_stamped (m := m) ha hd
        simp only [hthere, hcurrent] at h
        obtain ⟨he, rfl⟩ := Prod.mk.inj (hwrite.symm.trans h)
        cases he
        exact ⟨found, rfl, hcurrent, hstamped, hkept, helse⟩

theorem Sound.kept (hm : m.Sound) (ha : a.IsPlain) (h : m.lookup a = some d) :
    ∃ ms md, d = .obj ms ∧ ms.lookup "metadata" = some (.obj md) ∧ (md.lookup "uid").isSome ∧
      (md.lookup "resourceVersion").isSome := by
  obtain ⟨ms, md, rfl, hmd, -⟩ := addressOf_eq_ok_iff.mp (hm.addressOf_eq ha h)
  obtain ⟨⟨b, e⟩, hfind, he⟩ := Option.map_eq_some_iff.mp h
  obtain ⟨_, metadata, uid, version, -, -, hmetadata, huid, hversion⟩ :=
    hm _ (List.mem_of_find?_eq_some hfind)
  simp only at he
  subst he
  obtain ⟨_, h₁, h₂⟩ := require_eq_ok_iff.mp hmetadata
  cases h₁
  obtain rfl : metadata = .obj md := by simpa [hmd] using h₂.symm
  obtain ⟨_, h₃, huid⟩ := require_eq_ok_iff.mp huid
  cases h₃
  obtain ⟨_, h₄, hversion⟩ := require_eq_ok_iff.mp hversion
  cases h₄
  exact ⟨ms, md, rfl, hmd, by rw [huid]; rfl, by rw [hversion]; rfl⟩

theorem Sound.isCurrent (hm : m.Sound) (ha : a.IsPlain) (h : m.lookup a = some found)
    (hd : d.HasMetadata) : ∃ isSame, Memory.isCurrent found d = .ok isSame := by
  obtain ⟨ms, md, rfl, hmd, -, hversion⟩ := hm.kept ha h
  obtain ⟨version, hversion⟩ := Option.isSome_iff_exists.mp hversion
  obtain ⟨ns, nd, rfl, hnd⟩ := hd
  refine ⟨((nd.lookup "resourceVersion").getD .null).looseEq version, ?_⟩
  simp [Memory.isCurrent, hmd, hnd, hversion]

theorem Sound.isCurrent_of_same (hm : m.Sound) (ha : a.IsPlain) (h : m.lookup a = some found)
    (hd : SameIdentity found d) : Memory.isCurrent found d = .ok true := by
  obtain ⟨ms, md, rfl, hmd, -, hversion⟩ := hm.kept ha h
  obtain ⟨version, hversion⟩ := Option.isSome_iff_exists.mp hversion
  obtain ⟨_, _, ns, nd, hms, rfl, hmd', hnd, -, hsame⟩ := hd
  cases hms
  obtain rfl : md = _ := by simpa [hmd] using hmd'
  have hgiven := hsame "resourceVersion" (by decide)
  simp [Memory.isCurrent, hmd, hnd, hversion, hgiven, looseEq_self]

theorem Sound.asKept_of_same (hm : m.Sound) (ha : a.IsPlain) (h : m.lookup a = some found)
    (hd : SameIdentity found d) : d.asKept a = d.unversioned := by
  obtain ⟨ms, md, rfl, hmd, huid, -⟩ := hm.kept ha h
  obtain ⟨_, _, ns, nd, hms, rfl, hmd', hnd, -, hsame⟩ := hd
  cases hms
  obtain rfl : md = _ := by simpa [hmd] using hmd'
  exact asKept_of_uid rfl hnd (by rw [hsame "uid" (by decide)]; exact huid)

/-! ## Views -/

theorem view_of_lookup (h : m.lookup a = some d) : m.view a = some d.unversioned := by
  rw [view, h, Option.map_some]

theorem view_congr {s t : Memory} (h : t.lookup a = s.lookup a) : t.view a = s.view a := by
  rw [Memory.view, Memory.view, h]

theorem Sound.lookup_of_view (hm : m.Sound) (ha : a.IsPlain) (h : m.view a = some d) :
    ∃ e, m.lookup a = some e ∧ e.HasMetadata ∧ e.unversioned = d := by
  obtain ⟨e, he, hed⟩ := Option.map_eq_some_iff.mp h
  exact ⟨e, he, hasMetadata_of_addressOf (hm.addressOf_eq ha he), hed⟩

theorem Sound.hasMetadata_of_view (hm : m.Sound) (ha : a.IsPlain) (h : m.view a = some d) :
    d.HasMetadata := by
  obtain ⟨e, -, ⟨ms, md, rfl, hmd⟩, rfl⟩ := hm.lookup_of_view ha h
  exact ⟨_, _, unversioned_obj hmd, lookup_setMember_self _ _ _⟩

end Memory

namespace Action.Safe

open Memory

variable {rely guar : Change} {m : Memory} {a : Address} {d : Doc}

/-! ## Reading -/

theorem get {post : Except Trouble Doc → Memory → Prop} (ha : a.IsPlain) (hguar : ∀ t, guar t t)
    (hsome : ∀ t d, t.Sound → rely m t → t.lookup a = some d → post (.ok d) t)
    (hnone : ∀ t, t.Sound → rely m t → t.lookup a = none → post (.error (missing "get" a)) t) :
    Safe rely guar post (get a) m := by
  intro hm t ht hmt
  refine ⟨hguar t, ?_⟩
  simp only [Memory.serve, fetch_plain ha]
  cases h : t.lookup a with
  | some d => exact fun _ => hsome t d ht hmt h
  | none => exact fun _ => hnone t ht hmt h

theorem find? {post : Except Trouble (Option Doc) → Memory → Prop} (ha : a.IsPlain)
    (hguar : ∀ t, guar t t) (h : ∀ t, t.Sound → rely m t → post (.ok (t.lookup a)) t) :
    Safe rely guar post (find? a) m := by
  intro hm t ht hmt
  refine ⟨hguar t, ?_⟩
  have hpost := h t ht hmt
  simp only [Memory.serve, fetch_plain ha]
  cases hlookup : t.lookup a with
  | some d => exact fun _ => hlookup ▸ hpost
  | none => exact fun _ => hlookup ▸ hpost

theorem exists? {post : Except Trouble Bool → Memory → Prop} (ha : a.IsPlain)
    (hguar : ∀ t, guar t t) (h : ∀ t, t.Sound → rely m t → post (.ok (t.lookup a).isSome) t) :
    Safe rely guar post (exists? a) m := by
  intro hm t ht hmt
  refine ⟨hguar t, ?_⟩
  have hpost := h t ht hmt
  simp only [Memory.serve, fetch_plain ha]
  cases hlookup : t.lookup a with
  | some d => exact fun _ => by simpa [hlookup] using hpost
  | none => exact fun _ => by simpa [hlookup] using hpost

/-! ## Reading first -/

section Seq

variable {β : Type} {post : Except Trouble β → Memory → Prop}

/-- A program that goes on with an object. -/
theorem get_seq {f : Doc → Action β} (ha : a.IsPlain) (hguar : ∀ t, guar t t)
    (hsome : ∀ t d, t.Sound → rely m t → t.lookup a = some d → Safe rely guar post (f d) t)
    (hnone : ∀ t, t.Sound → rely m t → t.lookup a = none → post (.error (missing "get" a)) t) :
    Safe rely guar post (Action.get a >>= f) m := by
  refine seq (p := fun x t => (∀ d, x = .ok d → Safe rely guar post (f d) t) ∧
    ∀ e, x = .error e → post (.error e) t) ?_ ?_ (get ha hguar ?_ ?_)
  · exact fun v t _ h => h.1 v rfl
  · exact fun e t _ h => h.2 e rfl
  · intro t d ht hmt hlookup
    refine ⟨fun d' hd => ?_, fun e he => by cases he⟩
    cases hd
    exact hsome t d ht hmt hlookup
  · intro t ht hmt hlookup
    refine ⟨fun d hd => (by cases hd), fun e he => ?_⟩
    cases he
    exact hnone t ht hmt hlookup

/-- A program that goes on with an object, if it is there. -/
theorem find?_seq {f : Option Doc → Action β} (ha : a.IsPlain) (hguar : ∀ t, guar t t)
    (h : ∀ t, t.Sound → rely m t → Safe rely guar post (f (t.lookup a)) t) :
    Safe rely guar post (Action.find? a >>= f) m := by
  refine seq (p := fun x t => ∃ v, x = .ok v ∧ Safe rely guar post (f v) t) ?_ ?_
    (find? ha hguar fun t ht hmt => ⟨_, rfl, h t ht hmt⟩)
  · rintro v t _ ⟨_, hx, hf⟩
    cases hx
    exact hf
  · rintro e t _ ⟨_, hx, -⟩
    cases hx

/-- A program that goes on with whether an object is there. -/
theorem exists?_seq {f : Bool → Action β} (ha : a.IsPlain) (hguar : ∀ t, guar t t)
    (h : ∀ t, t.Sound → rely m t → Safe rely guar post (f (t.lookup a).isSome) t) :
    Safe rely guar post (Action.exists? a >>= f) m := by
  refine seq (p := fun x t => ∃ v, x = .ok v ∧ Safe rely guar post (f v) t) ?_ ?_
    (exists? ha hguar fun t ht hmt => ⟨_, rfl, h t ht hmt⟩)
  · rintro v t _ ⟨_, hx, hf⟩
    cases hx
    exact hf
  · rintro e t _ ⟨_, hx, -⟩
    cases hx

end Seq

/-! ## Writing -/

variable {post : Except Trouble Unit → Memory → Prop}

/-- A new object, and how the program ends when one is there already. -/
theorem createUnlessThere {post : Except Trouble Bool → Memory → Prop} (ha : a.IsPlain)
    (hd : addressOf d = .ok a) (hguar : ∀ t, guar t t)
    (hnew : ∀ t u, t.Sound → u.Sound → rely m t → t.lookup a = none → Wrote a d t u →
      guar t u ∧ post (.ok true) u)
    (hthere : ∀ t found, t.Sound → rely m t → t.lookup a = some found → post (.ok false) t) :
    Safe rely guar post (createUnlessThere d) m := by
  intro hm t ht hmt
  have hu := ht.serve (.create d)
  simp only [Memory.serve, checkCreate_plain ha hd] at hu ⊢
  cases h : t.lookup a with
  | some found => exact ⟨hguar t, fun _ => hthere t found ht hmt h⟩
  | none =>
    obtain ⟨e, u, hwrite, hwrote⟩ := write_plain (m := t) ha hd
    simp only [h, hwrite] at hu ⊢
    obtain ⟨hg, hpost⟩ := hnew t u ht hu hmt h hwrote
    exact ⟨hg, fun _ => hpost⟩

/-- An object written over, unless its version is not the one that is there. -/
theorem update (ha : a.IsPlain) (hd : addressOf d = .ok a) (hguar : ∀ t, guar t t)
    (hcurrent : ∀ t u found, t.Sound → u.Sound → rely m t → t.lookup a = some found →
      isCurrent found d = .ok true → Wrote a d t u → guar t u ∧ post (.ok ()) u)
    (hstale : ∀ t found, t.Sound → rely m t → t.lookup a = some found →
      isCurrent found d = .ok false →
        post (.error (conflicting "update" a "stale resourceVersion")) t)
    (hnone : ∀ t, t.Sound → rely m t → t.lookup a = none →
      post (.error (missing "update" a)) t) :
    Safe rely guar post (update d) m := by
  intro hm t ht hmt
  have hu := ht.serve (.update d)
  simp only [Memory.serve, checkUpdate_plain ha hd] at hu ⊢
  cases h : t.lookup a with
  | none => exact ⟨hguar t, fun _ => hnone t ht hmt h⟩
  | some found =>
    obtain ⟨isSame, hsame⟩ := ht.isCurrent ha h (hasMetadata_of_addressOf hd)
    cases isSame with
    | false =>
      simp only [hsame]
      exact ⟨hguar t, fun _ => hstale t found ht hmt h hsame⟩
    | true =>
      obtain ⟨e, u, hwrite, hwrote⟩ := write_plain (m := t) ha hd
      simp only [h, hsame, hwrite] at hu ⊢
      obtain ⟨hg, hpost⟩ := hcurrent t u found ht hu hmt h hsame hwrote
      exact ⟨hg, fun _ => hpost⟩

theorem patch {p : Doc} (ha : a.IsPlain) (hguar : ∀ t, guar t t)
    (hsome : ∀ t d, t.Sound → rely m t → t.lookup a = some d → addressOf (d.merge p) = .ok a ∧
      ∀ u, u.Sound → Wrote a (d.merge p) t u → guar t u ∧ post (.ok ()) u)
    (hnone : ∀ t, t.Sound → rely m t → t.lookup a = none →
      post (.error (missing "patch" a)) t) :
    Safe rely guar post (patch a p) m := by
  intro hm t ht hmt
  have hu := ht.serve (.patch a p)
  simp only [Memory.serve, fetch_plain ha] at hu ⊢
  cases h : t.lookup a with
  | none => exact ⟨hguar t, fun _ => hnone t ht hmt h⟩
  | some d =>
    obtain ⟨hd, hpost⟩ := hsome t d ht hmt h
    obtain ⟨e, u, hwrite, hwrote⟩ := write_plain (m := t) ha hd
    simp only [h, ok_bind, pure_eq_ok, hwrite] at hu ⊢
    obtain ⟨hg, hpost⟩ := hpost u hu hwrote
    exact ⟨hg, fun _ => hpost⟩

theorem delete (ha : a.IsPlain) (hguar : ∀ t, guar t t)
    (hsome : ∀ t u d, t.Sound → u.Sound → rely m t → t.lookup a = some d → Removed a t u →
      guar t u ∧ post (.ok ()) u)
    (hnone : ∀ t, t.Sound → rely m t → t.lookup a = none →
      post (.error (missing "delete" a)) t) :
    Safe rely guar post (delete a) m := by
  intro hm t ht hmt
  simp only [Memory.serve, fetch_plain ha]
  cases h : t.lookup a with
  | none => exact ⟨hguar t, fun _ => hnone t ht hmt h⟩
  | some d =>
    have hremoved : Removed a t (t.drop a) := by
      refine ⟨?_, fun b hb => ?_⟩
      · rw [lookup_drop ha, if_pos rfl]
      · rw [lookup_drop ha, if_neg hb]
    obtain ⟨hg, hpost⟩ := hsome t _ d ht (ht.drop a) hmt h hremoved
    exact ⟨hg, fun _ => hpost⟩

end Action.Safe

end Workbench
