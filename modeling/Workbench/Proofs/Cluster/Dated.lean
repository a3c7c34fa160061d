import Workbench.Proofs.Cluster.Calls

/-!
# Versions that count the writes

The versions of a cluster in memory are numbers, and every write uses a new one. So a version tells
whether an object is the one that was read before, whatever happened in between.

* `Doc.HasVersion`: the number that an object has as its version; there is only one;
* `Memory.Dated`: no version is beyond the last one that was given; **`Dated.serve`**,
  `ofObjects_dated`: a cluster stays so;
* `Memory.Since`: what may have happened to a memory; **`Since.serve`** says that every call is a case
  of it;
* `objects_of_refused`: a call that is refused changes nothing;
* **`Dated.eq_of_isCurrent`**: a write that names the version which was read meets the object which
  was read.
-/

namespace Workbench

open Doc

namespace Doc

variable {d e : Doc} {n k : Nat} {a : Address}

theorem toString_nat_inj (h : toString n = toString k) : n = k := by
  rw [Nat.toString_eq_ofList_toDigits, Nat.toString_eq_ofList_toDigits, String.ofList_inj] at h
  rw [← Nat.ofDigitChars_ten_toDigits (n := n), h, Nat.ofDigitChars_ten_toDigits]

/-- The object has a number as its version. -/
def HasVersion (d : Doc) (n : Nat) : Prop :=
  ∃ ms md, d = .obj ms ∧ ms.lookup "metadata" = some (.obj md) ∧
    md.lookup "resourceVersion" = some (.str (toString n))

theorem hasVersion_stamped (h : Memory.stamped a n d = .ok e) : e.HasVersion n := by
  obtain ⟨ms, md, rfl, hmd, rfl⟩ := Memory.stamped_eq_ok_iff.mp h
  exact ⟨_, _, rfl, lookup_setMember_self _ _ _, by
    rw [Memory.stampedMembers, lookup_setMember_self]⟩

theorem SameIdentity.hasVersion (h : SameIdentity d e) (hd : d.HasVersion n) : e.HasVersion n := by
  obtain ⟨ms, md, ns, nd, rfl, rfl, hmd, hnd, -, hsame⟩ := h
  obtain ⟨_, md', hms, hmd', hn⟩ := hd
  cases hms
  obtain rfl : md = md' := by simpa [hmd] using hmd'
  exact ⟨ns, nd, rfl, hnd, by rw [hsame _ (by decide), hn]⟩

/-- Objects whose versions are the same have the same number. -/
theorem HasVersion.eq_of_isCurrent (hd : d.HasVersion n) (he : e.HasVersion k)
    (h : Memory.isCurrent d e = .ok true) : n = k := by
  obtain ⟨ms, md, rfl, hmd, hn⟩ := hd
  obtain ⟨ns, nd, rfl, hnd, hk⟩ := he
  simp only [Memory.isCurrent, require_obj, hmd, hnd, hn, read_obj, hk, ok_bind, Option.getD_some,
    pure_eq_ok, Except.ok.injEq, str_looseEq_iff, Doc.str.injEq] at h
  exact toString_nat_inj h

end Doc

namespace Memory

variable {m s t u : Memory} {a b : Address} {d e found found' : Doc} {v : Nat}

/-! ## Numbers -/

/-- The versions of all objects are numbers, and none is beyond the last one that was given. -/
def Dated (m : Memory) : Prop := ∀ e ∈ m.objects, ∃ n, n ≤ m.version ∧ e.2.HasVersion n

theorem mem_insert {x : Kept} : ∀ {objects : List Kept}, x ∈ insert a d objects →
    x.2 = d ∨ x ∈ objects
  | [], hx => .inl (by rw [List.mem_singleton.mp hx])
  | (c, e) :: rest, hx => by
    rw [insert] at hx
    split at hx
    · rcases List.mem_cons.mp hx with rfl | hx
      · exact .inl rfl
      · exact .inr (List.mem_cons_of_mem _ hx)
    · rcases List.mem_cons.mp hx with rfl | hx
      · exact .inr List.mem_cons_self
      · exact (mem_insert hx).imp id (List.mem_cons_of_mem _)

theorem put_cases (m : Memory) (d : Doc) :
    (∃ b e, (m.put d).1 = .ok e ∧ (m.put d).2 = ⟨insert b e m.objects, m.version + 1⟩ ∧
      e.HasVersion (m.version + 1)) ∨
    (∃ f v, (m.put d).1 = .error f ∧ (m.put d).2 = ⟨m.objects, v⟩ ∧ m.version ≤ v) := by
  unfold put
  cases hd : addressOf d with
  | error f => exact .inr ⟨f, m.version, rfl, rfl, Nat.le_refl _⟩
  | ok b =>
    cases hcheck : b.check with
    | error f =>
      simp only [hcheck]
      exact .inr ⟨f, m.version + 1, rfl, rfl, Nat.le_succ _⟩
    | ok _ =>
      cases h : stamped b (m.version + 1) d with
      | error f =>
        simp only [hcheck, h]
        exact .inr ⟨f, m.version, rfl, rfl, Nat.le_refl _⟩
      | ok e =>
        simp only [hcheck, h]
        exact .inl ⟨b, e, rfl, rfl, hasVersion_stamped h⟩

theorem Dated.put (hm : m.Dated) (d : Doc) : (m.put d).2.Dated := by
  rcases m.put_cases d with ⟨b, e, -, hput, he⟩ | ⟨f, v, -, hput, hv⟩
  · rw [hput]
    intro x hx
    rcases mem_insert hx with rfl | hx
    · exact ⟨_, Nat.le_refl _, he⟩
    · obtain ⟨n, hn, hx⟩ := hm x hx
      exact ⟨n, Nat.le_succ_of_le hn, hx⟩
  · rw [hput]
    intro x hx
    obtain ⟨n, hn, hx⟩ := hm x hx
    exact ⟨n, Nat.le_trans hn hv, hx⟩

theorem Dated.write (hm : m.Dated) (checked : Except Trouble Doc) : (m.write checked).2.Dated := by
  cases checked with
  | error t => exact hm
  | ok d => exact hm.put d

theorem Dated.drop (hm : m.Dated) (a : Address) : (m.drop a).Dated :=
  fun e he => hm e (List.mem_filter.mp he).1

/-- **The versions go on counting the writes, whatever is asked of a cluster.** -/
theorem Dated.serve (hm : m.Dated) (c : Call) : (m.serve c).2.Dated := by
  cases c with
  | get a => exact hm
  | list kind ns => exact hm
  | create d => exact hm.write _
  | update d => exact hm.write _
  | patch a p => exact hm.write _
  | delete a =>
    simp only [Memory.serve]
    split
    · exact hm.drop a
    · exact hm

/-- The versions of a cluster that some objects were put in count the writes. -/
theorem ofObjects_dated {objects : List Doc} (h : ofObjects objects = .ok m) : m.Dated := by
  have hstart : Dated {} := fun e he => absurd he List.not_mem_nil
  unfold ofObjects at h
  generalize ({} : Memory) = m₀ at h hstart
  induction objects generalizing m₀ with
  | nil =>
    cases h
    exact hstart
  | cons d objects ih =>
    obtain ⟨m₁, h₁, h₂⟩ := bind_eq_ok_iff.mp h
    refine ih m₁ h₂ ?_
    have hput := hstart.put d
    unfold putChecked at h₁
    rcases hd : m₀.put d with ⟨f | e, m₂⟩
    · rw [hd] at h₁
      cases h₁
    · rw [hd] at h₁ hput
      cases h₁
      exact hput

theorem Dated.hasVersion (hm : m.Dated) (h : m.lookup a = some d) :
    ∃ n, n ≤ m.version ∧ d.HasVersion n := by
  obtain ⟨e, hfind, rfl⟩ := Option.map_eq_some_iff.mp h
  exact hm e (List.mem_of_find?_eq_some hfind)

/-! ## What may have happened -/

/-- What may have happened since a memory was `s`: what is kept at a plain address was kept there
before, or has a version that was given later. -/
def Since (s t : Memory) : Prop :=
  s.version ≤ t.version ∧ ∀ a d, a.IsPlain → t.lookup a = some d →
    s.lookup a = some d ∨ ∃ n, s.version < n ∧ d.HasVersion n

theorem Since.refl (s : Memory) : Since s s := ⟨Nat.le_refl _, fun _ _ _ h => .inl h⟩

theorem Since.trans (hst : Since s t) (htu : Since t u) : Since s u := by
  refine ⟨Nat.le_trans hst.1 htu.1, fun a d ha hd => ?_⟩
  rcases htu.2 a d ha hd with hd | ⟨n, hn, hd⟩
  · exact hst.2 a d ha hd
  · exact .inr ⟨n, Nat.lt_of_le_of_lt hst.1 hn, hd⟩

theorem lookup_of_insert : ∀ {objects : List Kept},
    (mk (insert b e objects) v).lookup a = some d → d = e ∨ (mk objects v).lookup a = some d
  | [], h => by
    unfold lookup at h
    rw [insert, List.find?_singleton] at h
    split at h
    · exact .inl (Option.some.inj h).symm
    · cases h
  | (c, f) :: rest, h => by
    unfold lookup at h ⊢
    rw [insert] at h
    rw [List.find?_cons]
    split at h
    · rw [List.find?_cons] at h
      cases hc : c.looseEq a with
      | true =>
        simp only [hc] at h
        exact .inl (Option.some.inj h).symm
      | false =>
        simp only [hc] at h
        exact .inr h
    · rw [List.find?_cons] at h
      cases hc : c.looseEq a with
      | true =>
        simp only [hc] at h
        exact .inr h
      | false =>
        simp only [hc] at h
        exact lookup_of_insert h

theorem lookup_of_drop (ha : a.IsPlain) (h : (m.drop b).lookup a = some d) :
    m.lookup a = some d := by
  obtain ⟨e, hfind, rfl⟩ := Option.map_eq_some_iff.mp h
  have hkept : (m.objects.find? fun e => !a.looseEq b && e.1.looseEq a) = some e := by
    rw [← hfind, drop, List.find?_filter]
    congr 1
    funext e
    cases he : e.1.looseEq a with
    | false => simp
    | true => simp [(Address.looseEq_plain ha).mp he]
  cases hab : a.looseEq b with
  | true => exact absurd (List.find?_some hkept) (by simp [hab])
  | false =>
    simp only [hab, Bool.not_false, Bool.true_and] at hkept
    rw [lookup, hkept, Option.map_some]

theorem Since.put (m : Memory) (d : Doc) : Since m (m.put d).2 := by
  rcases m.put_cases d with ⟨b, e, -, hput, he⟩ | ⟨f, v, -, hput, hv⟩
  · rw [hput]
    refine ⟨Nat.le_succ _, fun a d _ h => ?_⟩
    rcases lookup_of_insert h with rfl | h
    · exact .inr ⟨_, Nat.lt_succ_self _, he⟩
    · exact .inl h
  · rw [hput]
    exact ⟨hv, fun a d _ h => .inl h⟩

/-- **Every call is a case of what may happen.** -/
theorem Since.serve (m : Memory) (c : Call) : Since m (m.serve c).2 := by
  have hwrite : ∀ checked, Since m (m.write checked).2 := by
    intro checked
    cases checked with
    | error t => exact .refl m
    | ok d => exact .put m d
  cases c with
  | get a => exact .refl m
  | list kind ns => exact .refl m
  | create d => exact hwrite _
  | update d => exact hwrite _
  | patch a p => exact hwrite _
  | delete b =>
    simp only [Memory.serve]
    split
    · exact ⟨Nat.le_refl _, fun a d ha h => .inl (lookup_of_drop ha h)⟩
    · exact .refl m

/-- A call that is refused changes nothing. -/
theorem objects_of_refused {c : Call} {e : Trouble} (h : (m.serve c).1 = .error e) :
    (m.serve c).2.objects = m.objects := by
  have hwrite : ∀ checked, (m.write checked).1 = .error e →
      (m.write checked).2.objects = m.objects := by
    intro checked hrefused
    cases checked with
    | error t => rfl
    | ok d =>
      rcases m.put_cases d with ⟨b, d', hput, -⟩ | ⟨f, v, -, hput, -⟩
      · change (m.put d).1.mapError Trouble.fault = .error e at hrefused
        rw [hput] at hrefused
        cases hrefused
      · change (m.put d).2.objects = m.objects
        rw [hput]
  cases c with
  | get a => rfl
  | list kind ns => rfl
  | create d => exact hwrite _ h
  | update d => exact hwrite _ h
  | patch a p => exact hwrite _ h
  | delete b =>
    simp only [Memory.serve] at h ⊢
    split
    · next hfetch =>
      rw [hfetch] at h
      cases h
    · rfl

/-- **A write that names the version which was read meets the object which was read.** -/
theorem Dated.eq_of_isCurrent (hs : s.Dated) (hst : Since s t) (ha : a.IsPlain)
    (hfound : s.lookup a = some found) (hsame : SameIdentity found d)
    (hfound' : t.lookup a = some found') (hcurrent : isCurrent found' d = .ok true) :
    found' = found := by
  obtain ⟨n, hn, hversion⟩ := hs.hasVersion hfound
  rcases hst.2 a found' ha hfound' with h | ⟨k, hk, hversion'⟩
  · rw [hfound, Option.some.injEq] at h
    exact h.symm
  · -- What was put in later has a version beyond all that could have been read.
    have hkn : k = n := hversion'.eq_of_isCurrent (hsame.hasVersion hversion) hcurrent
    omega

end Memory

end Workbench
