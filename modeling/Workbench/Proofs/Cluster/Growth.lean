import Workbench.Proofs.Cluster.Mishaps

/-!
# What stays in a cluster

An object goes away only when it is removed, and appears only where it says that it belongs. So what a
run has made stays there, whatever goes wrong afterwards.

* `Memory.addresses_insert`, `Memory.addresses_put`: the addresses after a write;
* `Memory.Grows`: objects stay, apart from some, and none appears at an address;
* `Call.Grows`: a call that changes a memory so; `Memory.grows_serve`, `Served.Happens.grows` say that
  it does, whether its answer is lost or not;
* **`Upholds.grows`**, `Upholds.andThen`: a program whose calls are such.
-/

namespace Workbench

open Doc

namespace Memory

variable {m t u : Memory} {a b c shut : Address} {d e : Doc} {v : Nat} {gone gone' : List Address}

/-! ## Addresses -/

theorem isSome_lookup_iff : (m.lookup a).isSome ↔ ∃ c ∈ m.objects.map Prod.fst, c.looseEq a := by
  simp [lookup, List.find?_isSome]

/-- A write adds an address unless it is there. -/
theorem addresses_insert (a : Address) (d : Doc) : ∀ objects : List Kept,
    (insert a d objects).map Prod.fst =
      if (objects.map Prod.fst).any (·.looseEq a) then objects.map Prod.fst
      else objects.map Prod.fst ++ [a]
  | [] => rfl
  | (c, e) :: rest => by
    rw [insert]
    cases hc : c.looseEq a with
    | true => simp [hc]
    | false =>
      simp only [Bool.false_eq_true, if_false, List.map_cons, addresses_insert a d rest, List.any_cons,
        hc, Bool.false_or]
      split <;> rfl

/-- So does an object that is put in: its own address, if anything. -/
theorem addresses_put (m : Memory) (d : Doc) :
    (m.put d).2.objects.map Prod.fst = m.objects.map Prod.fst ∨
      ∃ a, addressOf d = .ok a ∧ (m.objects.map Prod.fst).any (·.looseEq a) = false ∧
        (m.put d).2.objects.map Prod.fst = m.objects.map Prod.fst ++ [a] := by
  unfold put
  cases hd : addressOf d with
  | error f => exact .inl rfl
  | ok a =>
    dsimp only
    cases a.check with
    | error f => exact .inl rfl
    | ok _ =>
      dsimp only
      cases stamped a (m.version + 1) d with
      | error f => exact .inl rfl
      | ok e =>
        dsimp only
        rw [addresses_insert]
        split
        · exact .inl rfl
        · next hnew => exact .inr ⟨a, rfl, Bool.eq_false_iff.mpr hnew, rfl⟩

/-! ## Growth -/

/-- Objects stay, unless they are at one of the addresses `gone`. None appears at `shut`. -/
structure Grows (gone : List Address) (shut : Address) (m t : Memory) : Prop where
  sound : m.Sound → t.Sound
  stays : ∀ a ∉ gone, (m.lookup a).isSome → (t.lookup a).isSome
  shut : m.Sound → (t.lookup shut).isSome → (m.lookup shut).isSome

theorem grows_closed (gone : List Address) (shut : Address) : Change.Closed (Grows gone shut) where
  refl _ := ⟨id, fun _ _ => id, fun _ => id⟩
  trans h h' := ⟨h'.sound ∘ h.sound, fun a ha => h'.stays a ha ∘ h.stays a ha,
    fun hs => h.shut hs ∘ h'.shut (h.sound hs)⟩

theorem grows_put (gone : List Address) (hshut : m.Sound → ∀ a, addressOf d = .ok a →
      a.looseEq shut = false ∨ (m.objects.map Prod.fst).any (·.looseEq a)) :
    Grows gone shut m (m.put d).2 := by
  refine ⟨fun hm => hm.put d, fun b _ hb => ?_, fun hm hb => ?_⟩ <;>
    rw [isSome_lookup_iff] at hb ⊢ <;> rcases addresses_put m d with hsame | ⟨a, ha, hnew, hmore⟩
  · rwa [hsame]
  · obtain ⟨c, hc, hcb⟩ := hb
    exact ⟨c, hmore ▸ List.mem_append_left _ hc, hcb⟩
  · rwa [hsame] at hb
  · obtain ⟨c, hc, hcb⟩ := hb
    rw [hmore] at hc
    rcases List.mem_append.mp hc with hc | hc
    · exact ⟨c, hc, hcb⟩
    · rw [List.mem_singleton.mp hc] at hcb
      rcases hshut hm a ha with hne | hthere
      · cases hne.symm.trans hcb
      · cases hnew.symm.trans hthere

end Memory

/-- The call removes at most what is at the addresses `gone`, and puts nothing at `shut`: what it
creates belongs elsewhere, and what it patches stays where it is. -/
def Call.Grows (gone : List Address) (shut : Address) : Call → Prop
  | .get _ => True
  | .list _ _ => True
  | .create d => ∃ a, a.IsPlain ∧ Memory.addressOf d = .ok a ∧ a ≠ shut
  | .update _ => True
  | .patch _ p => ∃ ps, p = .obj ps ∧ ps.lookup "metadata" = none ∧ ps.lookup "kind" = none
  | .delete a => a.IsPlain ∧ a ∈ gone

namespace Memory

variable {m : Memory} {a shut : Address} {gone gone' : List Address} {c : Call}

theorem grows_write {checked : Except Trouble Doc} (gone : List Address)
    (h : ∀ d, checked = .ok d → m.Sound → ∀ a, addressOf d = .ok a →
      a.looseEq shut = false ∨ (m.objects.map Prod.fst).any (·.looseEq a)) :
    Grows gone shut m (m.write checked).2 := by
  cases checked with
  | error _ => exact (grows_closed gone shut).refl m
  | ok d => exact grows_put gone (h d rfl)

theorem any_of_find? {d : Doc} (h : m.find? a = .ok (some d)) :
    (m.objects.map Prod.fst).any (·.looseEq a) := by
  rcases find?_cases m a with hfind | ⟨f, hfind⟩
  · rw [hfind, Except.ok.injEq] at h
    obtain ⟨c, hc, hca⟩ := isSome_lookup_iff.mp (by rw [h, Option.isSome_some])
    exact List.any_eq_true.mpr ⟨c, hc, hca⟩
  · cases hfind.symm.trans h

theorem find?_of_fetch {verb : String} {d : Doc} (h : m.fetch verb a = .ok d) :
    m.find? a = .ok (some d) := by
  obtain ⟨found, hfound, h⟩ := bind_eq_ok_iff.mp h
  cases found with
  | none => cases h
  | some e =>
    cases h
    exact liftM_fault_eq_ok_iff.mp hfound

theorem eq_of_checkCreate {d e : Doc} (h : m.checkCreate d = .ok e) : e = d := by
  obtain ⟨_, -, h⟩ := bind_eq_ok_iff.mp h
  obtain ⟨found, -, h⟩ := bind_eq_ok_iff.mp h
  split at h
  · cases h
  · exact (Except.ok.inj h).symm

theorem there_of_checkUpdate {d e : Doc} (h : m.checkUpdate d = .ok e) :
    e = d ∧ ∃ a found, addressOf d = .ok a ∧ m.find? a = .ok (some found) := by
  obtain ⟨a, ha, h⟩ := bind_eq_ok_iff.mp h
  obtain ⟨found, hfound, h⟩ := bind_eq_ok_iff.mp h
  obtain ⟨isSame, -, h⟩ := bind_eq_ok_iff.mp h
  split at h
  · exact ⟨(Except.ok.inj h).symm, a, found, liftM_fault_eq_ok_iff.mp ha, find?_of_fetch hfound⟩
  · cases h

theorem Sound.there_of_patch {d : Doc} {ps : List Member} {b : Address} (hm : m.Sound)
    (hmeta : ps.lookup "metadata" = none) (hkind : ps.lookup "kind" = none)
    (hd : m.find? a = .ok (some d)) (hb : addressOf (d.merge (.obj ps)) = .ok b) :
    (m.objects.map Prod.fst).any (·.looseEq b) := by
  rcases find?_cases m a with hfind | ⟨f, hfind⟩
  · rw [hfind, Except.ok.injEq] at hd
    obtain ⟨⟨c, e⟩, hmem, rfl⟩ := Option.map_eq_some_iff.mp hd
    obtain ⟨b', -, -, -, hb', hc, -⟩ := hm _ (List.mem_of_find?_eq_some hmem)
    have hsame := (keepsIdentity_merge hmeta hkind).same (hasMetadata_of_addressOf hb') rfl
    cases (hsame.addressOf hb').symm.trans hb
    exact List.any_eq_true.mpr
      ⟨c, List.mem_map_of_mem (List.mem_of_find?_eq_some hmem), hc⟩
  · cases hfind.symm.trans hd

theorem grows_drop (ha : a.IsPlain) (hmem : a ∈ gone) : Grows gone shut m (m.drop a) := by
  refine ⟨fun hm => hm.drop a, fun b hb hthere => ?_, fun _ hthere => ?_⟩
  · rw [lookup_drop ha, if_neg fun heq : b = a => hb (heq ▸ hmem)]
    exact hthere
  · rw [lookup_drop ha] at hthere
    split at hthere
    · cases hthere
    · exact hthere

/-- A call changes the memory as it says. -/
theorem grows_serve (h : c.Grows gone shut) : Grows gone shut m (m.serve c).2 := by
  cases c with
  | get a => exact (grows_closed gone shut).refl m
  | list kind ns => exact (grows_closed gone shut).refl m
  | create d =>
    obtain ⟨a, ha, hd, hne⟩ := h
    refine grows_write gone fun d' hcheck _ b hb => .inl ?_
    rw [eq_of_checkCreate hcheck] at hb
    cases hd.symm.trans hb
    rw [Bool.eq_false_iff, ne_eq, Address.plain_looseEq ha]
    exact hne.symm
  | update d =>
    refine grows_write gone fun d' hcheck _ b hb => .inr ?_
    obtain ⟨rfl, a, found, ha, hfound⟩ := there_of_checkUpdate hcheck
    cases ha.symm.trans hb
    exact any_of_find? hfound
  | patch a p =>
    obtain ⟨ps, rfl, hmeta, hkind⟩ := h
    refine grows_write gone fun d' hmerged hm b hb => .inr ?_
    obtain ⟨found, hfound, hmerged⟩ := bind_eq_ok_iff.mp hmerged
    cases hmerged
    exact hm.there_of_patch hmeta hkind (find?_of_fetch hfound) hb
  | delete a =>
    simp only [serve]
    split
    · exact grows_drop h.1 h.2
    · exact (grows_closed gone shut).refl m

end Memory

/-- A call whose answer is lost is served all the same, and one that is refused changes nothing. -/
theorem Served.Happens.grows {w : Served} {gone : List Address} {shut : Address} (h : w.Happens)
    (hcall : w.call.Grows gone shut) : Memory.Grows gone shut w.before w.after := by
  cases h with
  | served m c => exact Memory.grows_serve hcall
  | lost m c e => exact Memory.grows_serve hcall
  | refused m c e => exact (Memory.grows_closed gone shut).refl m

theorem Call.Grows.mono {gone gone' : List Address} {shut : Address} (hgone : gone ⊆ gone') :
    ∀ c : Call, c.Grows gone shut → c.Grows gone' shut
  | .get _, _ => trivial
  | .list _ _, _ => trivial
  | .create _, h => h
  | .update _, _ => trivial
  | .patch _ _, h => h
  | .delete _, h => ⟨h.1, hgone h.2⟩

/-! ## Programs -/

namespace Action.Upholds

variable {α β : Type} {gone gone' : List Address} {shut : Address} {p : α → Memory → Prop}
  {last : β → Memory → Prop} {a : Action α} {m : Memory}

/-- **What a program has found or made stays there.** -/
theorem grows (h : Upholds (Call.Grows gone shut) p a m) :
    Upholds (Call.Grows gone shut) (fun v t => p v t ∧ Memory.Grows gone shut m t) a m :=
  h.kept (Memory.grows_closed gone shut) (fun _ hw => hw.grows)
    ((Memory.grows_closed gone shut).refl m)

/-- A program goes on with what stays of what it started from. -/
theorem andThen {f : α → Action β} (hgone : gone ⊆ gone')
    (h : Upholds (Call.Grows gone shut) p a m)
    (hf : ∀ v t, p v t → Memory.Grows gone shut m t → Upholds (Call.Grows gone' shut) last (f v) t) :
    Upholds (Call.Grows gone' shut) last (a >>= f) m :=
  (h.grows.mono (Call.Grows.mono hgone) fun _ _ => id).seq fun v t hp => hf v t hp.1 hp.2

end Action.Upholds

end Workbench
