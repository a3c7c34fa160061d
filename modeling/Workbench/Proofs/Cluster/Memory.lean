import Workbench.Cluster.Memory
import Workbench.Proofs.Doc.Loose

/-!
# What a cluster in memory keeps

Addresses whose parts are texts are equal by value only when they are equal, so such a memory is a
map: a write changes what is kept at one address.

* `Address.IsPlain`: the parts of an address are texts;
* `Memory.lookup`: what is kept at an address; `lookup_insert` and `lookup_drop` say what it is after
  a write and a removal;
* `Memory.addressOf_eq_ok_iff`, `Memory.stamped_eq_ok_iff`: the shape of what can be put in, and of
  what is kept of it;
* `Memory.Sound`: every object is kept where it says that it belongs, with an identity and a version;
* **`Memory.Sound.serve`**, **`Memory.ofObjects_sound`**: whatever is asked of a cluster, it stays so.
-/

namespace Workbench

open Doc

/-! ## Plain addresses -/

namespace Address

variable {a b : Address}

/-- The parts of an address are texts. -/
def IsPlain (a : Address) : Prop := ∃ kind ns name : String, a = ⟨kind, ns, name⟩

theorem looseEq_plain (ha : a.IsPlain) : b.looseEq a = true ↔ b = a := by
  obtain ⟨kind, ns, name, rfl⟩ := ha
  obtain ⟨kind', ns', name'⟩ := b
  simp only [looseEq, Bool.and_eq_true, looseEq_str_iff, mk.injEq, and_assoc]

theorem plain_looseEq (ha : a.IsPlain) : a.looseEq b = true ↔ b = a := by
  obtain ⟨kind, ns, name, rfl⟩ := ha
  obtain ⟨kind', ns', name'⟩ := b
  simp only [looseEq, Bool.and_eq_true, str_looseEq_iff, mk.injEq, and_assoc]

theorem looseEq_refl (a : Address) : a.looseEq a := by
  simp [looseEq, looseEq_self]

theorem IsPlain.check_eq (ha : a.IsPlain) : a.check = .ok () := by
  obtain ⟨kind, ns, name, rfl⟩ := ha
  rfl

end Address

namespace Memory

variable {m : Memory} {a b : Address} {d e : Doc} {v : Nat}

/-! ## Look-up -/

/-- What is kept at an address. -/
def lookup (m : Memory) (a : Address) : Option Doc :=
  (m.objects.find? (·.1.looseEq a)).map Prod.snd

theorem find?_plain (ha : a.IsPlain) : m.find? a = .ok (m.lookup a) := by
  rw [find?, ha.check_eq]
  rfl

/-- A write changes what is kept at its address, and nothing else. -/
theorem lookup_insert (ha : a.IsPlain) (objects : List Kept) :
    (mk (insert a d objects) v).lookup b = if b = a then some d else (mk objects v).lookup b := by
  unfold lookup
  induction objects with
  | nil =>
    by_cases h : b = a
    · simp [insert, h, Address.looseEq_refl]
    · have hab : a.looseEq b = false := by
        rw [Bool.eq_false_iff, ne_eq, Address.plain_looseEq ha]
        exact h
      simp [insert, hab, h]
  | cons e objects ih =>
    obtain ⟨c, e⟩ := e
    rw [insert]
    by_cases hc : c = a
    · subst hc
      rw [if_pos (Address.looseEq_refl c), List.find?_cons, List.find?_cons]
      by_cases h : b = c
      · simp [h, Address.looseEq_refl]
      · have hcb : c.looseEq b = false := by
          rw [Bool.eq_false_iff, ne_eq, Address.plain_looseEq ha]
          exact h
        simp [hcb, h]
    · rw [if_neg (by rwa [Address.looseEq_plain ha]), List.find?_cons, List.find?_cons]
      cases hcb : c.looseEq b with
      | false => exact ih
      | true =>
        have hne : b ≠ a := by
          rintro rfl
          exact hc ((Address.looseEq_plain ha).mp hcb)
        simp [hne]

/-- A removal changes what is kept at its address, and nothing else. -/
theorem lookup_drop (ha : a.IsPlain) :
    (m.drop a).lookup b = if b = a then none else m.lookup b := by
  obtain ⟨objects, v⟩ := m
  unfold lookup drop
  induction objects with
  | nil => simp
  | cons e objects ih =>
    obtain ⟨c, e⟩ := e
    rw [List.filter_cons]
    by_cases hc : c = a
    · subst hc
      rw [if_neg (by simp [Address.looseEq_refl]), ih, List.find?_cons]
      by_cases h : b = c
      · simp [h]
      · have hcb : c.looseEq b = false := by
          rw [Bool.eq_false_iff, ne_eq, Address.plain_looseEq ha]
          exact h
        simp [hcb, h]
    · have hca : c.looseEq a = false := by
        rw [Bool.eq_false_iff, ne_eq, Address.looseEq_plain ha]
        exact hc
      rw [if_pos (by simp [hca]), List.find?_cons, List.find?_cons]
      cases hcb : c.looseEq b with
      | false => exact ih
      | true =>
        have hne : b ≠ a := by
          rintro rfl
          exact hc ((Address.looseEq_plain ha).mp hcb)
        simp [hne]

/-! ## What can be put in -/

/-- An object says where it belongs by its kind and its metadata. -/
theorem addressOf_eq_ok_iff : addressOf d = .ok a ↔
    ∃ ms md, d = .obj ms ∧ ms.lookup "metadata" = some (.obj md) ∧ ms.lookup "kind" = some a.kind ∧
      md.lookup "namespace" = some a.ns ∧ md.lookup "name" = some a.name := by
  obtain ⟨kind, ns, name⟩ := a
  simp only [addressOf, bind_eq_ok_iff, require_eq_ok_iff, pure_eq_ok, Except.ok.injEq,
    Address.mk.injEq]
  constructor
  · rintro ⟨_, ⟨ms, rfl, hmd⟩, _, ⟨_, h, hkind⟩, _, ⟨md, rfl, hns⟩, _, ⟨_, h', hname⟩, rfl, rfl, rfl⟩
    cases h
    cases h'
    exact ⟨ms, md, rfl, hmd, hkind, hns, hname⟩
  · rintro ⟨ms, md, rfl, hmd, hkind, hns, hname⟩
    exact ⟨_, ⟨ms, rfl, hmd⟩, _, ⟨ms, rfl, hkind⟩, _, ⟨md, rfl, hns⟩, _, ⟨md, rfl, hname⟩, rfl, rfl,
      rfl⟩

/-- The metadata of an object as they are kept. -/
def stampedMembers (a : Address) (v : Nat) (md : List Member) : List Member :=
  setMember "resourceVersion" (.str (toString v))
    (if (md.lookup "uid").isSome then md else md ++ [("uid", identityFor a)])

theorem stamped_eq_ok_iff : stamped a v d = .ok e ↔
    ∃ ms md, d = .obj ms ∧ ms.lookup "metadata" = some (.obj md) ∧
      e = .obj (setMember "metadata" (.obj (stampedMembers a v md)) ms) := by
  simp only [stamped, modify_eq_ok_iff, bind_eq_ok_iff, ensure_eq_ok_iff, put_eq_ok_iff]
  constructor
  · rintro ⟨ms, _, _, rfl, hmd, ⟨_, ⟨md, rfl, rfl⟩, _, h, rfl⟩, rfl⟩
    cases h
    exact ⟨ms, md, rfl, hmd, rfl⟩
  · rintro ⟨ms, md, rfl, hmd, rfl⟩
    exact ⟨ms, _, _, rfl, hmd, ⟨_, ⟨md, rfl, rfl⟩, _, rfl, rfl⟩, rfl⟩

theorem lookup_stampedMembers {md : List Member} {k : String} (huid : k ≠ "uid")
    (hv : k ≠ "resourceVersion") : (stampedMembers a v md).lookup k = md.lookup k := by
  rw [stampedMembers, lookup_setMember, if_neg hv]
  split
  · rfl
  · rw [List.lookup_append, lookup_cons_eq_ite, if_neg huid, List.lookup_nil, Option.or_none]

theorem addressOf_stamped (hd : addressOf d = .ok b) (h : stamped a v d = .ok e) :
    addressOf e = .ok b := by
  obtain ⟨ms, md, rfl, hmd, hkind, hns, hname⟩ := addressOf_eq_ok_iff.mp hd
  obtain ⟨_, _, h₁, h₂, rfl⟩ := stamped_eq_ok_iff.mp h
  cases h₁
  obtain rfl : md = _ := by simpa [hmd] using h₂
  refine addressOf_eq_ok_iff.mpr ⟨_, _, rfl, by rw [lookup_setMember, if_pos rfl], ?_, ?_, ?_⟩
  · rw [lookup_setMember, if_neg (by decide), hkind]
  · rw [lookup_stampedMembers (by decide) (by decide), hns]
  · rw [lookup_stampedMembers (by decide) (by decide), hname]

/-! ## Soundness -/

/-- An object is kept where it says that it belongs, with an identity and a version. -/
def IsKept (e : Kept) : Prop :=
  ∃ a metadata uid version, addressOf e.2 = .ok a ∧ e.1.looseEq a ∧
    e.2.require "metadata" = .ok metadata ∧ metadata.require "uid" = .ok uid ∧
    metadata.require "resourceVersion" = .ok version

/-- Every object is kept where it says that it belongs. -/
def Sound (m : Memory) : Prop := ∀ e ∈ m.objects, IsKept e

theorem isKept_stamped {c : Address} (hc : c.looseEq b) (hd : addressOf d = .ok b)
    (h : stamped a v d = .ok e) : IsKept (c, e) := by
  have he := addressOf_stamped hd h
  obtain ⟨ms, md, rfl, hmd, rfl⟩ := stamped_eq_ok_iff.mp h
  have hmetadata : (Doc.obj (setMember "metadata" (.obj (stampedMembers a v md)) ms)).require
      "metadata" = .ok (.obj (stampedMembers a v md)) := by
    rw [require_obj, lookup_setMember, if_pos rfl]
  have huid : ∃ uid, (stampedMembers a v md).lookup "uid" = some uid := by
    rw [stampedMembers, lookup_setMember, if_neg (by decide)]
    split
    · exact Option.isSome_iff_exists.mp ‹_›
    · next hnone =>
      rw [List.lookup_append, Option.not_isSome_iff_eq_none.mp hnone]
      exact ⟨_, rfl⟩
  obtain ⟨uid, huid⟩ := huid
  refine ⟨b, _, uid, .str (toString v), he, hc, hmetadata, ?_, ?_⟩
  · rw [require_obj, huid]
  · rw [require_obj, stampedMembers, lookup_setMember, if_pos rfl]

theorem Sound.insert (hm : m.Sound) (hd : addressOf d = .ok a) (h : stamped b v d = .ok e)
    (w : Nat) : Sound ⟨insert a e m.objects, w⟩ := by
  obtain ⟨objects, _⟩ := m
  intro x hx
  change x ∈ Memory.insert a e objects at hx
  induction objects with
  | nil =>
    obtain rfl : x = (a, e) := by simpa [Memory.insert] using hx
    exact isKept_stamped (Address.looseEq_refl a) hd h
  | cons y objects ih =>
    obtain ⟨c, f⟩ := y
    rw [Memory.insert] at hx
    have hrest : Sound ⟨objects, v⟩ := fun z hz => hm z (List.mem_cons_of_mem _ hz)
    split at hx
    · next hc =>
      rcases List.mem_cons.mp hx with rfl | hx
      · exact isKept_stamped hc hd h
      · exact hrest x hx
    · rcases List.mem_cons.mp hx with rfl | hx
      · exact hm _ List.mem_cons_self
      · exact ih hrest hx

theorem Sound.put (hm : m.Sound) (d : Doc) : (m.put d).2.Sound := by
  unfold Memory.put
  cases hd : addressOf d with
  | error f => exact hm
  | ok a =>
    cases hcheck : a.check with
    | error f =>
      simp only [hcheck]
      exact hm
    | ok u =>
      cases h : stamped a (m.version + 1) d with
      | error f => simpa [hcheck, h] using hm
      | ok e => simpa [hcheck, h] using hm.insert hd h _

theorem Sound.drop (hm : m.Sound) (a : Address) : (m.drop a).Sound :=
  fun e he => hm e (List.mem_filter.mp he).1

theorem Sound.write (hm : m.Sound) (checked : Except Trouble Doc) : (m.write checked).2.Sound := by
  cases checked with
  | error t => exact hm
  | ok d => exact hm.put d

/-- **A cluster stays sound, whatever is asked of it.** -/
theorem Sound.serve (hm : m.Sound) (c : Call) : (m.serve c).2.Sound := by
  cases c with
  | get a => exact hm
  | list kind ns => exact hm
  | create d => exact hm.write _
  | update d => exact hm.write _
  | patch a p => exact hm.write _
  | delete a =>
    simp only [Memory.serve]
    split
    · exact hm.drop a
    · exact hm

/-- **A cluster that some objects were put in is sound.** -/
theorem ofObjects_sound {objects : List Doc} (h : ofObjects objects = .ok m) : m.Sound := by
  have hstart : Sound {} := fun e he => absurd he List.not_mem_nil
  unfold ofObjects at h
  generalize ({} : Memory) = m₀ at h hstart
  induction objects generalizing m₀ with
  | nil =>
    cases h
    exact hstart
  | cons d objects ih =>
    obtain ⟨m₁, h₁, h₂⟩ := bind_eq_ok_iff.mp h
    refine ih m₁ h₂ ?_
    have hput := hstart.put d
    unfold putChecked at h₁
    rcases hd : m₀.put d with ⟨f | e, m₂⟩
    · rw [hd] at h₁
      cases h₁
    · rw [hd] at h₁ hput
      cases h₁
      exact hput

theorem Sound.addressOf_eq (hm : m.Sound) (ha : a.IsPlain) (h : m.lookup a = some d) :
    addressOf d = .ok a := by
  obtain ⟨⟨b, e⟩, hfind, rfl⟩ := Option.map_eq_some_iff.mp h
  obtain ⟨c, _, _, _, hc, hbc, -⟩ := hm _ (List.mem_of_find?_eq_some hfind)
  have hba : b.looseEq a = true := by simpa using List.find?_some hfind
  obtain rfl := (Address.looseEq_plain ha).mp hba
  rw [hc, (Address.plain_looseEq ha).mp hbc]

end Memory

end Workbench
