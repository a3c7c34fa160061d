import Workbench.Doc.Patch
import Workbench.Proofs.Doc.Access

/-!
# Documents that are the same outside of some places

An edit changes what is at some places of a document and leaves everything else alone.

* `Place.Apart`: two places of which neither lies inside the other;
* `Doc.SameOutside`: two documents that are the same at all places apart from some;
* `Doc.sameOutside_put`, `Doc.sameOutside_remove`, `Doc.sameOutside_modify`,
  `Doc.sameOutside_ensure`: the places that an edit changes.
-/

namespace Workbench

/-- Two places of which neither lies inside the other. -/
def Place.Apart (p q : Place) : Prop := ¬ p <+: q ∧ ¬ q <+: p

theorem Place.Apart.of_cons {s : Step} {p q : Place} (h : Place.Apart (s :: p) (s :: q)) :
    Place.Apart p q :=
  ⟨fun hpq => h.1 ((List.prefix_cons_inj s).mpr hpq),
    fun hqp => h.2 ((List.prefix_cons_inj s).mpr hqp)⟩

theorem Place.Apart.ne_nil {p q : Place} (h : Place.Apart p q) : q ≠ [] := by
  rintro rfl
  exact h.2 List.nil_prefix

namespace Doc

variable {d e f v w : Doc} {k : String} {ps qs : List Place} {edit : Doc → Except Fault Doc}

/-- Two documents that are the same at all places apart from some. -/
def SameOutside (ps : List Place) (d e : Doc) : Prop :=
  ∀ p, (∀ q ∈ ps, Place.Apart q p) → e.at? p = d.at? p

theorem SameOutside.refl (ps : List Place) (d : Doc) : SameOutside ps d d := fun _ _ => rfl

theorem SameOutside.trans (h : SameOutside ps d e) (h' : SameOutside ps e f) :
    SameOutside ps d f := fun p hp => (h' p hp).trans (h p hp)

theorem SameOutside.mono (h : SameOutside ps d e) (hps : ps ⊆ qs) : SameOutside qs d e :=
  fun p hp => h p fun q hq => hp q (hps hq)

theorem SameBut.sameOutside (h : SameBut k d e) : SameOutside [[.member k]] d e := by
  obtain ⟨ms, ns, rfl, rfl, hns⟩ := h
  intro p hp
  have hapart := hp _ List.mem_cons_self
  match p, hapart with
  | [], hapart => exact absurd rfl hapart.ne_nil
  | .item _ :: _, _ => rfl
  | .member j :: rest, hapart =>
    have hj : j ≠ k := by
      rintro rfl
      exact hapart.1 ⟨rest, rfl⟩
    rw [at?, at?, hns j hj]

/-- A member that is set. -/
theorem sameOutside_put (h : d.put k v = .ok e) : SameOutside [[.member k]] d e :=
  (sameBut_put h).sameOutside

theorem sameBut_remove (h : d.remove k = .ok e) : SameBut k d e := by
  obtain ⟨ms, rfl, rfl⟩ := remove_eq_ok_iff.mp h
  exact ⟨ms, _, rfl, rfl, fun j hj => by rw [lookup_dropMember, if_neg hj]⟩

/-- A member that is taken away. -/
theorem sameOutside_remove (h : d.remove k = .ok e) : SameOutside [[.member k]] d e :=
  (sameBut_remove h).sameOutside

/-- A member that is edited at some places. -/
theorem sameOutside_modify (hps : ps ≠ []) (h : d.modify k edit = .ok e)
    (hedit : ∀ v w, edit v = .ok w → SameOutside ps v w) :
    SameOutside (ps.map (.member k :: ·)) d e := by
  obtain ⟨ms, v, w, rfl, hv, hw, rfl⟩ := modify_eq_ok_iff.mp h
  intro p hp
  rw [List.forall_mem_map] at hp
  match p, hp with
  | [], hp =>
    obtain ⟨q, hq⟩ := List.exists_mem_of_ne_nil ps hps
    exact absurd rfl (hp q hq).ne_nil
  | .item _ :: _, _ => rfl
  | .member j :: rest, hp =>
    rw [at?, at?, lookup_setMember]
    split_ifs with hj
    · subst hj
      rw [hv, Option.bind_some, Option.bind_some]
      exact hedit v w hw rest fun q hq => (hp q hq).of_cons
    · rfl

/-- A member that is there afterwards, empty if it was not there before: no member of it is new. -/
theorem sameOutside_ensure {s : Step} (h : d.ensure k .empty = .ok e) :
    SameOutside [[.member k, s]] d e := by
  obtain ⟨ms, rfl, rfl⟩ := ensure_eq_ok_iff.mp h
  intro p hp
  have hapart := hp _ List.mem_cons_self
  match p, hapart with
  | [], hapart => exact absurd rfl hapart.ne_nil
  | .item _ :: _, _ => rfl
  | .member j :: rest, hapart =>
    rw [at?, at?, lookup_ensured]
    split_ifs with hj
    · subst hj
      cases hv : ms.lookup j with
      | some v => rfl
      | none =>
        match rest, hapart with
        | [], hapart => exact absurd ⟨[s], rfl⟩ hapart.2
        | .member _ :: _, _ => rfl
        | .item _ :: _, _ => rfl
    · rfl

end Doc

end Workbench
