import Workbench.Proofs.Cluster.Memory
import Workbench.Proofs.Doc.MergePatch

/-!
# Objects without their versions

Every write gives an object a new version, so what a program makes of an object is compared without
the version.

* `Doc.unversioned`: an object without its version; `Memory.view` is what is kept at an address so;
* `Doc.SameIdentity`: objects that belong to one place, with one identity and one version;
* `Doc.KeepsIdentity`: edits that see no version and keep the identity; `KeepsIdentity.comp` and the
  like build them;
* `Doc.annotationsPatch`: a patch of annotations is such an edit;
* `Doc.asKept`: an object as it is kept, without the version; `unversioned_stamped` says that it is.
-/

namespace Workbench

open Doc

namespace Doc

variable {d e f : Doc} {ms md : List Member} {k : String} {v : Doc}

/-- The object without its version. -/
def unversioned : Doc → Doc
  | .obj ms =>
    match ms.lookup "metadata" with
    | some (.obj md) => .obj (setMember "metadata" (.obj (dropMember "resourceVersion" md)) ms)
    | _ => .obj ms
  | d => d

theorem unversioned_obj (hmd : ms.lookup "metadata" = some (.obj md)) :
    (obj ms).unversioned = .obj (setMember "metadata" (.obj (dropMember "resourceVersion" md)) ms) := by
  simp only [unversioned, hmd]

/-- An object with metadata. -/
def HasMetadata (d : Doc) : Prop := ∃ ms md, d = .obj ms ∧ ms.lookup "metadata" = some (.obj md)

theorem hasMetadata_of_addressOf {a : Address} (h : Memory.addressOf d = .ok a) :
    d.HasMetadata := by
  obtain ⟨ms, md, rfl, hmd, -⟩ := Memory.addressOf_eq_ok_iff.mp h
  exact ⟨ms, md, rfl, hmd⟩

theorem HasMetadata.sameBut (h : d.HasMetadata) : SameBut "metadata" d d.unversioned := by
  obtain ⟨ms, md, rfl, hmd⟩ := h
  rw [unversioned_obj hmd]
  exact ⟨ms, _, rfl, rfl, fun k hk => by rw [lookup_setMember, if_neg hk]⟩

/-! ## Edits that keep the identity -/

/-- The members of the metadata that describe an object, and do not say which one it is. -/
def describing : List String := ["labels", "annotations"]

/-- Two objects of one kind whose metadata differ in what describes them at most. -/
def SameIdentity (d e : Doc) : Prop :=
  ∃ ms md ns nd, d = .obj ms ∧ e = .obj ns ∧ ms.lookup "metadata" = some (.obj md) ∧
    ns.lookup "metadata" = some (.obj nd) ∧ ns.lookup "kind" = ms.lookup "kind" ∧
    ∀ k, k ∉ describing → nd.lookup k = md.lookup k

theorem SameIdentity.trans (h : SameIdentity d e) (h' : SameIdentity e f) : SameIdentity d f := by
  obtain ⟨ms, md, ns, nd, rfl, rfl, hmd, hnd, hkind, hsame⟩ := h
  obtain ⟨_, _, os, od, hns, rfl, hnd', hod, hkind', hsame'⟩ := h'
  cases hns
  obtain rfl : nd = _ := by simpa [hnd] using hnd'
  exact ⟨ms, md, os, od, rfl, rfl, hmd, hod, hkind'.trans hkind,
    fun k hk => (hsame' k hk).trans (hsame k hk)⟩

theorem SameIdentity.hasMetadata (h : SameIdentity d e) : e.HasMetadata := by
  obtain ⟨_, _, ns, nd, _, rfl, _, hnd, -⟩ := h
  exact ⟨ns, nd, rfl, hnd⟩

theorem SameIdentity.addressOf {a : Address} (h : SameIdentity d e)
    (hd : Memory.addressOf d = .ok a) : Memory.addressOf e = .ok a := by
  obtain ⟨ms, md, ns, nd, rfl, rfl, hmd, hnd, hkind, hsame⟩ := h
  obtain ⟨_, _, hms, hmd', hk, hns, hname⟩ := Memory.addressOf_eq_ok_iff.mp hd
  cases hms
  obtain rfl : md = _ := by simpa [hmd] using hmd'
  refine Memory.addressOf_eq_ok_iff.mpr ⟨ns, nd, rfl, hnd, hkind.trans hk, ?_, ?_⟩
  · rw [hsame _ (by decide), hns]
  · rw [hsame _ (by decide), hname]

/-- An edit that does not look at the version of an object and keeps its identity. -/
structure KeepsIdentity (edit : Doc → Except Fault Doc) : Prop where
  unversioned {d : Doc} : d.HasMetadata → edit d.unversioned = (edit d).map Doc.unversioned
  same {d e : Doc} : d.HasMetadata → edit d = .ok e → SameIdentity d e

/-- One edit after another. -/
theorem KeepsIdentity.comp {edit edit' : Doc → Except Fault Doc} (h : KeepsIdentity edit)
    (h' : KeepsIdentity edit') : KeepsIdentity fun d => edit d >>= edit' where
  unversioned {d} hd := by
    rw [h.unversioned hd]
    cases he : edit d with
    | error f => rfl
    | ok e => exact h'.unversioned (h.same hd he).hasMetadata
  same {d e} hd he := by
    obtain ⟨d', h₁, h₂⟩ := bind_eq_ok_iff.mp he
    have hd' := h.same hd h₁
    exact hd'.trans (h'.same hd'.hasMetadata h₂)

theorem keepsIdentity_put (hmetadata : k ≠ "metadata") (hkind : k ≠ "kind") :
    KeepsIdentity fun d => d.put k v where
  unversioned {d} hd := by
    obtain ⟨ms, md, rfl, hmd⟩ := hd
    have hput : (setMember k v ms).lookup "metadata" = some (.obj md) := by
      rw [lookup_setMember, if_neg hmetadata.symm, hmd]
    rw [unversioned_obj hmd, put_eq_ok_iff.mpr ⟨_, rfl, rfl⟩, put_eq_ok_iff.mpr ⟨_, rfl, rfl⟩]
    rw [Except.map, unversioned_obj hput, setMember_comm hmetadata.symm _ _ (by simp [hmd])]
  same {d e} hd he := by
    obtain ⟨ms, md, rfl, hmd⟩ := hd
    obtain ⟨_, hms, rfl⟩ := put_eq_ok_iff.mp he
    cases hms
    refine ⟨ms, md, _, md, rfl, rfl, hmd, ?_, ?_, fun _ _ => rfl⟩
    · rw [lookup_setMember, if_neg hmetadata.symm, hmd]
    · rw [lookup_setMember, if_neg hkind.symm]

theorem keepsIdentity_describe (hk : k ∈ describing) :
    KeepsIdentity fun d => d.modify "metadata" (·.put k v) where
  unversioned {d} hd := by
    obtain ⟨ms, md, rfl, hmd⟩ := hd
    have hv : "resourceVersion" ≠ k := by
      rintro rfl
      revert hk
      decide
    have hleft : (Doc.obj (setMember "metadata" (.obj (dropMember "resourceVersion" md)) ms)).modify
        "metadata" (·.put k v) = .ok (.obj (setMember "metadata"
          (.obj (setMember k v (dropMember "resourceVersion" md))) ms)) :=
      modify_eq_ok_iff.mpr ⟨_, _, _, rfl, by rw [lookup_setMember, if_pos rfl], rfl, by
        rw [setMember_setMember]⟩
    have hright : (Doc.obj ms).modify "metadata" (·.put k v) =
        .ok (.obj (setMember "metadata" (.obj (setMember k v md)) ms)) :=
      modify_eq_ok_iff.mpr ⟨_, _, _, rfl, hmd, rfl, rfl⟩
    rw [unversioned_obj hmd, hleft, hright, Except.map,
      unversioned_obj (by rw [lookup_setMember, if_pos rfl]), setMember_setMember,
      dropMember_setMember hv]
  same {d e} hd he := by
    obtain ⟨ms, md, rfl, hmd⟩ := hd
    obtain ⟨_, w, w', hms, hw, hput, rfl⟩ := modify_eq_ok_iff.mp he
    cases hms
    obtain rfl : w = .obj md := by simpa [hmd] using hw.symm
    obtain ⟨_, hmd', rfl⟩ := put_eq_ok_iff.mp hput
    cases hmd'
    refine ⟨ms, md, _, _, rfl, rfl, hmd, by rw [lookup_setMember, if_pos rfl], ?_, ?_⟩
    · rw [lookup_setMember, if_neg (by decide)]
    · intro j hj
      rw [lookup_setMember, if_neg]
      rintro rfl
      exact hj hk

theorem keepsIdentity_putFound {found : Doc → Except Fault Doc} (hmetadata : k ≠ "metadata")
    (hkind : k ≠ "kind") (hfound : ∀ d, d.HasMetadata → found d.unversioned = found d) :
    KeepsIdentity fun d => found d >>= fun w => d.put k w where
  unversioned {d} hd := by
    rw [hfound d hd]
    cases found d with
    | error f => rfl
    | ok w => exact (keepsIdentity_put hmetadata hkind).unversioned hd
  same {d e} hd he := by
    obtain ⟨w, -, he⟩ := bind_eq_ok_iff.mp he
    exact (keepsIdentity_put hmetadata hkind).same hd he

theorem ensure_eq_put : d.ensure k v = (do
    let found ← (do return ((← d.members).lookup k).getD v)
    d.put k found) := by
  cases d with
  | obj ms =>
    cases h : ms.lookup k with
    | some w => simp [ensure, put, members, h, setMember_of_lookup h]
    | none => simp [ensure, put, members, h, setMember_eq_append h]
  | _ => rfl

theorem keepsIdentity_ensure (hmetadata : k ≠ "metadata") (hkind : k ≠ "kind") :
    KeepsIdentity fun d => d.ensure k v := by
  simp only [ensure_eq_put]
  refine keepsIdentity_putFound hmetadata hkind fun d hd => ?_
  obtain ⟨ms, md, rfl, hmd⟩ := hd
  rw [unversioned_obj hmd]
  simp [members, lookup_setMember, hmetadata]

theorem keepsIdentity_modify {edit : Doc → Except Fault Doc} (hmetadata : k ≠ "metadata")
    (hkind : k ≠ "kind") : KeepsIdentity fun d => d.modify k edit := by
  have heq : (fun d : Doc => d.modify k edit) =
      fun d => (d.require k >>= edit) >>= fun w => d.put k w := by
    funext d
    rw [modify]
    cases d.require k <;> rfl
  rw [heq]
  exact keepsIdentity_putFound hmetadata hkind fun d hd => by rw [hd.sameBut.require hmetadata]

theorem keepsIdentity_merge {patch : List Member} (hmetadata : patch.lookup "metadata" = none)
    (hkind : patch.lookup "kind" = none) :
    KeepsIdentity fun d => .ok (d.merge (.obj patch)) where
  unversioned {d} hd := by
    obtain ⟨ms, md, rfl, hmd⟩ := hd
    have hmerged : (mergeMembers ms patch).lookup "metadata" = some (.obj md) := by
      rw [lookup_mergeMembers_of_none hmetadata, hmd]
    simp only [merge, membersOrNone, unversioned_obj hmd, Except.map, unversioned_obj hmerged]
    rw [mergeMembers_setMember hmetadata (by simp [hmd])]
  same {d e} hd he := by
    obtain ⟨ms, md, rfl, hmd⟩ := hd
    cases he
    refine ⟨ms, md, mergeMembers ms patch, md, rfl, rfl, hmd, ?_, ?_, fun _ _ => rfl⟩
    · rw [lookup_mergeMembers_of_none hmetadata, hmd]
    · rw [lookup_mergeMembers_of_none hkind]

/-- The patch that lays some annotations over those of an object. -/
def annotationsPatch (annotations : List Member) : Doc :=
  .obj [("metadata", .obj [("annotations", .obj annotations)])]

theorem merge_annotationsPatch (annotations : List Member)
    (hmd : ms.lookup "metadata" = some (.obj md)) :
    (obj ms).merge (annotationsPatch annotations) = .obj (setMember "metadata" (.obj (setMember
      "annotations" (.obj (mergeMembers ((md.lookup "annotations").getD .null).membersOrNone
        annotations)) md)) ms) := by
  simp [annotationsPatch, merge, membersOrNone, mergeMembers, mergeMember, hmd]

theorem keepsIdentity_annotationsPatch (annotations : List Member) :
    KeepsIdentity fun d => .ok (d.merge (annotationsPatch annotations)) where
  unversioned {d} hd := by
    obtain ⟨ms, md, rfl, hmd⟩ := hd
    rw [unversioned_obj hmd, merge_annotationsPatch _ hmd,
      merge_annotationsPatch _ (lookup_setMember_self _ _ _), Except.map,
      unversioned_obj (lookup_setMember_self _ _ _), setMember_setMember,
      setMember_setMember, lookup_dropMember, if_neg (by decide), dropMember_setMember (by decide)]
  same {d e} hd he := by
    obtain ⟨ms, md, rfl, hmd⟩ := hd
    cases he
    refine ⟨ms, md, _, _, rfl, merge_annotationsPatch _ hmd, hmd, lookup_setMember_self _ _ _, ?_, ?_⟩
    · rw [lookup_setMember, if_neg (by decide)]
    · intro k hk
      rw [lookup_setMember, if_neg]
      rintro rfl
      exact hk (by decide)

/-! ## Objects as they are kept -/

/-- The object as it is kept at an address, without the version that it gets. -/
def asKept (a : Address) (d : Doc) : Doc :=
  match Memory.stamped a 0 d with
  | .ok e => e.unversioned
  | .error _ => d

theorem HasMetadata.stamped (h : d.HasMetadata) (a : Address) (n : Nat) :
    ∃ e, Memory.stamped a n d = .ok e := by
  obtain ⟨ms, md, rfl, hmd⟩ := h
  exact ⟨_, Memory.stamped_eq_ok_iff.mpr ⟨ms, md, rfl, hmd, rfl⟩⟩

/-- What is kept of an object, whichever version it gets. -/
theorem unversioned_stamped {a : Address} {n : Nat} (h : Memory.stamped a n d = .ok e) :
    e.unversioned = d.asKept a := by
  obtain ⟨ms, md, rfl, hmd, rfl⟩ := Memory.stamped_eq_ok_iff.mp h
  have h₀ : Memory.stamped a 0 (.obj ms) = .ok _ :=
    Memory.stamped_eq_ok_iff.mpr ⟨ms, md, rfl, hmd, rfl⟩
  rw [asKept, h₀]
  simp only [unversioned_obj (lookup_setMember_self _ _ _), setMember_setMember,
    Memory.stampedMembers, dropMember_setMember_self]

theorem asKept_obj {a : Address} (hmd : ms.lookup "metadata" = some (.obj md)) :
    (obj ms).asKept a =
      (obj (setMember "metadata" (.obj (Memory.stampedMembers a 0 md)) ms)).unversioned := by
  rw [← unversioned_stamped (Memory.stamped_eq_ok_iff.mpr ⟨ms, md, rfl, hmd, rfl⟩)]

theorem HasMetadata.sameBut_asKept {a : Address} (h : d.HasMetadata) :
    SameBut "metadata" d (d.asKept a) := by
  obtain ⟨ms, md, rfl, hmd⟩ := h
  have hkept := lookup_setMember_self "metadata" (obj (Memory.stampedMembers a 0 md)) ms
  rw [asKept_obj hmd]
  refine SameBut.trans ⟨ms, _, rfl, rfl, fun k hk => ?_⟩ (HasMetadata.sameBut ⟨_, _, rfl, hkept⟩)
  rw [lookup_setMember, if_neg hk]

theorem asKept_of_uid {a : Address} (hd : d = .obj ms) (hmd : ms.lookup "metadata" = some (.obj md))
    (huid : (md.lookup "uid").isSome) : d.asKept a = d.unversioned := by
  subst hd
  have h₀ : Memory.stamped a 0 (.obj ms) = .ok _ :=
    Memory.stamped_eq_ok_iff.mpr ⟨ms, md, rfl, hmd, rfl⟩
  rw [← unversioned_stamped h₀, unversioned_obj (lookup_setMember_self _ _ _), unversioned_obj hmd,
    setMember_setMember, Memory.stampedMembers, if_pos huid, dropMember_setMember_self]

end Doc

end Workbench
