import Workbench.Proofs.Cluster.Calls
import Workbench.Proofs.Notebook
import Workbench.Proofs.Resource
import Workbench.Reconcile.Steps

/-!
# Notebooks that go on

A reconcile may edit the notebook that it works for. What the objects of the notebook are made from
stays as it is.

* `Notebook.IsAt`: a notebook that is kept at its address, with an identity;
* `Notebook.Continues`: a notebook that went on as it was, as far as its objects depend on it;
* `Notebook.continues_release`: so does a notebook that is let go.
-/

namespace Workbench

open Doc Memory

/-! ## Notebooks -/

namespace Notebook

variable {nb nb' nb'' : Notebook} {ns name : String} {uid : Doc}

/-- The notebook says where it is kept, and has an identity. -/
structure IsAt (nb : Notebook) (ns name : String) (uid : Doc) : Prop where
  name_eq : nb.name = .ok (.str name)
  ns_eq : nb.namespace' = .ok (.str ns)
  uid_eq : nb.uid = .ok uid

theorem IsAt.address (h : nb.IsAt ns name uid) : nb.address = .ok (ObjectAt.notebook ns name) := by
  rw [Notebook.address, h.ns_eq, h.name_eq]
  rfl

theorem IsAt.owner (h : nb.IsAt ns name uid) : nb.owner = .ok ⟨name, ns, uid⟩ := by
  rw [Notebook.owner, h.name_eq, h.ns_eq, h.uid_eq]
  rfl

theorem IsAt.hasMetadata (h : nb.IsAt ns name uid) : nb.HasMetadata := by
  obtain ⟨metadata, hmd, hname⟩ := bind_eq_ok_iff.mp h.name_eq
  obtain ⟨ms, rfl, hlookup⟩ := require_eq_ok_iff.mp hmd
  obtain ⟨md, rfl, -⟩ := require_eq_ok_iff.mp hname
  exact ⟨ms, md, rfl, hlookup⟩

theorem isAt_of_lookup {m : Memory} (hm : m.Sound)
    (h : m.lookup (ObjectAt.notebook ns name) = some nb) : ∃ uid, nb.IsAt ns name uid := by
  have ha := ObjectAt.notebook_plain ns name
  obtain ⟨_, md, rfl, hmd, -, hns, hname⟩ := addressOf_eq_ok_iff.mp (hm.addressOf_eq ha h)
  obtain ⟨ms, _, hms, hmd', huid, -⟩ := hm.kept ha h
  cases hms
  obtain rfl : md = _ := by simpa [hmd] using hmd'
  obtain ⟨uid, huid⟩ := Option.isSome_iff_exists.mp huid
  refine ⟨uid, ?_, ?_, ?_⟩
  · simp [Notebook.name, hmd, hname, ObjectAt.notebook]
  · simp [Notebook.namespace', hmd, hns, ObjectAt.notebook]
  · simp [Notebook.uid, hmd, huid]

/-- The notebook went on as it was, as far as its objects depend on it. -/
structure Continues (nb nb' : Notebook) : Prop where
  name_eq : nb'.name = nb.name
  ns_eq : nb'.namespace' = nb.namespace'
  uid_eq : nb'.uid = nb.uid
  annotationValue_eq {key : String} : key ≠ AnnotationKey.stopped →
    nb'.annotationValue key = nb.annotationValue key

namespace Continues

theorem refl (nb : Notebook) : Continues nb nb := ⟨rfl, rfl, rfl, fun _ => rfl⟩

theorem symm (h : Continues nb nb') : Continues nb' nb :=
  ⟨h.name_eq.symm, h.ns_eq.symm, h.uid_eq.symm, fun hkey => (h.annotationValue_eq hkey).symm⟩

theorem trans (h : Continues nb nb') (h' : Continues nb' nb'') : Continues nb nb'' :=
  ⟨h'.name_eq.trans h.name_eq, h'.ns_eq.trans h.ns_eq, h'.uid_eq.trans h.uid_eq,
    fun hkey => (h'.annotationValue_eq hkey).trans (h.annotationValue_eq hkey)⟩

theorem isAt (h : Continues nb nb') (hnb : nb.IsAt ns name uid) : nb'.IsAt ns name uid :=
  ⟨h.name_eq.trans hnb.name_eq, h.ns_eq.trans hnb.ns_eq, h.uid_eq.trans hnb.uid_eq⟩

theorem meshEnabled_eq (h : Continues nb nb') : nb'.meshEnabled = nb.meshEnabled := by
  rw [meshEnabled, meshEnabled, h.annotationValue_eq (by decide)]

theorem oauthEnabled_eq (h : Continues nb nb') : nb'.oauthEnabled = nb.oauthEnabled := by
  rw [oauthEnabled, oauthEnabled, h.annotationValue_eq (by decide)]

end Continues

theorem continues_of_sameBut (h : SameBut "spec" nb nb') : Continues nb nb' where
  name_eq := by rw [Notebook.name, Notebook.name, h.require (by decide)]
  ns_eq := by rw [Notebook.namespace', Notebook.namespace', h.require (by decide)]
  uid_eq := by rw [Notebook.uid, Notebook.uid, h.require (by decide)]
  annotationValue_eq _ := annotationValue_of_sameBut h _

theorem isLocked_of_sameBut (h : SameBut "spec" nb nb') : nb'.isLocked = nb.isLocked := by
  rw [isLocked, isLocked, annotationValue_of_sameBut h]

theorem annotations_unversioned (h : nb.HasMetadata) :
    annotations nb.unversioned = nb.annotations := by
  obtain ⟨ms, md, rfl, hmd⟩ := h
  simp [unversioned_obj hmd, annotations, lookup_setMember, hmd, lookup_dropMember]

theorem continues_unversioned (h : nb.HasMetadata) : Continues nb nb.unversioned where
  name_eq := by
    obtain ⟨ms, md, rfl, hmd⟩ := h
    simp [unversioned_obj hmd, Notebook.name, lookup_setMember, hmd, lookup_dropMember]
  ns_eq := by
    obtain ⟨ms, md, rfl, hmd⟩ := h
    simp [unversioned_obj hmd, Notebook.namespace', lookup_setMember, hmd, lookup_dropMember]
  uid_eq := by
    obtain ⟨ms, md, rfl, hmd⟩ := h
    simp [unversioned_obj hmd, Notebook.uid, lookup_setMember, hmd, lookup_dropMember]
  annotationValue_eq _ := by rw [annotationValue, annotationValue, annotations_unversioned h]

theorem isLocked_unversioned (h : nb.HasMetadata) : isLocked nb.unversioned = nb.isLocked := by
  rw [isLocked, isLocked, annotationValue, annotationValue, annotations_unversioned h]

end Notebook

/-! ## The hold -/

section Release

open Reconcile

theorem merge_releasePatch {ms md : List Member} (hmd : ms.lookup "metadata" = some (.obj md)) :
    (obj ms).merge releasePatch = .obj (setMember "metadata" (.obj (setMember "annotations"
      (.obj (dropMember AnnotationKey.stopped ((md.lookup "annotations").getD .null).membersOrNone))
      md)) ms) := by
  refine (merge_annotationsPatch [(AnnotationKey.stopped, .null)] hmd).trans ?_
  simp [mergeMembers, mergeMember]

theorem keepsIdentity_releasePatch : KeepsIdentity fun d => .ok (d.merge releasePatch) :=
  keepsIdentity_annotationsPatch [(AnnotationKey.stopped, .null)]

/-- A notebook that is let go goes on, and is not held any longer. -/
theorem Notebook.continues_release {nb : Notebook} (h : nb.HasMetadata)
    (hlocked : nb.isLocked = .ok true) :
    Notebook.Continues nb (nb.merge releasePatch) ∧
      Notebook.isLocked (nb.merge releasePatch) = .ok false ∧
      SameBut "metadata" nb (nb.merge releasePatch) := by
  obtain ⟨ms, md, rfl, hmd⟩ := h
  obtain ⟨value, hvalue, hlock⟩ := bind_eq_ok_iff.mp hlocked
  obtain ⟨annotations, hannotations, hvalue⟩ := bind_eq_ok_iff.mp hvalue
  obtain ⟨as, rfl, rfl⟩ := read_eq_ok_iff.mp hvalue
  simp only [Notebook.annotations, read_obj, hmd, Option.getD_some, ok_bind, orElse_empty_obj,
    pure_eq_ok, Except.ok.injEq] at hannotations
  -- The annotations are there, since the hold is.
  have has : md.lookup "annotations" = some (.obj as) := by
    unfold orElse at hannotations
    split_ifs at hannotations with htruthy
    · cases hlookup : md.lookup "annotations" with
      | none => simp [hlookup] at hannotations
      | some d => simpa [hlookup] using hannotations
    · cases hannotations
      cases hlock
  rw [merge_releasePatch hmd, has]
  refine ⟨⟨?_, ?_, ?_, ?_⟩, ?_, ms, _, rfl, rfl, fun k hk => by rw [lookup_setMember, if_neg hk]⟩
  · simp [Notebook.name, hmd, lookup_setMember]
  · simp [Notebook.namespace', hmd, lookup_setMember]
  · simp [Notebook.uid, hmd, lookup_setMember]
  · intro key hkey
    simp [Notebook.annotationValue, Notebook.annotations, hmd, has, lookup_setMember,
      lookup_dropMember, membersOrNone, hkey]
  · simp only [Notebook.isLocked, Notebook.annotationValue, Notebook.annotations, read_obj,
      lookup_setMember_self, Option.getD_some, ok_bind, orElse_empty_obj, pure_eq_ok, membersOrNone,
      lookup_dropMember, if_true, Option.getD_none]
    rfl

end Release

end Workbench
