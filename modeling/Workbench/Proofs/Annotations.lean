import Workbench.Proofs.Notebook

/-!
# Notebooks that differ in an annotation

An annotation that is set or taken away leaves the other ones, and the name and the namespace of the
notebook.

* `Notebook.Placed`: the notebook has a name and a namespace;
* `Notebook.SameButAnnotation`: two notebooks that differ in one annotation at most;
  `sameButAnnotation_annotate` and `sameButAnnotation_dropAnnotation` say that the edits make such
  pairs;
* `Notebook.exists_annotations`: where an annotation is that is read;
* `Notebook.annotate_self`: an annotation that has the value already.
-/

namespace Workbench.Notebook

open Doc

variable {nb nb' nb'' : Notebook} {key k value : String} {name ns : Doc}
  {edit : Doc → Except Fault Doc}

/-! ## Names -/

/-- The notebook has a name and a namespace. -/
def Placed (nb : Notebook) (name ns : Doc) : Prop :=
  ∃ m, nb.require "metadata" = .ok (.obj m) ∧ m.lookup "name" = some name ∧
    m.lookup "namespace" = some ns

theorem Placed.isObj (h : nb.Placed name ns) : nb.isObj := by
  obtain ⟨m, hm, -⟩ := h
  obtain ⟨ms, rfl, -⟩ := require_eq_ok_iff.mp hm
  rfl

theorem name_of_placed (h : nb.Placed name ns) : nb.name = .ok name := by
  obtain ⟨m, hm, hname, -⟩ := h
  rw [Notebook.name, hm, ok_bind, require_obj, hname]

theorem namespace_of_placed (h : nb.Placed name ns) : nb.namespace' = .ok ns := by
  obtain ⟨m, hm, -, hns⟩ := h
  rw [Notebook.namespace', hm, ok_bind, require_obj, hns]

theorem Placed.of_sameBut (h : nb.Placed name ns) (hspec : SameBut "spec" nb nb') :
    nb'.Placed name ns := by
  obtain ⟨m, hm, hname⟩ := h
  exact ⟨m, by rw [hspec.require (by decide), hm], hname⟩

theorem Placed.of_modify (hedit : ∀ m m', edit m = .ok m' → SameBut "annotations" m m')
    (h : nb.Placed name ns) (hmodify : nb.modify "metadata" edit = .ok nb') : nb'.Placed name ns := by
  obtain ⟨m, hm, hname, hns⟩ := h
  obtain ⟨_, m', hm', hedited, hafter⟩ := require_of_modify hmodify
  cases hm.symm.trans hm'
  obtain ⟨_, os, hms, rfl, hos⟩ := hedit _ _ hedited
  cases hms
  exact ⟨os, hafter, by rw [hos _ (by decide), hname], by rw [hos _ (by decide), hns]⟩

/-! ## Annotations -/

/-- Two notebooks that differ in one annotation at most. -/
structure SameButAnnotation (key : String) (nb nb' : Notebook) : Prop where
  sameBut : SameBut "metadata" nb nb'
  placed : ∀ {name ns}, nb.Placed name ns → nb'.Placed name ns
  annotations : ∃ a a', nb.annotations = .ok a ∧ nb'.annotations = .ok a' ∧ SameBut key a a'

namespace SameButAnnotation

theorem annotationValue (h : SameButAnnotation key nb nb') (hk : k ≠ key) :
    nb'.annotationValue k = nb.annotationValue k := by
  obtain ⟨a, a', ha, ha', hsame⟩ := h.annotations
  rw [Notebook.annotationValue, Notebook.annotationValue, ha, ha', ok_bind, ok_bind, hsame.read hk]

theorem hasAnnotation (h : SameButAnnotation key nb nb') (hk : k ≠ key) :
    nb'.hasAnnotation k = nb.hasAnnotation k := by
  obtain ⟨_, _, ha, ha', as, as', rfl, rfl, hsame⟩ := h.annotations
  rw [Notebook.hasAnnotation, Notebook.hasAnnotation, ha, ha', ok_bind, ok_bind, contains_obj_str,
    contains_obj_str, hsame k hk]

end SameButAnnotation

theorem sameButAnnotation_modify (hedit : ∀ a a', edit a = .ok a' → SameBut key a a')
    (h : nb.modifyUnder ["metadata", "annotations"] edit = .ok nb') :
    SameButAnnotation key nb nb' where
  sameBut := sameBut_modify h
  placed hplaced := hplaced.of_modify (fun _ _ => sameBut_modify) h
  annotations := by
    obtain ⟨metadata, metadata', hm, h₁, hm'⟩ := require_of_modify h
    obtain ⟨a, a', ha, h₂, ha'⟩ := require_of_modify h₁
    have hsame := hedit a a' h₂
    refine ⟨_, _, annotations_of_require hm ha, annotations_of_require hm' ha', ?_⟩
    obtain ⟨as, as', rfl, rfl, hsame⟩ := hsame
    rw [orElse_empty_obj, orElse_empty_obj]
    exact ⟨as, as', rfl, rfl, hsame⟩

theorem sameButAnnotation_dropAnnotation (h : nb.dropAnnotation key = .ok nb') :
    SameButAnnotation key nb nb' := by
  refine sameButAnnotation_modify (fun a a' ha => ?_) h
  obtain ⟨as, rfl, rfl⟩ := remove_eq_ok_iff.mp ha
  exact ⟨as, _, rfl, rfl, fun k hk => by rw [lookup_dropMember, if_neg hk]⟩

theorem annotations_ensureAnnotations (h : nb.ensureAnnotations = .ok nb') :
    nb'.annotations = nb.annotations := by
  obtain ⟨nb₁, h₁, h₂⟩ := bind_eq_ok_iff.mp h
  obtain ⟨ms, rfl, rfl⟩ := ensure_eq_ok_iff.mp h₁
  obtain ⟨_, metadata, metadata', hms, hmetadata, hedit, rfl⟩ := modify_eq_ok_iff.mp h₂
  cases hms
  obtain ⟨found, hfound, hedit⟩ := bind_eq_ok_iff.mp hedit
  obtain ⟨os, rfl, rfl⟩ := read_eq_ok_iff.mp hfound
  have hread : ((ms.lookup "metadata").getD .null).orElse .empty = .obj os := by
    rw [lookup_ensured, if_pos rfl, Option.some.injEq] at hmetadata
    rw [orElse_getD_null (by rw [hmetadata]; rfl), hmetadata]
  simp only [Notebook.annotations, read_obj, lookup_setMember, if_true, Option.getD_some, ok_bind,
    hread]
  split at hedit
  · next hnull =>
    obtain ⟨_, hos, rfl⟩ := put_eq_ok_iff.mp hedit
    cases hos
    rw [orElse_empty_obj, read_obj, lookup_setMember_self, hnull]
    rfl
  · cases hedit
    rw [orElse_empty_obj, read_obj]
    rfl

theorem Placed.ensureAnnotations (h : nb.Placed name ns) (hensure : nb.ensureAnnotations = .ok nb') :
    nb'.Placed name ns := by
  obtain ⟨nb₁, h₁, h₂⟩ := bind_eq_ok_iff.mp hensure
  have hsame : nb₁ = nb := by
    obtain ⟨m, hm, -⟩ := h
    obtain ⟨ms, rfl, hms⟩ := require_eq_ok_iff.mp hm
    rw [ensure_obj hms] at h₁
    exact (Except.ok.inj h₁).symm
  rw [hsame] at h₂
  refine h.of_modify (fun m m' hedit => ?_) h₂
  obtain ⟨found, hfound, hedit⟩ := bind_eq_ok_iff.mp hedit
  split at hedit
  · exact sameBut_put hedit
  · cases hedit
    obtain ⟨os, rfl, -⟩ := read_eq_ok_iff.mp hfound
    exact .refl rfl

theorem sameButAnnotation_annotate (h : nb.annotate key value = .ok nb') :
    SameButAnnotation key nb nb' := by
  have hsame := sameBut_annotate h
  obtain ⟨nb₁, h₁, h₂⟩ := bind_eq_ok_iff.mp h
  have hput := sameButAnnotation_modify (fun a a' => sameBut_put) h₂
  refine ⟨hsame, fun hplaced => hput.placed (hplaced.ensureAnnotations h₁), ?_⟩
  rw [← annotations_ensureAnnotations h₁]
  exact hput.annotations

theorem annotationValue_annotate (h : nb.annotate key value = .ok nb') :
    nb'.annotationValue key = .ok (.str value) := by
  obtain ⟨nb₁, -, h₁⟩ := bind_eq_ok_iff.mp h
  obtain ⟨_, metadata, -, h₂, hm⟩ := require_of_modify h₁
  obtain ⟨_, annotations, -, h₃, ha⟩ := require_of_modify h₂
  obtain ⟨as, -, rfl⟩ := put_eq_ok_iff.mp h₃
  rw [annotationValue, annotations_of_require hm ha, ok_bind, orElse_empty_obj, read_obj,
    lookup_setMember_self, Option.getD_some]

theorem of_orElse_empty {d : Doc} {ms : List Member} (h : d.orElse .empty = .obj ms) (hms : ms ≠ []) :
    d = .obj ms := by
  unfold orElse at h
  split at h
  · exact h
  · cases h
    exact absurd rfl hms

/-- An annotation that is a text lies where annotations have to be. -/
theorem exists_annotations (h : nb.annotationValue key = .ok (.str value)) :
    ∃ ms os as, nb = .obj ms ∧ ms.lookup "metadata" = some (.obj os) ∧
      os.lookup "annotations" = some (.obj as) ∧ as.lookup key = some (.str value) := by
  obtain ⟨a, ha, h⟩ := bind_eq_ok_iff.mp h
  obtain ⟨as, rfl, has⟩ := read_eq_ok_iff.mp h
  obtain ⟨metadata, hm, ha₁⟩ := bind_eq_ok_iff.mp ha
  obtain ⟨annotations, hannotations, ha₂⟩ := bind_eq_ok_iff.mp ha₁
  obtain ⟨ms, rfl, hms⟩ := read_eq_ok_iff.mp hm
  obtain ⟨os, hos, hread⟩ := read_eq_ok_iff.mp hannotations
  have hvalue : as.lookup key = some (.str value) := eq_some_of_getD has (by simp)
  have hfound : os.lookup "annotations" = some (.obj as) := by
    have hobj : annotations = .obj as := of_orElse_empty (Except.ok.inj ha₂) fun hnil => by
      simp [hnil] at hvalue
    exact eq_some_of_getD (hread.trans hobj) (by simp)
  have hmetadata : ms.lookup "metadata" = some (.obj os) := by
    have hobj : metadata = .obj os := of_orElse_empty hos fun hnil => by
      simp [hnil] at hfound
    exact eq_some_of_getD (hms.trans hobj) (by simp)
  exact ⟨ms, os, as, rfl, hmetadata, hfound, hvalue⟩

/-- **An annotation that has the value already is not set again.** -/
theorem annotate_self (h : nb.annotationValue key = .ok (.str value)) :
    nb.annotate key value = .ok nb := by
  obtain ⟨ms, os, as, rfl, hmetadata, hfound, hvalue⟩ := exists_annotations h
  have hensure : Notebook.ensureAnnotations (.obj ms) = .ok (.obj ms) := by
    rw [ensureAnnotations, ensure_obj hmetadata, ok_bind, modify_obj hmetadata, read_obj, hfound,
      Option.getD_some, ok_bind, if_neg (by simp), pure_eq_ok, ok_bind, setMember_of_lookup hmetadata]
  rw [annotate, hensure, ok_bind, modifyUnder, modify_obj hmetadata, modifyUnder,
    modify_obj hfound, modifyUnder, Doc.put, members, ok_bind, setMember_of_lookup hvalue]
  simp only [pure_eq_ok, ok_bind, setMember_of_lookup hfound, setMember_of_lookup hmetadata]

end Workbench.Notebook
