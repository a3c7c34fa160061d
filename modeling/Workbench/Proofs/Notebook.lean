import Workbench.Notebook
import Workbench.Proofs.Doc.Loose

/-!
# Which parts of a notebook an edit leaves alone

Annotations are read from the metadata alone, and the pod template from the specification alone.
Edits of the one therefore leave what is read from the other.

* `annotations_of_sameBut`: an edit of the specification leaves the annotations;
* `templateSpec_of_sameBut`: an edit of the metadata leaves the pod template;
* `templateSpec_of_podSpecOf`, `templateSpec_of_podSpec`: the ways of reading the template agree;
* `podSpec_eq_ok`: what is read when the template would have to be created;
* `sameBut_modifyPodSpec` and the like: what each edit of a notebook is an edit of;
* `hasAnnotation_annotate`, `hasAnnotation_dropAnnotation`: the annotation that was set, and the one
  that was taken away.
-/

namespace Workbench.Notebook

open Doc

variable {nb nb' : Notebook} {key value : String} {edit : Doc → Except Fault Doc} {i : Nat}

/-! ## Edits of the specification -/

theorem sameBut_ensurePodSpec (h : nb.ensurePodSpec = .ok nb') : SameBut "spec" nb nb' := by
  obtain ⟨nb₁, h₁, h₂⟩ := bind_eq_ok_iff.mp h
  exact (sameBut_ensure h₁).trans (sameBut_modify h₂)

theorem sameBut_modifyPodSpec (h : nb.modifyPodSpec edit = .ok nb') : SameBut "spec" nb nb' :=
  sameBut_modify h

theorem sameBut_modifyContainer (h : nb.modifyContainer i edit = .ok nb') :
    SameBut "spec" nb nb' :=
  sameBut_modifyPodSpec h

theorem name_of_sameBut (h : SameBut "spec" nb nb') : nb'.name = nb.name := by
  rw [name, name, h.require (by decide)]

theorem annotations_of_sameBut (h : SameBut "spec" nb nb') : nb'.annotations = nb.annotations := by
  rw [annotations, annotations, h.read (by decide)]

theorem annotationValue_of_sameBut (h : SameBut "spec" nb nb') (key : String) :
    nb'.annotationValue key = nb.annotationValue key := by
  rw [annotationValue, annotationValue, annotations_of_sameBut h]

/-! ## Edits of the metadata -/

theorem templateSpec_of_sameBut (h : SameBut "metadata" nb nb') :
    nb'.templateSpec = nb.templateSpec := by
  rw [templateSpec, templateSpec, orElse_empty h.isObj_left, orElse_empty h.isObj, h.read (by decide)]

theorem podSpecOf_of_sameBut (h : SameBut "metadata" nb nb') : nb'.podSpecOf = nb.podSpecOf := by
  rw [podSpecOf, podSpecOf, h.require (by decide)]

/-- A template that is there is read as it is, unless it counts as empty. -/
theorem templateSpec_of_podSpecOf {spec : Doc} (h : nb.podSpecOf = .ok spec) :
    nb.templateSpec = .ok (spec.orElse .empty) := by
  simp only [podSpecOf, bind_eq_ok_iff, require_eq_ok_iff] at h
  obtain ⟨_, ⟨ms, rfl, hspec⟩, _, ⟨ns, rfl, htemplate⟩, os, rfl, hpod⟩ := h
  simp [templateSpec, hspec, htemplate, hpod]

theorem orElse_of_templateSpec {spec : Doc} (h : nb.templateSpec = .ok spec) :
    spec.orElse .empty = spec := by
  simp only [templateSpec, bind_eq_ok_iff] at h
  obtain ⟨_, -, _, -, found, -, h⟩ := h
  cases h
  unfold orElse
  split_ifs <;> rfl

theorem sameBut_annotate (h : nb.annotate key value = .ok nb') : SameBut "metadata" nb nb' := by
  obtain ⟨nb₁, h₁, h₂⟩ := bind_eq_ok_iff.mp h
  obtain ⟨nb₂, h₃, h₄⟩ := bind_eq_ok_iff.mp h₁
  exact ((sameBut_ensure h₃).trans (sameBut_modify h₄)).trans (sameBut_modify h₂)

theorem sameBut_dropAnnotation (h : nb.dropAnnotation key = .ok nb') :
    SameBut "metadata" nb nb' :=
  sameBut_modify h

/-! ## The pod template -/

/-- The specification of the pod template is there. -/
def HasPodSpec (nb : Notebook) (spec : Doc) : Prop :=
  ∃ ms s t, nb = .obj ms ∧ ms.lookup "spec" = some (.obj s) ∧ s.lookup "template" = some (.obj t) ∧
    t.lookup "spec" = some spec

theorem HasPodSpec.podSpecOf {spec : Doc} (h : nb.HasPodSpec spec) : nb.podSpecOf = .ok spec := by
  obtain ⟨ms, s, t, rfl, hs, ht, hspec⟩ := h
  simp [Notebook.podSpecOf, hs, ht, hspec]

theorem HasPodSpec.ensurePodSpec {spec : Doc} (h : nb.HasPodSpec spec) (hspec : spec ≠ .null) :
    nb.ensurePodSpec = .ok nb := by
  obtain ⟨ms, s, t, rfl, hs, ht, hpod⟩ := h
  have hread : (Doc.obj t).read "spec" = .ok spec := by rw [read_obj, hpod, Option.getD_some]
  rw [Notebook.ensurePodSpec, ensure_obj hs, ok_bind, modify_obj hs, ensure_obj ht, ok_bind,
    modify_obj ht, hread, ok_bind, if_neg hspec, pure_eq_ok, ok_bind, setMember_of_lookup ht, ok_bind,
    setMember_of_lookup hs]

theorem HasPodSpec.podSpec {spec : Doc} (h : nb.HasPodSpec spec) (hspec : spec ≠ .null) :
    nb.podSpec = .ok spec := by
  rw [Notebook.podSpec, h.ensurePodSpec hspec, ok_bind, h.podSpecOf]

/-- What stands under the specification of a notebook, the pod template created if need be. -/
def fillTemplate (spec : Doc) : Except Fault Doc := do
  let spec ← spec.ensure "template" .empty
  spec.modify "template" fun template => do
    if (← template.read "spec") = .null then template.put "spec" .empty else return template

theorem podSpec_obj (ms : List Member) : podSpec (.obj ms) =
    fillTemplate ((ms.lookup "spec").getD .empty) >>= fun spec =>
      spec.require "template" >>= fun template => template.require "spec" := by
  have hensure : (Doc.obj ms).ensure "spec" .empty =
      .ok (.obj (if (ms.lookup "spec").isSome then ms else ms ++ [("spec", .empty)])) := rfl
  have hspec := lookup_ensured "spec" "spec" Doc.empty ms
  rw [if_pos rfl] at hspec
  rw [podSpec, ensurePodSpec, hensure, ok_bind, modify_obj hspec]
  change ((fillTemplate _ >>= _) >>= _) = _
  cases fillTemplate ((ms.lookup "spec").getD .empty) with
  | error f => rfl
  | ok spec => simp only [ok_bind, podSpecOf, require_obj, lookup_setMember_self]

/-- The specification is what stands at the end of the way, the empty object when that is null. -/
theorem podSpec_eq_ok {spec : Doc} (h : nb.podSpec = .ok spec) : ∃ ms s t, nb = .obj ms ∧
    (ms.lookup "spec").getD .empty = .obj s ∧ (s.lookup "template").getD .empty = .obj t ∧
    spec = if (t.lookup "spec").getD .null = .null then .empty
      else (t.lookup "spec").getD .null := by
  obtain ⟨ms, rfl⟩ : ∃ ms, nb = .obj ms := by
    obtain ⟨nb₂, h₂, -⟩ := bind_eq_ok_iff.mp h
    obtain ⟨nb₁, h₁, -⟩ := bind_eq_ok_iff.mp h₂
    obtain ⟨ms, hms, -⟩ := ensure_eq_ok_iff.mp h₁
    exact ⟨ms, hms⟩
  rw [podSpec_obj] at h
  obtain ⟨_, hfill, hpod⟩ := bind_eq_ok_iff.mp h
  obtain ⟨_, hensure, hfill⟩ := bind_eq_ok_iff.mp hfill
  obtain ⟨s, hs, rfl⟩ := ensure_eq_ok_iff.mp hensure
  obtain ⟨_, v, w, hs', hv, hw, rfl⟩ := modify_eq_ok_iff.mp hfill
  cases hs'
  rw [lookup_ensured, if_pos rfl, Option.some.injEq] at hv
  obtain ⟨found, hfound, hw⟩ := bind_eq_ok_iff.mp hw
  obtain ⟨t, rfl, rfl⟩ := read_eq_ok_iff.mp hfound
  rw [require_obj, lookup_setMember_self, ok_bind] at hpod
  refine ⟨ms, s, t, rfl, hs, hv, ?_⟩
  split at hw
  · next hnull =>
    cases hw
    rw [require_obj, lookup_setMember_self, Except.ok.injEq] at hpod
    rw [if_pos hnull, hpod]
  · next hnull =>
    cases hw
    obtain ⟨_, ht, hspec⟩ := require_eq_ok_iff.mp hpod
    cases ht
    rw [if_neg hnull, hspec, Option.getD_some]

theorem hasPodSpec_of_podSpec {spec : Doc} (h : nb.podSpec = .ok spec) (hspec : spec ≠ .empty) :
    nb.HasPodSpec spec ∧ spec ≠ .null := by
  obtain ⟨ms, s, t, rfl, hs, ht, heq⟩ := podSpec_eq_ok h
  have hnull : (t.lookup "spec").getD .null ≠ .null := fun hnull =>
    hspec (heq.trans (if_pos hnull))
  rw [if_neg hnull] at heq
  have hpod : t.lookup "spec" = some spec := eq_some_of_getD heq.symm (heq ▸ hnull)
  have htemplate : s.lookup "template" = some (.obj t) := eq_some_of_getD_empty ht fun hnil => by
    simp [hnil] at hpod
  have hfound : ms.lookup "spec" = some (.obj s) := eq_some_of_getD_empty hs fun hnil => by
    simp [hnil] at htemplate
  exact ⟨⟨ms, s, t, rfl, hfound, htemplate, hpod⟩, heq ▸ hnull⟩

/-- The specification as it stands is the one that would be created. -/
theorem templateSpec_of_podSpec {ps : List Member} (h : nb.podSpec = .ok (.obj ps)) :
    nb.templateSpec = .ok (.obj ps) := by
  obtain ⟨ms, s, t, rfl, hs, ht, heq⟩ := podSpec_eq_ok h
  rw [templateSpec, orElse_empty_obj, read_obj, ok_bind, orElse_getD_null (by rw [hs]; rfl), hs]
  simp only [read_obj, ok_bind]
  rw [orElse_getD_null (by rw [ht]; rfl), ht, read_obj, ok_bind]
  split at heq
  · next hnull =>
    rw [hnull, heq]
    rfl
  · rw [← heq, orElse_empty_obj]
    rfl

theorem podSpec_of_sameBut (h : SameBut "metadata" nb nb') : nb'.podSpec = nb.podSpec := by
  obtain ⟨ms, ns, rfl, rfl, hns⟩ := h
  rw [podSpec_obj, podSpec_obj, hns _ (by decide)]

theorem usesConfigMap_of_sameBut (h : SameBut "metadata" nb nb') (source : Doc) :
    nb'.usesConfigMap source = nb.usesConfigMap source := by
  rw [usesConfigMap, usesConfigMap, podSpec_of_sameBut h]

theorem volumes_of_usesConfigMap {source : Doc} (h : nb.usesConfigMap source = .ok true) :
    ∃ ps l, nb.HasPodSpec (.obj ps) ∧ ps.lookup "volumes" = some (.arr l) ∧
      anyEntry (isBackedBy source) l = .ok true := by
  obtain ⟨spec, hspec, h⟩ := bind_eq_ok_iff.mp h
  obtain ⟨volumes, hvolumes, h⟩ := bind_eq_ok_iff.mp h
  obtain ⟨ps, rfl, rfl⟩ := read_eq_ok_iff.mp hvolumes
  dsimp only at h
  obtain ⟨entries, hentries, h⟩ := bind_eq_ok_iff.mp h
  have hl : ps.lookup "volumes" = some (.arr entries) := by
    rcases elements_orElse hentries with hvolumes | htexts
    · exact eq_some_of_getD hvolumes (by simp)
    · -- A text is backed by no config map.
      cases entries with
      | nil => cases h
      | cons e es =>
        obtain ⟨s, rfl⟩ := htexts e List.mem_cons_self
        cases h
  have hne : obj ps ≠ .empty := by
    rintro hps
    cases hps
    cases hl
  exact ⟨ps, entries, (hasPodSpec_of_podSpec hspec hne).1, hl, h⟩

/-! ## Annotations that were edited -/

theorem annotations_of_require {metadata annotations : Doc}
    (hm : nb.require "metadata" = .ok metadata)
    (ha : metadata.require "annotations" = .ok annotations) :
    nb.annotations = .ok (annotations.orElse .empty) := by
  obtain ⟨ms, rfl, hms⟩ := require_eq_ok_iff.mp hm
  obtain ⟨os, rfl, hos⟩ := require_eq_ok_iff.mp ha
  simp [Notebook.annotations, hms, hos]

theorem hasAnnotation_of_require {metadata : Doc} {ms : List Member}
    (hm : nb.require "metadata" = .ok metadata)
    (ha : metadata.require "annotations" = .ok (.obj ms)) :
    nb.hasAnnotation key = .ok (ms.lookup key).isSome := by
  unfold hasAnnotation
  rw [annotations_of_require hm ha, ok_bind, orElse_empty_obj, contains_obj_str]

theorem hasAnnotation_annotate (h : nb.annotate key value = .ok nb') :
    nb'.hasAnnotation key = .ok true := by
  obtain ⟨nb₁, -, h₁⟩ := bind_eq_ok_iff.mp h
  obtain ⟨_, metadata, -, h₂, hm⟩ := require_of_modify h₁
  obtain ⟨_, annotations, -, h₃, ha⟩ := require_of_modify h₂
  obtain ⟨ms, -, rfl⟩ := put_eq_ok_iff.mp h₃
  rw [hasAnnotation_of_require hm ha, lookup_setMember, if_pos rfl, Option.isSome_some]

theorem hasAnnotation_dropAnnotation (h : nb.dropAnnotation key = .ok nb') :
    nb'.hasAnnotation key = .ok false := by
  obtain ⟨_, metadata, -, h₂, hm⟩ := require_of_modify h
  obtain ⟨_, annotations, -, h₃, ha⟩ := require_of_modify h₂
  obtain ⟨ms, -, rfl⟩ := remove_eq_ok_iff.mp h₃
  rw [hasAnnotation_of_require hm ha, lookup_dropMember, if_pos rfl, Option.isSome_none]

end Workbench.Notebook
