import Workbench.Cluster.Memory
import Workbench.Proofs.Admission.Handler
import Workbench.Proofs.Doc.Canonical

/-!
# The operator restarts no running notebook

* `RestartGuard.hold_podSpecOf`: the template that is held is the one that was submitted;
* `Admission.GuardsTemplate`: what becomes of an update that leaves the template alone;
* `Admission.settle_guards`: the guard sees to it;
* **`Admission.handle_update_guards`**: so does every answer that lets such an update in.
-/

namespace Workbench

open Doc

variable {old submitted edited mutated : Notebook} {before wanted after : Doc}

namespace RestartGuard

/-- A template that is held is the submitted one. -/
theorem hold_podSpecOf (hwanted : submitted.templateSpec = .ok wanted)
    (h : hold submitted edited = .ok mutated) : mutated.podSpecOf = .ok wanted := by
  unfold hold at h
  rw [hwanted, ok_bind] at h
  obtain ⟨_, spec, -, hspec, h₁⟩ := require_of_modify h
  obtain ⟨_, template, -, htemplate, h₂⟩ := require_of_modify hspec
  rw [Notebook.podSpecOf, h₁, ok_bind, h₂, ok_bind, require_of_put htemplate]

theorem isStill_eq_false (hstopped : edited.hasAnnotation AnnotationKey.stopped = .ok false)
    (hrestart : edited.hasAnnotation AnnotationKey.restart = .ok false) :
    isStill edited = .ok false := by
  unfold isStill
  rw [hstopped, hrestart]
  rfl

theorem decide_running {decision : Decision}
    (hstopped : edited.hasAnnotation AnnotationKey.stopped = .ok false)
    (hrestart : edited.hasAnnotation AnnotationKey.restart = .ok false)
    (hbefore : old.templateSpec = .ok before) (hwanted : submitted.templateSpec = .ok wanted)
    (hsame : wanted.equivalent before)
    (h : decide updateOperation old submitted edited = .ok decision) :
    ∃ after, edited.templateSpec = .ok after ∧
      decision = if after.equivalent before then .allow
        else .deferred (wanted.changeSummary after) := by
  have hcreate : updateOperation ≠ createOperation := by decide
  have hrunning := isStill_eq_false hstopped hrestart
  rw [equivalent_comm] at hsame
  unfold decide at h
  simp only [if_neg hcreate, hrunning, ok_bind, bind_eq_ok_iff] at h
  obtain ⟨_, -, _, -, h⟩ := h
  simp only [Bool.false_eq_true, if_false, compareTemplates, hbefore, hwanted, ok_bind, hsame,
    Bool.not_true] at h
  obtain ⟨after, hafter, h⟩ := bind_eq_ok_iff.mp h
  refine ⟨after, hafter, ?_⟩
  rw [equivalent_comm]
  split_ifs at h ⊢ <;> cases h <;> rfl

end RestartGuard

namespace Admission

/-- What becomes of an update that leaves the template alone: `before` is the template of the old
object, `wanted` the one that was submitted, and `after` the one that the operator's edits make. -/
structure GuardsTemplate (before wanted after : Doc) (mutated : Notebook) : Prop where
  /-- The template means what it meant before. -/
  template : ∃ template, mutated.templateSpec = .ok template ∧ template.equivalent before
  /-- Edits are noted as pending when they would have changed the template. -/
  pending : mutated.hasAnnotation AnnotationKey.updatePending = .ok (!after.equivalent before)
  /-- The template is the submitted one then. -/
  held : after.equivalent before = false →
    mutated.templateSpec = .ok wanted ∧ mutated.podSpecOf = .ok wanted

theorem mark_allow (hobj : edited.isObj) (h : mark .allow edited = .ok mutated) :
    SameBut "metadata" edited mutated ∧
      mutated.hasAnnotation AnnotationKey.updatePending = .ok false := by
  obtain ⟨isPending, hpending, h⟩ := bind_eq_ok_iff.mp h
  cases isPending with
  | true => exact ⟨Notebook.sameBut_dropAnnotation h, Notebook.hasAnnotation_dropAnnotation h⟩
  | false =>
    cases h
    exact ⟨.refl hobj, hpending⟩

/-- **The guard keeps the template of a running notebook.** -/
theorem settle_guards (hobj : edited.isObj)
    (hstopped : edited.hasAnnotation AnnotationKey.stopped = .ok false)
    (hrestart : edited.hasAnnotation AnnotationKey.restart = .ok false)
    (hbefore : old.templateSpec = .ok before) (hwanted : submitted.templateSpec = .ok wanted)
    (hsame : wanted.equivalent before)
    (h : settle RestartGuard.updateOperation old submitted edited = .ok mutated) :
    ∃ after, edited.templateSpec = .ok after ∧ GuardsTemplate before wanted after mutated := by
  obtain ⟨decision, hdecision, h⟩ := bind_eq_ok_iff.mp h
  obtain ⟨applied, happlied, hmark⟩ := bind_eq_ok_iff.mp h
  obtain ⟨after, hafter, rfl⟩ :=
    RestartGuard.decide_running hstopped hrestart hbefore hwanted hsame hdecision
  refine ⟨after, hafter, ?_⟩
  by_cases hedits : after.equivalent before = true
  · -- The edits go through: the guard touches the metadata only.
    rw [if_pos hedits] at happlied hmark
    cases happlied
    obtain ⟨hmeta, hpending⟩ := mark_allow hobj hmark
    refine ⟨⟨after, ?_, hedits⟩, ?_, fun hne => absurd hedits (by simp [hne])⟩
    · rw [Notebook.templateSpec_of_sameBut hmeta, hafter]
    · rw [hpending, hedits, Bool.not_true]
  · -- The edits wait: the template is the submitted one, and the note is an edit of the metadata.
    rw [if_neg hedits] at happlied hmark
    have hheld : applied.podSpecOf = .ok wanted := RestartGuard.hold_podSpecOf hwanted happlied
    have htemplate : applied.templateSpec = .ok wanted := by
      rw [Notebook.templateSpec_of_podSpecOf hheld, Notebook.orElse_of_templateSpec hwanted]
    have hmeta := Notebook.sameBut_annotate hmark
    have hspec : mutated.templateSpec = .ok wanted ∧ mutated.podSpecOf = .ok wanted := by
      rw [Notebook.templateSpec_of_sameBut hmeta, Notebook.podSpecOf_of_sameBut hmeta]
      exact ⟨htemplate, hheld⟩
    refine ⟨⟨wanted, hspec.1, hsame⟩, ?_, fun _ => hspec⟩
    rw [Notebook.hasAnnotation_annotate hmark, Bool.eq_false_iff.mpr hedits, Bool.not_false]

variable {σ : Type} {h : Host σ} {s s' : σ} {settings : Settings} {request : Doc} {answer : Answer}

theorem handle_update_admitted
    (hoperation : request.read "operation" = .ok RestartGuard.updateOperation)
    (hobject : request.read "object" = .ok submitted) (hold : request.read "oldObject" = .ok old)
    (hrun : (handle settings request).run h s = (.ok answer, s'))
    (hallowed : answer.response.allowed = true) :
    ∃ mutated ns filled edited,
      answer.verdict = .admitted mutated ∧ answer.patch = Patch.between submitted mutated ∧
      request.read "namespace" = .ok ns ∧ fillNamespace ns submitted = .ok filled ∧
      (edit settings RestartGuard.updateOperation filled).run h s = (.ok (some edited), s') ∧
      SameBut "spec" filled edited ∧
      (∀ key, edited.hasAnnotation key = submitted.hasAnnotation key) ∧
      settle RestartGuard.updateOperation old submitted edited = .ok mutated := by
  obtain ⟨mutated, hanswer⟩ := Answer.allowed_iff.mp hallowed
  obtain ⟨_, _, ns, filled, edited, hoperation', hobject', hold', hns, hfilled, hedit, hsettle⟩ :=
    handle_admitted hrun hanswer
  cases hoperation.symm.trans hoperation'
  cases hold.symm.trans hold'
  obtain rfl : submitted = answer.submitted := Except.ok.inj (hobject.symm.trans hobject')
  have hspec : SameBut "spec" filled edited :=
    (edit_update_yields (sameBut_fillNamespace hfilled).isObj).of_run hedit edited rfl
  refine ⟨mutated, ns, filled, edited, hanswer, Answer.patch_of_admitted hanswer, hns, hfilled,
    hedit, hspec, fun key => ?_, hsettle⟩
  -- Neither the namespace nor the edits touch the annotations, which the guard looks at.
  unfold Notebook.hasAnnotation
  rw [Notebook.annotations_of_sameBut hspec, annotations_fillNamespace hfilled]

/-- **The operator restarts no running notebook.** When an update neither stops nor restarts a
notebook and leaves its template alone, then in every answer that lets it in the template means what
it meant before. Edits that would have changed it are noted as pending instead. -/
theorem handle_update_guards
    (hoperation : request.read "operation" = .ok RestartGuard.updateOperation)
    (hobject : request.read "object" = .ok submitted) (hold : request.read "oldObject" = .ok old)
    (hstopped : submitted.hasAnnotation AnnotationKey.stopped = .ok false)
    (hrestart : submitted.hasAnnotation AnnotationKey.restart = .ok false)
    (hbefore : old.templateSpec = .ok before) (hwanted : submitted.templateSpec = .ok wanted)
    (hsame : wanted.equivalent before)
    (hrun : (handle settings request).run h s = (.ok answer, s'))
    (hallowed : answer.response.allowed = true) :
    ∃ mutated ns filled edited after,
      answer.verdict = .admitted mutated ∧ answer.patch = Patch.between submitted mutated ∧
      answer.response = .admitted answer.uid answer.patch ∧
      request.read "namespace" = .ok ns ∧ fillNamespace ns submitted = .ok filled ∧
      (edit settings RestartGuard.updateOperation filled).run h s = (.ok (some edited), s') ∧
      edited.templateSpec = .ok after ∧ GuardsTemplate before wanted after mutated := by
  obtain ⟨mutated, ns, filled, edited, hanswer, hpatch, hns, hfilled, hedit, hspec, hann, hsettle⟩ :=
    handle_update_admitted hoperation hobject hold hrun hallowed
  obtain ⟨after, hafter, hguards⟩ := settle_guards hspec.isObj (by rw [hann, hstopped])
    (by rw [hann, hrestart]) hbefore hwanted hsame hsettle
  exact ⟨mutated, ns, filled, edited, after, hanswer, hpatch, Answer.response_of_admitted hanswer,
    hns, hfilled, hedit, hafter, hguards⟩

/-! ### An image that waits -/

/-- A pod template that still runs the first version of its image. -/
def firstTemplate : Doc := .obj [("containers", .arr [.obj [("name", "wb"), ("image", "lab-1")]])]

/-- A running notebook whose user has picked the second version. -/
def pickedNotebook : Notebook :=
  .obj [
    ("metadata", .obj [
      ("name", "wb"),
      ("namespace", "ns"),
      ("annotations", .obj [(AnnotationKey.imageSelection, "lab:2")])]),
    ("spec", .obj [("template", .obj [("spec", firstTemplate)])])]

/-- An update of the notebook that changes nothing. -/
def pickedUpdate : Doc :=
  .obj [("operation", "UPDATE"), ("object", pickedNotebook), ("oldObject", pickedNotebook)]

/-- A cluster that knows the second version. -/
def imageCluster : Memory where
  objects := [(⟨"ImageStream", "opendatahub", "lab"⟩, .obj [
    ("metadata", .obj [("name", "lab")]),
    ("status", .obj [("tags", .arr [.obj [
      ("tag", "2"),
      ("items", .arr [.obj [
        ("created", "2024-01-01T00:00:00Z"),
        ("dockerImageReference", "lab-2")]])]])])])]

/-- The notebook that was let in, if one was. -/
def admitted? (answer : Answer) : Option Notebook :=
  match answer.verdict with
  | .admitted mutated => some mutated
  | _ => none

/-- The second version of an image waits until the notebook restarts. -/
theorem handle_pickedUpdate_waits :
    ∃ answer s mutated,
      (handle {} pickedUpdate).run Memory.host imageCluster = (.ok answer, s) ∧
      answer.verdict = .admitted mutated ∧
      mutated.hasAnnotation AnnotationKey.updatePending = .ok true ∧
      mutated.podSpecOf = .ok firstTemplate := by
  have hmarked : ((handle {} pickedUpdate).run Memory.host imageCluster).1.map (fun answer =>
      (admitted? answer).map fun mutated => mutated.hasAnnotation AnnotationKey.updatePending) =
        .ok (some (.ok true)) := by decide +kernel
  rcases hrun : (handle {} pickedUpdate).run Memory.host imageCluster with ⟨t | answer, s⟩
  · rw [hrun] at hmarked
    cases hmarked
  rw [hrun] at hmarked
  obtain ⟨uid, submitted, mutated | _ | _⟩ := answer
  · have hpending : mutated.hasAnnotation AnnotationKey.updatePending = .ok true :=
      Option.some.inj (Except.ok.inj hmarked)
    have hobject : pickedUpdate.read "object" = .ok pickedNotebook := rfl
    have hold : pickedUpdate.read "oldObject" = .ok pickedNotebook := rfl
    have htemplate : pickedNotebook.templateSpec = .ok firstTemplate := by decide
    obtain ⟨_, _, _, _, after, hanswer, -, -, -, -, -, -, hguards⟩ :=
      handle_update_guards rfl hobject hold (by decide) (by decide) htemplate htemplate
        (equivalent_self _) hrun rfl
    cases hanswer
    have hedits : after.equivalent firstTemplate = false := by
      simpa [hpending] using hguards.pending
    exact ⟨_, s, mutated, rfl, rfl, hpending, (hguards.held hedits).2⟩
  all_goals cases hmarked

end Admission

end Workbench
