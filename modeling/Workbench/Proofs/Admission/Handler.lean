import Workbench.Admission.Handler
import Workbench.Proofs.Cluster.Run
import Workbench.Proofs.Notebook

/-!
# Requests that are let in

* `Admission.edit_update`: the edits of a notebook that is changed;
* `Admission.edit_update_yields`: they are edits of the specification, whatever the cluster answers;
* `Admission.annotations_fillNamespace`: a namespace that is filled in leaves the annotations;
* `Admission.verdict_admitted_iff`: what it takes to let a notebook in;
* `Admission.handle_admitted`: what happened before one was let in.
-/

namespace Workbench

open Doc

/-! ## Edits of the specification -/

theorem TrustBundle.sameBut_mount {nb nb' : Notebook} (h : mount nb = .ok nb') :
    SameBut "spec" nb nb' := by
  unfold mount at h
  simp only [bind_eq_ok_iff, liftM_fault_eq_ok_iff] at h
  obtain ⟨_, -, nb₁, h₁, nb₂, h₂, h₃⟩ := h
  have hspec := (Notebook.sameBut_ensurePodSpec h₁).trans (Notebook.sameBut_modifyPodSpec h₂)
  exact hspec.trans (Notebook.sameBut_modifyContainer h₃)

theorem Sidecar.sameBut_inject {nb nb' : Notebook} {image : String}
    (h : inject image nb = .ok nb') : SameBut "spec" nb nb' := by
  unfold inject at h
  simp only [bind_eq_ok_iff] at h
  obtain ⟨_, -, nb₁, h₁, _, -, _, -, _, -, _, -, _, -, _, -, _, -, _, -, _, -, h₂⟩ := h
  exact (Notebook.sameBut_ensurePodSpec h₁).trans (Notebook.sameBut_modifyPodSpec h₂)

theorem Image.resolve_yields {nb : Notebook} (hnb : nb.isObj) (ns : String) :
    (resolve ns nb).Yields (SameBut "spec" nb) := by
  unfold resolve
  refine (Action.Yields.any _).seq fun selection _ => ?_
  split
  · exact .pure (.refl hnb)
  refine (Action.Yields.any _).seq fun primary? _ => ?_
  refine (Action.Yields.liftM_fault fun _ => Notebook.sameBut_ensurePodSpec).seq fun nb₁ h₁ => ?_
  cases primary? with
  | none => exact .pure h₁
  | some i =>
    refine (Action.Yields.any _).seq fun container _ => ?_
    refine (Action.Yields.any _).seq fun image _ => ?_
    refine (Action.Yields.any _).seq fun isFinal _ => ?_
    split
    · exact .pure h₁
    refine (Action.Yields.any _).seq fun reference? _ => ?_
    cases reference? with
    | none => exact .pure h₁
    | some reference =>
      exact .liftM_fault fun _ h₂ => h₁.trans (Notebook.sameBut_modifyContainer h₂)

namespace Admission

variable {nb : Notebook} {settings : Settings}

theorem mountBundle_yields (hnb : nb.isObj) : (mountBundle nb).Yields (SameBut "spec" nb) := by
  unfold mountBundle
  refine (Action.Yields.any _).seq fun ns _ => ?_
  refine (Action.Yields.any _).seq fun isProvided _ => ?_
  split
  · exact .pure (.refl hnb)
  refine (Action.Yields.any _).seq fun isMerged _ => ?_
  split
  · exact .pure (.refl hnb)
  · exact .liftM_trouble fun _ => TrustBundle.sameBut_mount

theorem sameBut_addSidecar {edited : Notebook} (hnb : nb.isObj)
    (h : addSidecar settings nb = .ok (some edited)) : SameBut "spec" nb edited := by
  obtain ⟨asksForSignIn, -, h⟩ := bind_eq_ok_iff.mp h
  split at h
  · cases h
    exact .refl hnb
  obtain ⟨asksForMesh, -, h⟩ := bind_eq_ok_iff.mp h
  split at h
  · cases h
  obtain ⟨nb', h₁, h₂⟩ := bind_eq_ok_iff.mp h
  cases h₂
  exact Sidecar.sameBut_inject h₁

/-- A notebook that is changed is not held back. -/
theorem edit_update : edit settings RestartGuard.updateOperation nb =
    editContainers settings nb >>= fun nb => liftM (addSidecar settings nb) := by
  have hcreate : RestartGuard.updateOperation ≠ RestartGuard.createOperation := by decide
  have hwrites : writes RestartGuard.updateOperation = true := by decide
  unfold edit
  simp only [if_neg hcreate, if_pos hwrites, pure_bind]

/-- **The edits of a notebook that is changed are edits of its specification.** -/
theorem edit_update_yields (hnb : nb.isObj) :
    (edit settings RestartGuard.updateOperation nb).Yields
      fun edited? => ∀ edited, edited? = some edited → SameBut "spec" nb edited := by
  rw [edit_update]
  have hcontainers : (editContainers settings nb).Yields (SameBut "spec" nb) :=
    (Image.resolve_yields hnb _).seq fun nb₁ h₁ =>
      (mountBundle_yields h₁.isObj).mono fun _ h₂ => h₁.trans h₂
  refine hcontainers.seq fun nb₁ h₁ => .liftM_fault ?_
  rintro _ h₂ edited rfl
  exact h₁.trans (sameBut_addSidecar h₁.isObj h₂)

/-! ## Requests -/

theorem sameBut_fillNamespace {ns : Doc} {filled : Notebook}
    (h : fillNamespace ns nb = .ok filled) : SameBut "metadata" nb filled :=
  sameBut_modify h

/-- A namespace that is filled in leaves the annotations alone. -/
theorem annotations_fillNamespace {ns : Doc} {filled : Notebook}
    (h : fillNamespace ns nb = .ok filled) : filled.annotations = nb.annotations := by
  obtain ⟨ms, metadata, metadata', rfl, hm, hedit, rfl⟩ := modify_eq_ok_iff.mp h
  have hsame : SameBut "namespace" metadata metadata' := by
    obtain ⟨found, hfound, hedit⟩ := bind_eq_ok_iff.mp hedit
    split at hedit
    · cases hedit
      obtain ⟨os, rfl, -⟩ := read_eq_ok_iff.mp hfound
      exact .refl rfl
    · exact sameBut_put hedit
  have hobj := hsame.isObj_left
  unfold Notebook.annotations
  simp only [read_obj, hm, lookup_setMember, if_true, Option.getD_some, ok_bind,
    orElse_empty hobj, orElse_empty hsame.isObj, hsame.read (k := "annotations") (by decide)]

variable {σ : Type} {h : Host σ} {s s' : σ} {request : Doc} {answer : Answer} {mutated : Notebook}

theorem run_judge_iff {operation old submitted : Doc} :
    (judge settings operation old submitted nb).run h s = (.ok (.admitted mutated), s') ↔
      ∃ edited, (edit settings operation nb).run h s = (.ok (some edited), s') ∧
        settle operation old submitted edited = .ok mutated := by
  unfold judge
  rw [Action.run_seq_eq_ok_iff]
  constructor
  · rintro ⟨edited?, u, hedit, hjudge⟩
    cases edited? with
    | none => cases hjudge
    | some edited =>
      obtain ⟨mutated', _, hlift, hend⟩ := Action.run_seq_eq_ok_iff.mp hjudge
      obtain ⟨hsettle, rfl⟩ := Action.run_liftM_fault_eq_ok_iff.mp hlift
      cases hend
      exact ⟨edited, hedit, hsettle⟩
  · rintro ⟨edited, hedit, hsettle⟩
    refine ⟨some edited, s', hedit, Action.run_seq_eq_ok_iff.mpr ⟨mutated, s', ?_, rfl⟩⟩
    exact Action.run_liftM_fault_eq_ok_iff.mpr ⟨hsettle, rfl⟩

theorem run_rescue_failed_iff {a : Action Verdict} :
    (Action.rescue a failed).run h s = (.ok (.admitted mutated), s') ↔
      a.run h s = (.ok (.admitted mutated), s') := by
  rw [Action.run_rescue]
  rcases a.run h s with ⟨t | v, u⟩
  · cases t <;> simp [failed]
  · rfl

/-- What it takes to let a notebook in. -/
theorem verdict_admitted_iff {object : Doc} :
    (verdict settings request object).run h s = (.ok (.admitted mutated), s') ↔
      ∃ operation old ns filled edited,
        request.read "operation" = .ok operation ∧ isNamed object = .ok true ∧
        request.read "oldObject" = .ok old ∧
        (operation = RestartGuard.updateOperation → old.isObj = true) ∧
        request.read "namespace" = .ok ns ∧ fillNamespace ns object = .ok filled ∧
        (edit settings operation filled).run h s = (.ok (some edited), s') ∧
        settle operation old object edited = .ok mutated := by
  unfold verdict
  simp only [Action.run_seq_eq_ok_iff, Action.run_liftM_fault_eq_ok_iff]
  constructor
  · rintro ⟨operation, _, ⟨hoperation, rfl⟩, named, _, ⟨hnamed, rfl⟩, hrun⟩
    cases named with
    | false => cases hrun
    | true =>
      obtain ⟨old, _, hlift, hrun⟩ := Action.run_seq_eq_ok_iff.mp hrun
      obtain ⟨hold, rfl⟩ := Action.run_liftM_fault_eq_ok_iff.mp hlift
      split at hrun
      · cases hrun
      next hguard =>
      simp only [Action.run_seq_eq_ok_iff, Action.run_liftM_fault_eq_ok_iff] at hrun
      obtain ⟨ns, _, ⟨hns, rfl⟩, filled, _, ⟨hfilled, rfl⟩, hrun⟩ := hrun
      obtain ⟨edited, hedit, hsettle⟩ := run_judge_iff.mp (run_rescue_failed_iff.mp hrun)
      exact ⟨operation, old, ns, filled, edited, hoperation, hnamed, hold, by simpa using hguard, hns,
        hfilled, hedit, hsettle⟩
  · rintro ⟨operation, old, ns, filled, edited, hoperation, hnamed, hold, hguard, hns, hfilled, hedit,
      hsettle⟩
    refine ⟨operation, s, ⟨hoperation, rfl⟩, true, s, ⟨hnamed, rfl⟩, ?_⟩
    refine Action.run_seq_eq_ok_iff.mpr
      ⟨old, s, Action.run_liftM_fault_eq_ok_iff.mpr ⟨hold, rfl⟩, ?_⟩
    rw [if_neg (by simpa using hguard)]
    simp only [Action.run_seq_eq_ok_iff, Action.run_liftM_fault_eq_ok_iff]
    refine ⟨ns, s, ⟨hns, rfl⟩, filled, s, ⟨hfilled, rfl⟩, ?_⟩
    exact run_rescue_failed_iff.mpr (run_judge_iff.mpr ⟨edited, hedit, hsettle⟩)

/-- **What happened before a notebook was let in.** The submitted object was given a namespace,
edited, and settled by the guard. -/
theorem handle_admitted (hrun : (handle settings request).run h s = (.ok answer, s'))
    (hanswer : answer.verdict = .admitted mutated) :
    ∃ operation old ns filled edited,
      request.read "operation" = .ok operation ∧ request.read "object" = .ok answer.submitted ∧
      request.read "oldObject" = .ok old ∧ request.read "namespace" = .ok ns ∧
      fillNamespace ns answer.submitted = .ok filled ∧
      (edit settings operation filled).run h s = (.ok (some edited), s') ∧
      settle operation old answer.submitted edited = .ok mutated := by
  unfold handle at hrun
  simp only [Action.run_seq_eq_ok_iff, Action.run_liftM_fault_eq_ok_iff, Action.run_pure] at hrun
  obtain ⟨members, _, ⟨-, rfl⟩, object, _, ⟨hobject, rfl⟩, verdict, _, hverdict, hend⟩ := hrun
  cases hend
  cases hanswer
  obtain ⟨operation, old, ns, filled, edited, hoperation, -, hold, -, hns, hfilled, hedit, hsettle⟩ :=
    verdict_admitted_iff.mp hverdict
  exact ⟨operation, old, ns, filled, edited, hoperation, hobject, hold, hns, hfilled, hedit,
    hsettle⟩

end Admission

end Workbench
