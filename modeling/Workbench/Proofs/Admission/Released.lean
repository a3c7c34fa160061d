import Workbench.Proofs.Admission.Deferral
import Workbench.Reconcile.Steps

/-!
# A notebook that is let go

The guard looks at the notebook as it was submitted, and at no annotation of the notebook before the
update. An update that lets a stopped notebook go is therefore guarded like an update of one that runs,
and what was to be edited while it stood still waits for its next restart.

* `Admission.HasToWait`: the edits of an update that have to wait;
* `Admission.Settled`: what the guard makes of the edits; `settled_of_settle` says that it does;
* **`Admission.handle_update_settles`**: so does every answer that lets an update in, and the answer is
  the same whether the notebook was stopped or not.
-/

namespace Workbench

open Doc

namespace Admission

variable {σ : Type} {h : Host σ} {s s' : σ} {settings : Settings} {request : Doc} {answer : Answer}
  {old submitted edited mutated : Notebook}

/-! ## Edits that have to wait -/

/-- The edits of an update have to wait: the notebook neither stands still nor restarts once it is
updated, its user left the template alone, and the edits do not. -/
structure HasToWait (old submitted edited : Notebook) : Prop where
  runs : RestartGuard.isStill submitted = .ok false
  differ : ∃ before wanted after, old.templateSpec = .ok before ∧
    submitted.templateSpec = .ok wanted ∧ edited.templateSpec = .ok after ∧
    before.equivalent wanted = true ∧ before.equivalent after = false

/-- What the guard makes of edits. -/
structure Settled (old submitted edited mutated : Notebook) : Prop where
  /-- Edits that have to wait are noted, and the template is the submitted one. -/
  held : HasToWait old submitted edited → mutated.podSpecOf = submitted.templateSpec ∧
    mutated.hasAnnotation AnnotationKey.updatePending = .ok true
  /-- Other edits are made, and no note is left. -/
  made : ¬ HasToWait old submitted edited → SameBut "metadata" edited mutated ∧
    mutated.hasAnnotation AnnotationKey.updatePending = .ok false

theorem decide_deferred_iff_hasToWait {m : List Member}
    (hm : edited.require "metadata" = .ok (.obj m))
    (hstill : RestartGuard.isStill edited = RestartGuard.isStill submitted) :
    (∃ reason, RestartGuard.decide RestartGuard.updateOperation old submitted edited =
      .ok (.deferred reason)) ↔ HasToWait old submitted edited := by
  simp only [RestartGuard.decide_deferred_iff hm, RestartGuard.compareTemplates_deferred_iff, hstill]
  constructor
  · rintro ⟨_, -, hruns, before, wanted, after, hbefore, hwanted, hsame, hafter, hdiffer, -⟩
    exact ⟨hruns, before, wanted, after, hbefore, hwanted, hafter, hsame, hdiffer⟩
  · rintro ⟨hruns, before, wanted, after, hbefore, hwanted, hafter, hsame, hdiffer⟩
    exact ⟨_, by decide, hruns, before, wanted, after, hbefore, hwanted, hsame, hafter, hdiffer, rfl⟩

theorem settled_of_settle {m : List Member} (hm : edited.require "metadata" = .ok (.obj m))
    (hstill : RestartGuard.isStill edited = RestartGuard.isStill submitted)
    (h : settle RestartGuard.updateOperation old submitted edited = .ok mutated) :
    Settled old submitted edited mutated := by
  obtain ⟨decision, hdecide, h⟩ := bind_eq_ok_iff.mp h
  obtain ⟨applied, happly, hmark⟩ := bind_eq_ok_iff.mp h
  cases decision with
  | allow =>
    have hgo : ¬ HasToWait old submitted edited := fun hwait => by
      obtain ⟨_, hdeferred⟩ := (decide_deferred_iff_hasToWait hm hstill).mpr hwait
      cases hdecide.symm.trans hdeferred
    obtain ⟨ms, rfl, -⟩ := require_eq_ok_iff.mp hm
    cases happly
    exact ⟨fun hwait => absurd hwait hgo, fun _ => mark_allow rfl hmark⟩
  | deferred reason =>
    have hwait := (decide_deferred_iff_hasToWait hm hstill).mp ⟨reason, hdecide⟩
    obtain ⟨-, wanted, -, -, hwanted, -⟩ := hwait.differ
    have hheld : mutated.podSpecOf = .ok wanted := by
      rw [Notebook.podSpecOf_of_sameBut (Notebook.sameBut_annotate hmark)]
      exact RestartGuard.hold_podSpecOf hwanted happly
    exact ⟨fun _ => ⟨hheld.trans hwanted.symm, Notebook.hasAnnotation_annotate hmark⟩,
      fun hgo => absurd hwait hgo⟩

theorem settle_congr {old' : Notebook} {operation : Doc}
    (htemplate : old'.templateSpec = old.templateSpec) :
    settle operation old' submitted edited = settle operation old submitted edited := by
  simp only [settle, RestartGuard.decide, RestartGuard.compareTemplates, htemplate]

/-! ## Updates that are let in -/

theorem handle_congr {old' : Notebook} {again : Doc}
    (hobject : request.read "object" = .ok submitted) (hold : request.read "oldObject" = .ok old)
    (hobj : old'.isObj) (htemplate : old'.templateSpec = old.templateSpec)
    (hput : request.put "oldObject" old' = .ok again)
    (hrun : (handle settings request).run h s = (.ok answer, s'))
    (hallowed : answer.response.allowed = true) :
    (handle settings again).run h s = (.ok answer, s') := by
  obtain ⟨mutated, hanswer⟩ := Answer.allowed_iff.mp hallowed
  obtain ⟨ms, rfl, rfl⟩ := put_eq_ok_iff.mp hput
  have hread : ∀ {k : String} {d : Doc}, k ≠ "oldObject" → (Doc.obj ms).read k = .ok d →
      (Doc.obj (setMember "oldObject" old' ms)).read k = .ok d :=
    fun hk hd => ((sameBut_put hput).read hk).trans hd
  have hold' : (Doc.obj (setMember "oldObject" old' ms)).read "oldObject" = .ok old' := by
    rw [read_obj, lookup_setMember_self, Option.getD_some]
  rw [handle_eq hobject] at hrun
  obtain ⟨_, _, hverdict, hend⟩ := Action.run_seq_eq_ok_iff.mp hrun
  cases hend
  cases hanswer
  obtain ⟨operation, _, ns, filled, edited, hoperation, hnamed, hold₁, -, hns, hfilled, hedit, hsettle⟩ :=
    verdict_admitted_iff.mp hverdict
  cases hold.symm.trans hold₁
  have hverdict' := verdict_admitted_iff.mpr ⟨operation, old', ns, filled, edited,
    hread (by decide) hoperation, hnamed, hold', fun _ => hobj, hread (by decide) hns, hfilled, hedit,
    (settle_congr htemplate).trans hsettle⟩
  rw [handle_eq (hread (by decide) hobject), lookup_setMember, if_neg (by decide)]
  exact Action.run_seq_eq_ok_iff.mpr ⟨_, _, hverdict', rfl⟩

/-- **Whether a notebook was stopped plays no part.** In every answer that lets an update in, the edits
wait just when the notebook runs once it is updated and they alone change its template; else they are
all made. The answer is the same for every notebook before the update that has the same template. -/
theorem handle_update_settles
    (hoperation : request.read "operation" = .ok RestartGuard.updateOperation)
    (hobject : request.read "object" = .ok submitted) (hold : request.read "oldObject" = .ok old)
    (hrun : (handle settings request).run h s = (.ok answer, s'))
    (hallowed : answer.response.allowed = true) :
    ∃ mutated ns filled edited,
      answer.verdict = .admitted mutated ∧ answer.patch = Patch.between submitted mutated ∧
      answer.response = .admitted answer.uid answer.patch ∧
      request.read "namespace" = .ok ns ∧ fillNamespace ns submitted = .ok filled ∧
      (edit settings RestartGuard.updateOperation filled).run h s = (.ok (some edited), s') ∧
      Settled old submitted edited mutated ∧
      ∀ (old' : Notebook) (again : Doc), old'.isObj → old'.templateSpec = old.templateSpec →
        request.put "oldObject" old' = .ok again →
          (handle settings again).run h s = (.ok answer, s') := by
  obtain ⟨mutated, ns, filled, edited, hanswer, hpatch, hns, hfilled, hedit, hspec, hann, hsettle⟩ :=
    handle_update_admitted hoperation hobject hold hrun hallowed
  obtain ⟨m, hm⟩ := require_of_fillNamespace hfilled
  have hmetadata : edited.require "metadata" = .ok (.obj (withNamespace ns m)) := by
    rw [hspec.require (by decide), ((fillNamespace_eq_ok_iff hm).mp hfilled).require]
  have hstill : RestartGuard.isStill edited = RestartGuard.isStill submitted := by
    simp only [RestartGuard.isStill, hann]
  exact ⟨mutated, ns, filled, edited, hanswer, hpatch, Answer.response_of_admitted hanswer, hns,
    hfilled, hedit, settled_of_settle hmetadata hstill hsettle,
    fun _ _ hobj htemplate hput => handle_congr hobject hold hobj htemplate hput hrun hallowed⟩

/-! ### A bundle that comes while a notebook is held -/

/-- A notebook that is held, and was made before its namespace had a bundle. -/
def heldNotebook : Notebook :=
  .obj [
    ("metadata", .obj [
      ("name", "wb"),
      ("namespace", "ns"),
      ("annotations", .obj [(AnnotationKey.stopped, AnnotationKey.lockValue)])]),
    ("spec", .obj [("template", .obj [("spec", firstTemplate)])])]

/-- The notebook once it is let go. -/
def releasedNotebook : Notebook := heldNotebook.merge Reconcile.releasePatch

/-- An update that makes `old` the notebook that is let go. -/
def releaseUpdate (old : Notebook) : Doc :=
  .obj [("operation", "UPDATE"), ("object", releasedNotebook), ("oldObject", old)]

/-- A cluster whose namespace has got a bundle. -/
def bundledCluster : Memory where
  objects := [
    (TrustBundle.configMapAt "ns" TrustBundle.platformConfigMap, .empty),
    (TrustBundle.configMapAt "ns" bundleConfigMap, .empty)]

theorem run_releaseUpdate :
    ((handle {} (releaseUpdate heldNotebook)).run Memory.host bundledCluster).1.map
      (fun answer => (answer.response.allowed, (admitted? answer).map fun mutated =>
        (mutated.hasAnnotation AnnotationKey.updatePending, mutated.podSpecOf))) =
      .ok (true, some (.ok true, .ok firstTemplate)) := by
  decide +kernel

/-- Letting the notebook go is answered like an update of the notebook that runs. -/
theorem handle_releaseUpdate_settles :
    ∃ answer s mutated edited,
      (handle {} (releaseUpdate heldNotebook)).run Memory.host bundledCluster = (.ok answer, s) ∧
      answer.verdict = .admitted mutated ∧
      Settled heldNotebook releasedNotebook edited mutated ∧
      (handle {} (releaseUpdate releasedNotebook)).run Memory.host bundledCluster =
        (.ok answer, s) := by
  obtain ⟨answer, s, hrun, hletsIn⟩ := Action.exists_run_eq_ok run_releaseUpdate
  have hobject : (releaseUpdate heldNotebook).read "object" = .ok releasedNotebook := rfl
  have hold : (releaseUpdate heldNotebook).read "oldObject" = .ok heldNotebook := rfl
  have hallowed : answer.response.allowed = true := congrArg Prod.fst hletsIn
  obtain ⟨mutated, _, _, edited, hanswer, -, -, -, -, -, hsettled, hagain⟩ :=
    handle_update_settles rfl hobject hold hrun hallowed
  exact ⟨answer, s, mutated, edited, hrun, hanswer, hsettled,
    hagain releasedNotebook _ rfl (by decide) rfl⟩

/-- **The notebook was held until it had a bundle, and starts without one**, although the edits would
have put it in. -/
theorem handle_releaseUpdate_waits :
    heldNotebook.hasAnnotation AnnotationKey.stopped = .ok true ∧
    ((handle {} (releaseUpdate heldNotebook)).run Memory.host bundledCluster).1.map
      (fun answer => (answer.response.allowed, (admitted? answer).map fun mutated =>
        (mutated.hasAnnotation AnnotationKey.updatePending, mutated.podSpecOf))) =
      .ok (true, some (.ok true, .ok firstTemplate)) ∧
    ((edit {} RestartGuard.updateOperation releasedNotebook).run Memory.host bundledCluster).1.map
      (·.map fun edited => edited.templateSpec >>= (·.read "volumes")) =
      .ok (some (.ok (.arr [TrustBundle.volume]))) :=
  ⟨by decide, run_releaseUpdate, by decide +kernel⟩

end Admission

end Workbench
