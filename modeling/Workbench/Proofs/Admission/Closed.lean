import Workbench.Proofs.Admission.Answered
import Workbench.Proofs.Cluster.Journal

/-!
# Admission fails closed

A notebook is let in when nothing speaks against it: the calls that were made succeeded, or found that
an object is not there, the edits of the pod template were made, and it does not ask for sign-in and
for the mesh at once.

* `Admission.IsWellFormed`: a request about a notebook with a name;
* `Admission.ReportsError`, `Admission.editContainers_givesUp`: the errors of the cluster, and that the
  edits end in any of them;
* `Admission.editPod`, `Admission.EditFails`: the edits that call the cluster, and that they fail;
* `Admission.Outcome`: what becomes of a request after these edits (`Admission.run_judged`);
* `Admission.patch_of_not_allowed`: an answer that lets nothing in carries no patch;
* **`Admission.handle_fails_closed`**: the answer to a well-formed request.
-/

namespace Workbench.Admission

open Doc Notebook Workbench.Action

variable {settings : Settings} {request operation old ns : Doc} {object nb filled : Notebook}
  {σ : Type} {h : Host σ} {s t : σ}

/-! ## Requests -/

/-- The request is about a notebook with a name. If the notebook is changed, the request says what it
was before. -/
structure IsWellFormed (request operation : Doc) (object : Notebook) : Prop where
  hasOperation : request.read "operation" = .ok operation
  hasObject : request.read "object" = .ok object
  isNamed : isNamed object = .ok true
  hasOld : operation = RestartGuard.updateOperation →
    ∃ old, request.read "oldObject" = .ok old ∧ old.isObj = true

/-- The notebook asks for sign-in and for the mesh. -/
def AsksForBoth (object : Notebook) : Prop :=
  object.oauthEnabled = .ok true ∧ object.meshEnabled = .ok true

theorem run_judge_of_verdict {v : Verdict} (hrequest : IsWellFormed request operation object)
    (hrun : (verdict settings request object).run h s = (.ok v, t)) :
    ∃ old ns filled, request.read "namespace" = .ok ns ∧ fillNamespace ns object = .ok filled ∧
      (rescue (judge settings operation old object filled) failed).run h s = (.ok v, t) := by
  unfold verdict at hrun
  rw [hrequest.hasOperation, liftM_ok_seq, hrequest.isNamed, liftM_ok_seq, Bool.not_true,
    if_neg (by decide)] at hrun
  obtain ⟨old, _, hlift, hrun⟩ := run_seq_eq_ok_iff.mp hrun
  obtain ⟨hold, rfl⟩ := run_liftM_fault_eq_ok_iff.mp hlift
  have hguard : ¬(operation = RestartGuard.updateOperation && !old.isObj) = true := by
    intro hguard
    obtain ⟨hupdate, hobj⟩ := (Bool.and_eq_true _ _).mp hguard
    obtain ⟨old', hold', hobj'⟩ := hrequest.hasOld (of_decide_eq_true hupdate)
    cases hold.symm.trans hold'
    rw [hobj'] at hobj
    cases hobj
  rw [if_neg hguard] at hrun
  simp only [run_seq_eq_ok_iff, run_liftM_fault_eq_ok_iff] at hrun
  obtain ⟨ns, _, ⟨hns, rfl⟩, filled, _, ⟨hfilled, rfl⟩, hrun⟩ := hrun
  exact ⟨old, ns, filled, hns, hfilled, hrun⟩

/-! ## Errors of the cluster -/

/-- The call ended in an error that the cluster reported, other than that the object to be got is not
there. -/
def ReportsError : Option Call → Trouble → Prop
  | some (.get _), t => t.isNotFound = false ∧ ∃ f, t = .failure f ∧ f.ofCluster = true
  | some _, t => ∃ f, t = .failure f ∧ f.ofCluster = true
  | none, _ => False

theorem isFailure_of_reportsError {e : Entry σ} {t : Trouble} (ht : e.EndsIn ReportsError t) :
    ∃ f, t = .failure f := by
  cases e with
  | paused => exact ht.2.elim
  | served c before answer after =>
    cases c with
    | get a =>
      obtain ⟨-, -, f, hf, -⟩ := ht
      exact ⟨f, hf⟩
    | _ =>
      obtain ⟨-, f, hf, -⟩ := ht
      exact ⟨f, hf⟩

section GivesUp

theorem exists?_givesUp (a : Address) : GivesUpOn ReportsError (Action.exists? a) :=
  .exists? fun _ ht => ht.1

theorem lookUp_givesUp (operatorNamespace : String) (selection : Doc) :
    GivesUpOn ReportsError (Image.lookUp operatorNamespace selection) := by
  unfold Image.lookUp
  exact (GivesUpOn.liftM_fault _).seq fun _ => (GivesUpOn.liftM_trouble _).seq fun _ =>
    (GivesUpOn.perform _).seq fun _ => (GivesUpOn.liftM_fault _).seq fun _ => .liftM_fault _

theorem resolve_givesUp (operatorNamespace : String) (nb : Notebook) :
    GivesUpOn ReportsError (Image.resolve operatorNamespace nb) := by
  unfold Image.resolve
  refine (GivesUpOn.liftM_fault _).seq fun selection => ?_
  split
  · exact .pure nb
  refine (GivesUpOn.liftM_fault _).seq fun primary? => (GivesUpOn.liftM_fault _).seq fun nb => ?_
  cases primary? with
  | none => exact .pure nb
  | some i =>
    refine (GivesUpOn.liftM_fault _).seq fun c => (GivesUpOn.liftM_fault _).seq fun image =>
      (GivesUpOn.liftM_fault _).seq fun isFinal => ?_
    split
    · exact .pure nb
    refine (lookUp_givesUp _ _).seq fun reference? => ?_
    cases reference? with
    | none => exact .pure nb
    | some reference => exact .liftM_fault _

theorem mountBundle_givesUp (nb : Notebook) : GivesUpOn ReportsError (mountBundle nb) := by
  unfold mountBundle
  refine (GivesUpOn.liftM_fault _).seq fun ns => (exists?_givesUp _).seq fun isProvided => ?_
  split
  · exact .pure nb
  refine (exists?_givesUp _).seq fun isMerged => ?_
  split
  · exact .pure nb
  · exact .liftM_trouble _

/-- No edit takes over from an error of the cluster. -/
theorem editContainers_givesUp (settings : Settings) (nb : Notebook) :
    GivesUpOn ReportsError (editContainers settings nb) :=
  (resolve_givesUp settings.ns nb).seq mountBundle_givesUp

end GivesUp

/-! ## Edits -/

/-- The notebook with its image and its bundle, if it is made or changed. -/
def editPod (settings : Settings) (operation : Doc) (nb : Notebook) : Action Notebook :=
  if writes operation then editContainers settings nb else pure nb

theorem edit_eq_editPod : edit settings operation nb = (do
    let start ← prepare operation nb
    let edited ← editPod settings operation start
    addSidecar settings edited) := by
  unfold edit prepare editPod
  by_cases hwrites : writes operation = true
  · simp only [if_pos hwrites]
    split <;> rfl
  · simp only [if_neg hwrites]
    split <;> rfl

theorem editPod_givesUp : GivesUpOn ReportsError (editPod settings operation nb) := by
  unfold editPod
  split
  · exact editContainers_givesUp settings nb
  · exact .pure nb

theorem editPod_yields (hnb : nb.isObj) :
    (editPod settings operation nb).Yields (SameBut "spec" nb) := by
  unfold editPod
  split
  · exact (Image.resolve_yields hnb _).seq fun nb₁ h₁ =>
      (mountBundle_yields h₁.isObj).mono fun _ h₂ => h₁.trans h₂
  · exact .pure (.refl hnb)

/-- The edits that call the cluster end in a failure. -/
def EditFails (settings : Settings) (request operation : Doc) (object : Notebook) (h : Host σ)
    (s : σ) : Prop :=
  ∃ ns filled start f, request.read "namespace" = .ok ns ∧ fillNamespace ns object = .ok filled ∧
    prepare operation filled = .ok start ∧
    ((editPod settings operation start).run h s).1 = .error (.failure f)

/-- What becomes of a request when the edits that call the cluster have ended. -/
inductive Outcome (settings : Settings) : Except Trouble Notebook → Verdict → Prop
  | failed (f : Failure) : Outcome settings (.error (.failure f)) (.errored 500 f.text)
  | denied {nb : Notebook} (hboth : addSidecar settings nb = .ok none) :
    Outcome settings (.ok nb) (.denied bothWaysIn)
  | admitted {nb edited mutated : Notebook} (hadd : addSidecar settings nb = .ok (some edited)) :
    Outcome settings (.ok nb) (.admitted mutated)

/-- **What becomes of a request.** No call is made after these edits. -/
theorem run_judged {v : Verdict}
    (hrun : (rescue (judge settings operation old object filled) failed).run h s = (.ok v, t)) :
    ∃ start x, prepare operation filled = .ok start ∧
      (editPod settings operation start).run h s = (x, t) ∧ Outcome settings x v := by
  rw [judge, edit_eq_editPod] at hrun
  cases hprepare : prepare operation filled with
  | error f =>
    rw [hprepare] at hrun
    cases hrun
  | ok start =>
    rw [hprepare, liftM_ok_seq, run_rescue, LawfulMonad.bind_assoc, run_seq] at hrun
    rcases hpod : (editPod settings operation start).run h s with ⟨e | nb₁, u⟩
    · rw [hpod] at hrun
      cases e with
      | failure f =>
        cases hrun
        exact ⟨start, _, rfl, hpod, .failed f⟩
      | fault f => cases hrun
      | unsupportedVersion f => cases hrun
    · rw [hpod] at hrun
      dsimp only at hrun
      cases hadd : addSidecar settings nb₁ with
      | error f =>
        rw [hadd] at hrun
        cases hrun
      | ok edited? =>
        rw [hadd, liftM_ok_seq] at hrun
        cases edited? with
        | none =>
          cases hrun
          exact ⟨start, _, rfl, hpod, .denied hadd⟩
        | some edited =>
          dsimp only at hrun
          cases hsettle : settle operation old object edited with
          | error f =>
            rw [hsettle] at hrun
            cases hrun
          | ok mutated =>
            rw [hsettle] at hrun
            cases hrun
            exact ⟨start, _, rfl, hpod, .admitted hadd⟩

/-! ## Sign-in and the mesh -/

theorem addSidecar_eq_none_iff : addSidecar settings nb = .ok none ↔ AsksForBoth nb := by
  unfold addSidecar AsksForBoth
  constructor
  · intro hadd
    obtain ⟨isOAuth, hoauth, hadd⟩ := bind_eq_ok_iff.mp hadd
    cases isOAuth with
    | false => cases hadd
    | true =>
      obtain ⟨isMesh, hmesh, hadd⟩ := bind_eq_ok_iff.mp hadd
      cases isMesh with
      | true => exact ⟨hoauth, hmesh⟩
      | false =>
        obtain ⟨nb₁, -, hadd⟩ := bind_eq_ok_iff.mp hadd
        cases hadd
  · rintro ⟨hoauth, hmesh⟩
    rw [hoauth, hmesh]
    rfl

theorem asksForBoth_congr {nb' : Notebook} (hoauth : nb'.annotationValue AnnotationKey.injectOAuth =
    nb.annotationValue AnnotationKey.injectOAuth) (hmesh :
      nb'.annotationValue AnnotationKey.serviceMesh = nb.annotationValue AnnotationKey.serviceMesh) :
    AsksForBoth nb' ↔ AsksForBoth nb := by
  rw [AsksForBoth, oauthEnabled, meshEnabled, hoauth, hmesh, ← oauthEnabled, ← meshEnabled,
    AsksForBoth]

theorem asksForBoth_edited {start edited : Notebook} (hfilled : fillNamespace ns object = .ok filled)
    (hprepare : prepare operation filled = .ok start)
    (hedit : (editPod settings operation start).run h s = (.ok edited, t)) :
    AsksForBoth edited ↔ AsksForBoth object := by
  have hobj := (sameBut_prepare (sameBut_fillNamespace hfilled).isObj hprepare).isObj
  have hspec : SameBut "spec" start edited := (editPod_yields hobj).of_run hedit
  have hvalue : ∀ key, key ≠ AnnotationKey.stopped →
      edited.annotationValue key = object.annotationValue key := fun key hkey => by
    rw [annotationValue_of_sameBut hspec key, annotationValue_prepare hprepare hkey, annotationValue,
      annotations_fillNamespace hfilled, annotationValue]
  exact asksForBoth_congr (hvalue _ (by decide)) (hvalue _ (by decide))

/-! ## Answers -/

/-- **An answer that lets nothing in carries no patch.** -/
theorem patch_of_not_allowed (answer : Answer) (hallowed : answer.response.allowed = false) :
    answer.response.patch = [] ∧ answer.response.toDoc.read "patch" = .ok .null ∧
      answer.response.toDoc.read "patchType" = .ok .null := by
  obtain ⟨uid, submitted, mutated | message | ⟨code, message⟩⟩ := answer
  · cases hallowed
  · exact ⟨rfl, rfl, rfl⟩
  · exact ⟨rfl, rfl, rfl⟩

/-- What the answer to a well-formed request says. -/
structure FailsClosed (settings : Settings) (request operation : Doc) (object : Notebook) (h : Host σ)
    (s : σ) (entries : List (Entry σ)) (response : Response) : Prop where
  /-- An error of the cluster, and a failure of the edits, are errors of the operator. -/
  errored : (∃ e ∈ entries, ∃ t, e.EndsIn ReportsError t) ∨
      EditFails settings request operation object h s →
    response.allowed = false ∧ response.code = 500
  /-- Otherwise the notebook is not let in if it asks for sign-in and for the mesh. -/
  denied : (∀ e ∈ entries, ∀ t, ¬e.EndsIn ReportsError t) →
    ¬EditFails settings request operation object h s →
      ((response.allowed = false ∧ response.code = 403) ↔ AsksForBoth object)
  /-- Otherwise it is let in. -/
  allowed : (∀ e ∈ entries, ∀ t, ¬e.EndsIn ReportsError t) →
    ¬EditFails settings request operation object h s → ¬AsksForBoth object → response.allowed = true
  /-- What is not let in is not changed. -/
  patch : response.allowed = false → response.patch = [] ∧
    response.toDoc.read "patch" = .ok .null ∧ response.toDoc.read "patchType" = .ok .null
  /-- A notebook that asks for both is never let in. -/
  exclusive : AsksForBoth object → response.allowed = false

theorem editFails_iff {start : Notebook} (hns : request.read "namespace" = .ok ns)
    (hfilled : fillNamespace ns object = .ok filled) (hprepare : prepare operation filled = .ok start) :
    EditFails settings request operation object h s ↔
      ∃ f, ((editPod settings operation start).run h s).1 = .error (.failure f) := by
  constructor
  · rintro ⟨ns', filled', start', f, hns', hfilled', hprepare', hfails⟩
    cases hns.symm.trans hns'
    cases hfilled.symm.trans hfilled'
    cases hprepare.symm.trans hprepare'
    exact ⟨f, hfails⟩
  · rintro ⟨f, hfails⟩
    exact ⟨ns, filled, start, f, hns, hfilled, hprepare, hfails⟩

/-- **Admission fails closed**, whatever the cluster answers. -/
theorem handle_fails_closed {answer : Answer} {j : Journal σ}
    (hrequest : IsWellFormed request operation object)
    (hrun : (handle settings request).run h.journaled ⟨s, []⟩ = (.ok answer, j)) :
    FailsClosed settings request operation object h s j.entries answer.response := by
  obtain ⟨old, ns, filled, hns, hfilled, hjudge⟩ :=
    run_judge_of_verdict hrequest (run_verdict hrequest.hasObject hrun)
  obtain ⟨start, x, hprepare, hpod, houtcome⟩ := run_judged hjudge
  obtain ⟨es, hentries, hgives⟩ := editPod_givesUp.run hpod
  have hfails : EditFails settings request operation object h s ↔ ∃ f, x = .error (.failure f) := by
    rw [editFails_iff hns hfilled hprepare, run_journaled _ ⟨s, []⟩, hpod]
  -- An error of the cluster is how the edits have ended.
  have hreported : (∃ e ∈ j.entries, ∃ t, e.EndsIn ReportsError t) → ∃ f, x = .error (.failure f) := by
    rw [hentries, List.nil_append]
    rintro ⟨e, he, t, ht⟩
    obtain ⟨f, rfl⟩ := isFailure_of_reportsError ht
    exact ⟨f, hgives e he _ ht⟩
  have hpatch := patch_of_not_allowed answer
  obtain ⟨uid, submitted, v⟩ := answer
  cases houtcome with
  | failed f =>
    have hx : EditFails settings request operation object h s := hfails.mpr ⟨f, rfl⟩
    exact ⟨fun _ => ⟨rfl, rfl⟩, fun _ hnot => absurd hx hnot, fun _ hnot => absurd hx hnot, hpatch,
      fun _ => rfl⟩
  | denied hnone =>
    have hboth := (asksForBoth_edited hfilled hprepare hpod).mp (addSidecar_eq_none_iff.mp hnone)
    refine ⟨fun hbad => ?_, fun _ _ => ⟨fun _ => hboth, fun _ => ⟨rfl, rfl⟩⟩,
      fun _ _ hnot => absurd hboth hnot, hpatch, fun _ => rfl⟩
    obtain ⟨f, hx⟩ := hbad.elim hreported hfails.mp
    cases hx
  | admitted hadd =>
    have hnot : ¬AsksForBoth object := fun hboth => by
      have hnone : addSidecar settings _ = .ok none :=
        addSidecar_eq_none_iff.mpr ((asksForBoth_edited hfilled hprepare hpod).mpr hboth)
      cases hnone.symm.trans hadd
    refine ⟨fun hbad => ?_, fun _ _ => ⟨fun hdenied => ?_, fun hboth => absurd hboth hnot⟩,
      fun _ _ _ => rfl, hpatch, fun hboth => absurd hboth hnot⟩
    · obtain ⟨f, hx⟩ := hbad.elim hreported hfails.mp
      cases hx
    · cases hdenied.1

/-- The server was down when an object was to be got. -/
def isOutage : Entry Memory → Bool
  | .served (.get _) _ (.error t) _ => t = .failure (.unexpected "the server is down" 503)
  | _ => false

theorem endsIn_of_isOutage {e : Entry Memory} (he : isOutage e = true) :
    ∃ t, e.EndsIn ReportsError t := by
  unfold isOutage at he
  split at he
  · next a before t after =>
    obtain rfl := of_decide_eq_true he
    exact ⟨_, rfl, rfl, _, rfl, rfl⟩
  · cases he

/-- The update is not let in, since the cluster does not say whether there is a bundle. -/
theorem handle_pickedUpdate_fails_closed : ∃ answer j,
    (handle {} pickedUpdate).run failingHost.journaled ⟨imageCluster, []⟩ = (.ok answer, j) ∧
    (∃ e ∈ j.entries, ∃ t, e.EndsIn ReportsError t) ∧
    answer.response.allowed = false ∧ answer.response.code = 500 ∧ answer.response.patch = [] := by
  have hrequest : IsWellFormed pickedUpdate RestartGuard.updateOperation pickedNotebook :=
    ⟨rfl, rfl, by decide, fun _ => ⟨pickedNotebook, rfl, rfl⟩⟩
  have hreturns : ((handle {} pickedUpdate).run failingHost.journaled ⟨imageCluster, []⟩).1.isOk =
      true := by decide +kernel
  have houtage : ((handle {} pickedUpdate).run failingHost.journaled
      ⟨imageCluster, []⟩).2.entries.any isOutage = true := by decide +kernel
  rcases hrun : (handle {} pickedUpdate).run failingHost.journaled ⟨imageCluster, []⟩ with
    ⟨t | answer, j⟩
  · rw [hrun] at hreturns
    cases hreturns
  rw [hrun] at houtage
  obtain ⟨e, he, hdown⟩ := List.any_eq_true.mp houtage
  have hreported : ∃ e ∈ j.entries, ∃ t, e.EndsIn ReportsError t := ⟨e, he, endsIn_of_isOutage hdown⟩
  have hclosed := handle_fails_closed hrequest hrun
  obtain ⟨hallowed, hcode⟩ := hclosed.errored (.inl hreported)
  exact ⟨answer, j, rfl, hreported, hallowed, hcode, (hclosed.patch hallowed).1⟩

end Workbench.Admission
