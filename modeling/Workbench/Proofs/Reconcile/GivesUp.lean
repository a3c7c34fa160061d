import Workbench.Proofs.Cluster.Interrupted
import Workbench.Proofs.Reconcile.Steps

/-!
# Steps that give up

The steps of a reconcile expect some trouble: an object that is not there, a write that meets
another one. They do not expect to be cut off or cancelled, and end then.

* `GivesUpOn.converge`, `GivesUpOn.publish` and the like: no step but the last expects to be cut off;
* `GivesUpOn.awaitPullSecret`: the wait for the pull secret takes no notice of failures, but for the
  end of the run;
* **`GivesUpOn.reconcile`**: a reconcile gives up when it is cancelled, wherever it is.
-/

namespace Workbench

open Doc Workbench.Action Reconcile

namespace Action.GivesUpOn

variable {α : Type} {fatal : Option Call → Trouble → Prop}

theorem get (a : Address) : GivesUpOn fatal (get a) := perform _

theorem update (d : Doc) : GivesUpOn fatal (update d) := (perform _).discard

theorem patch (a : Address) (p : Doc) : GivesUpOn fatal (patch a p) := (perform _).discard

theorem delete (a : Address) : GivesUpOn fatal (delete a) := (perform _).discard

theorem refresh (a : Address) (data : Doc) : GivesUpOn fatal (TrustBundle.refresh a data) := by
  refine (get a).seq fun found => (liftM_fault _).seq fun old => ?_
  split
  · exact pure ()
  · exact (liftM_fault _).seq fun d => update d

/-! ## Steps that do not expect to be cut off -/

section Interrupts

variable (hfatal : ∀ c t, fatal c t → t.interrupts = true)

include hfatal

theorem find?_of_interrupts (a : Address) : GivesUpOn fatal (Action.find? a) :=
  find? fun t ht => Trouble.isNotFound_of_interrupts (hfatal _ t ht)

theorem exists?_of_interrupts (a : Address) : GivesUpOn fatal (Action.exists? a) :=
  exists? fun t ht => Trouble.isNotFound_of_interrupts (hfatal _ t ht)

theorem createUnlessThere_of_interrupts (d : Doc) :
    GivesUpOn fatal (Action.createUnlessThere d) :=
  createUnlessThere fun c t ht => Trouble.isConflict_of_interrupts (hfatal c t ht)

theorem retryingOnConflict {a : Action α} (ha : GivesUpOn fatal a) :
    GivesUpOn fatal (retryingOnConflict a) :=
  retrying (fun c t ht => Trouble.isConflict_of_interrupts (hfatal c t ht)) ha _

theorem converge (aspect : Aspect) (desired : Doc) : GivesUpOn fatal (converge aspect desired) := by
  refine (liftM_fault _).seq fun address => (find?_of_interrupts hfatal address).seq fun found => ?_
  cases found with
  | none => exact createUnlessThere_of_interrupts hfatal desired
  | some found =>
    refine (liftM_fault _).seq fun isSame => ?_
    have hrestore : GivesUpOn fatal (restore aspect address desired) :=
      (get address).seq fun _ => (liftM_fault _).seq fun d => update d
    split
    · exact pure false
    · exact (retryingOnConflict hfatal hrestore).seq fun _ => pure true

theorem makeIfMissing (desired : Doc) : GivesUpOn fatal (makeIfMissing desired) := by
  refine (liftM_fault _).seq fun a => (exists?_of_interrupts hfatal a).seq fun isThere => ?_
  split
  · exact pure false
  · exact createUnlessThere_of_interrupts hfatal desired

theorem createMissing (ds : List Doc) : GivesUpOn fatal (createMissing ds) := by
  induction ds with
  | nil => exact pure ()
  | cons d ds ih => exact (makeIfMissing hfatal d).discard.seq fun _ => ih

theorem collectFrom (ns : Doc) : ∀ sources : List TrustBundle.Source,
    GivesUpOn fatal (TrustBundle.collectFrom ns sources)
  | [] => pure _
  | source :: rest => by
    refine (find?_of_interrupts hfatal _).seq fun found => ?_
    cases found with
    | none =>
      dsimp only
      split
      · exact pure none
      · exact collectFrom ns rest
    | some configMap =>
      refine (liftM_trouble _).seq fun certificates => ?_
      cases certificates with
      | none => exact pure none
      | some found => exact (collectFrom ns rest).seq fun _ => pure _

theorem publish (nb : Notebook) : GivesUpOn fatal (TrustBundle.publish nb) := by
  refine (liftM_fault _).seq fun ns => (collectFrom hfatal ns _).seq fun collected => ?_
  rcases collected with _ | _ | ⟨c, cs⟩
  · exact pure ()
  · exact pure ()
  · refine (find?_of_interrupts hfatal _).seq fun found => ?_
    cases found with
    | none => exact (createUnlessThere_of_interrupts hfatal _).discard
    | some _ => exact retryingOnConflict hfatal (refresh _ _)

theorem withdrawBundle (nb : Notebook) : GivesUpOn fatal (withdrawBundle nb) := by
  have hgone : GivesUpOn fatal (bundleIsGone nb) := by
    refine (liftM_fault _).seq fun ns => (exists?_of_interrupts hfatal _).seq fun isThere => ?_
    split
    · exact pure false
    · refine (liftM_fault _).seq fun isUsed => ?_
      split
      · exact pure false
      · exact (liftM_fault _).discard.seq fun _ => pure true
  refine hgone.seq fun isGone => ?_
  split
  · refine (liftM_fault _).seq fun address => (liftM_trouble _).seq fun ⟨changed, without⟩ => ?_
    dsimp only
    split
    · exact pure ()
    · exact (liftM_fault _).seq fun _ => (liftM_fault _).seq fun _ => patch _ _
  · exact pure ()

theorem policies (nb : Notebook) (operatorNamespace : String) :
    GivesUpOn fatal (policies nb operatorNamespace) := by
  refine (liftM_fault _).discard.seq fun _ => (liftM_fault _).seq fun owner =>
    (converge hfatal _ _).discard.seq fun _ => (liftM_fault _).seq fun isMesh => ?_
  split
  · exact (converge hfatal _ _).discard
  · exact pure ()

theorem grantPipelines (r : Reconciler) (nb : Notebook) :
    GivesUpOn fatal (grantPipelines r nb) := by
  have hstale : ∀ a, GivesUpOn fatal (removeStaleBinding a) := by
    refine fun a => (find?_of_interrupts hfatal a).seq fun found => ?_
    cases found with
    | none => exact pure ()
    | some found =>
      refine (liftM_fault _).seq fun role => ?_
      split
      · exact pure ()
      · exact delete a
  unfold Reconcile.grantPipelines
  split
  · refine (liftM_fault _).seq fun ns => (exists?_of_interrupts hfatal _).seq fun isThere => ?_
    split
    · exact pure ()
    · exact (liftM_fault _).seq fun owner => (liftM_fault _).seq fun a => (hstale a).seq fun _ =>
        (converge hfatal _ _).discard
  · exact pure ()

theorem openWayIn (r : Reconciler) (nb : Notebook) : GivesUpOn fatal (r.openWayIn nb) := by
  refine (liftM_fault _).seq fun isMesh => ?_
  split
  · exact pure ()
  · refine (liftM_fault _).seq fun isOAuth => ?_
    split
    · exact (liftM_fault _).seq fun owner => createMissing hfatal _
    · exact (liftM_fault _).seq fun owner => (converge hfatal _ _).discard

end Interrupts

/-! ## The wait for the pull secret -/

theorem checkPullSecret (a : Address) : GivesUpOn fatal (checkPullSecret a) := by
  refine (get _).seq fun account => (liftM_fault _).seq fun _ => ?_
  split
  · exact pure ()
  · exact throw _

/-- The wait goes on, or is given up, after every failure that may pass. -/
theorem awaitPullSecret (hfatal : ∀ c t, fatal c t → isPassing t = false) (a : Address) :
    GivesUpOn fatal (awaitPullSecret a) :=
  ((checkPullSecret a).retrying hfatal _).except hfatal (pure ())

theorem endHold (hfatal : ∀ c t, fatal c t → isPassing t = false) (nb : Notebook) :
    GivesUpOn fatal (endHold nb) := by
  refine (liftM_fault _).seq fun isLocked => ?_
  split
  · exact (liftM_fault _).seq fun _ => (awaitPullSecret hfatal _).seq fun _ => patch _ _
  · exact pure ()

/-! ## All steps -/

theorem steps (hcut : ∀ c t, fatal c t → t.interrupts = true)
    (hfatal : ∀ c t, fatal c t → isPassing t = false) (r : Reconciler) (nb : Notebook) :
    GivesUpOn fatal (r.steps nb) := by
  rw [steps_eq]
  exact (publish hcut nb).seq fun _ => (withdrawBundle hcut nb).seq fun _ =>
    (policies hcut nb _).seq fun _ => (grantPipelines hcut r nb).seq fun _ =>
      (openWayIn hcut r nb).seq fun _ => endHold hfatal nb

/-- **A reconcile gives up when it is cancelled**: it is an interruption, and does not pass. -/
theorem reconcile (r : Reconciler) (ns name : Doc) :
    GivesUpOn (fun _ t => t.isCancelled = true) (r.reconcile ns name) := by
  have hcut : ∀ (_ : Option Call) (t : Trouble), t.isCancelled = true → t.interrupts = true := by
    rintro - (f | f | f) ht
    · cases f <;> first | rfl | cases ht
    · cases ht
    · cases ht
  have hpassing : ∀ (_ : Option Call) (t : Trouble), t.isCancelled = true → isPassing t = false :=
    fun _ t ht => by simp [isPassing, ht]
  refine (find?_of_interrupts hcut _).seq fun found => ?_
  cases found with
  | none => exact pure ()
  | some nb => exact steps hcut hpassing r nb

end Action.GivesUpOn

end Workbench
