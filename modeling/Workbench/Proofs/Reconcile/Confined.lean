import Workbench.Proofs.Cluster.Elsewhere
import Workbench.Proofs.FanOut
import Workbench.Proofs.Reconcile.Resumes

/-!
# The calls of a reconcile

A reconcile makes, writes over and removes objects at a few addresses, and patches its notebook in two
ways. It asks for nothing else, whatever its calls end in.

* `Reconcile.Furnishes`: calls that read, or write the bundle and what hangs off a notebook;
* `Confined.converge`, `Confined.publish` and the like: the steps that make no other calls;
* `Confined.spares_notebook`: such a step spares the notebook itself;
* `Reconcile.MayAsk`, **`Confined.steps`**: all calls of a run once the notebook has been read.
-/

namespace Workbench

open Doc Memory Workbench.Action

namespace Reconcile

variable {ns name : String}

/-- Where a run for a notebook writes, besides the notebook itself. -/
def furnished (ns name : String) : List Address := ObjectAt.bundle ns :: ObjectAt.hanging ns name

theorem furnished_plain : ∀ a ∈ furnished ns name, a.IsPlain := by
  simp only [furnished, ObjectAt.hanging, List.cons_append, List.nil_append, List.forall_mem_cons]
  exact ⟨⟨_, _, _, rfl⟩, ⟨_, _, _, rfl⟩, ⟨_, _, _, rfl⟩, ⟨_, _, _, rfl⟩,
    ObjectAt.signIn_plain ns name⟩

theorem notebook_not_mem_furnished : ObjectAt.notebook ns name ∉ furnished ns name := by
  rw [furnished, List.mem_cons, not_or]
  exact ⟨fun h => absurd (congrArg Address.kind h) (by simp), ObjectAt.notebook_not_mem_hanging⟩

/-- An object is wanted at an address that hangs off a notebook, and belongs to the notebook. -/
structure Wanted (ns name : String) (a : Address) (d : Doc) : Prop where
  hangs : a ∈ ObjectAt.hanging ns name
  belongs : addressOf d = .ok a
  owned : FanOut.forOwned d = .ok [⟨ns, name⟩]

/-- A call that looks for an object, or writes the bundle or what hangs off a notebook. What it makes
for the notebook names it as its owner, and only a role binding is ever removed. -/
inductive Furnishes (ns name : String) : Call → Prop where
  | get (a : Address) : Furnishes ns name (.get a)
  | publish {d : Doc} (hd : addressOf d = .ok (ObjectAt.bundle ns)) : Furnishes ns name (.create d)
  | make {a : Address} {d : Doc} (h : Wanted ns name a d) : Furnishes ns name (.create d)
  | update {a : Address} {d : Doc} (ha : a ∈ furnished ns name) (hd : addressOf d = .ok a) :
      Furnishes ns name (.update d)
  | remove : Furnishes ns name (.delete (ObjectAt.roleBinding ns name))

theorem Furnishes.keepsTo {c : Call} (h : Furnishes ns name c) :
    c.KeepsTo (furnished ns name) := by
  cases h with
  | get a => exact .get a
  | publish hd => exact .create List.mem_cons_self hd
  | make h => exact .create (List.mem_cons_of_mem _ h.hangs) h.belongs
  | update ha hd => exact .update ha hd
  | remove => exact .delete (by simp [furnished, ObjectAt.hanging])

end Reconcile

open Reconcile

namespace Action.Confined

variable {ns name : String} {a : Address} {d : Doc}

/-- A step that only furnishes spares the notebook. -/
theorem spares_notebook {α : Type} {p : Action α} (hp : Confined (Furnishes ns name) p) :
    Spares (ObjectAt.notebook ns name) p :=
  (hp.mono fun _ => Furnishes.keepsTo).spares furnished_plain notebook_not_mem_furnished

/-! ## Objects that are brought into their wanted state -/

theorem converge {aspect : Aspect} (hsettles : aspect.Settles a d) (h : Wanted ns name a d) :
    Confined (Furnishes ns name) (converge aspect d) := by
  unfold Workbench.converge
  rw [address_of_addressOf h.belongs, liftM_ok_seq]
  refine (find? (.get a)).seq fun found => ?_
  cases found with
  | none => exact createUnlessThere (.make h)
  | some found =>
    refine (liftM_fault _).seq fun isSame => ?_
    have hrestore : Confined (Furnishes ns name) (restore aspect a d) := by
      refine get_seq hsettles.plain (.get a) fun found hfound => ?_
      cases hover : aspect.overwrite found d with
      | error f => exact throw _
      | ok e =>
        have hsame := hsettles.keeps.same (hasMetadata_of_addressOf hfound) hover
        exact (perform (.update (List.mem_cons_of_mem _ h.hangs) (hsame.addressOf hfound))).discard
    split
    · exact pure false
    · exact (hrestore.retrying conflictWaits).seq fun _ => pure true

theorem makeIfMissing (h : Wanted ns name a d) : Confined (Furnishes ns name) (makeIfMissing d) := by
  unfold Workbench.makeIfMissing
  rw [address_of_addressOf h.belongs, liftM_ok_seq]
  refine (exists? (.get a)).seq fun isThere => ?_
  split
  · exact pure false
  · exact createUnlessThere (.make h)

theorem createMissing {ds : List Doc} (h : ∀ d ∈ ds, ∃ a, Wanted ns name a d) :
    Confined (Furnishes ns name) (createMissing ds) := by
  induction ds with
  | nil => exact pure ()
  | cons d ds ih =>
    obtain ⟨⟨a, ha⟩, hrest⟩ := List.forall_mem_cons.mp h
    exact (makeIfMissing ha).discard.seq fun _ => ih hrest

/-! ## The steps that furnish -/

section Steps

variable {nb : Notebook} {uid : Doc}

theorem refresh (data : Doc) :
    Confined (Furnishes ns name) (TrustBundle.refresh (ObjectAt.bundle ns) data) := by
  refine get_seq (ObjectAt.bundle_plain ns) (.get _) fun found hfound => ?_
  refine (liftM_fault _).seq fun old => ?_
  split
  · exact pure ()
  · cases hput : found.put "data" data with
    | error f => exact throw _
    | ok e =>
      have hsame := (keepsIdentity_put (k := "data") (by decide) (by decide)).same
        (hasMetadata_of_addressOf hfound) hput
      exact (perform (.update List.mem_cons_self (hsame.addressOf hfound))).discard

theorem publish (hnb : nb.IsAt ns name uid) :
    Confined (Furnishes ns name) (TrustBundle.publish nb) := by
  unfold TrustBundle.publish
  rw [hnb.ns_eq, liftM_ok_seq]
  refine (of_gets .get TrustBundle.collect_gets).seq fun collected => ?_
  rcases collected with _ | _ | ⟨c, cs⟩
  · exact pure ()
  · exact pure ()
  · refine (find? (.get _)).seq fun found => ?_
    cases found with
    | none => exact (createUnlessThere (.publish rfl)).discard
    | some _ => exact (refresh _).retrying conflictWaits

theorem policies (hnb : nb.IsAt ns name uid) (operatorNamespace : String) :
    Confined (Furnishes ns name) (policies nb operatorNamespace) := by
  have hpolicy : ∀ {objectName : String} {ingress : Doc},
      (⟨"NetworkPolicy", ns, objectName⟩ : Address) ∈ ObjectAt.hanging ns name →
        Confined (Furnishes ns name)
          (Workbench.converge .policy (Resource.policy ⟨name, ns, uid⟩ objectName ingress)) :=
    fun hhangs => converge (Aspect.policy_settles rfl _)
      ⟨hhangs, rfl, FanOut.forOwned_of_metadata rfl⟩
  rw [policies_eq hnb]
  refine (hpolicy ?_).discard.seq fun _ => (liftM_fault _).seq fun isMesh => ?_
  · simp [ObjectAt.hanging, ObjectAt.notebookPolicy]
  split
  · exact (hpolicy (by simp [ObjectAt.hanging, ObjectAt.oauthPolicy])).discard
  · exact pure ()

theorem grantPipelines (hnb : nb.IsAt ns name uid) (r : Reconciler) :
    Confined (Furnishes ns name) (grantPipelines r nb) := by
  have hwanted : Wanted ns name (ObjectAt.roleBinding ns name)
      (Resource.roleBinding ⟨name, ns, uid⟩) :=
    ⟨by simp [ObjectAt.hanging], rfl, FanOut.forOwned_of_metadata rfl⟩
  have hstale : Confined (Furnishes ns name)
      (removeStaleBinding (ObjectAt.roleBinding ns name)) := by
    refine (find? (.get _)).seq fun found => ?_
    cases found with
    | none => exact pure ()
    | some found =>
      refine (liftM_fault _).seq fun role => ?_
      split
      · exact pure ()
      · exact (perform .remove).discard
  unfold Reconcile.grantPipelines
  rw [roleBinding_eq hnb]
  split
  · refine (exists? (.get _)).seq fun isThere => ?_
    split
    · unfold bindAccount
      rw [address_of_addressOf hwanted.belongs, liftM_ok_seq]
      exact hstale.seq fun _ => (converge (Aspect.binding_settles rfl rfl) hwanted).discard
    · exact pure ()
  · exact pure ()

theorem openWayIn (hnb : nb.IsAt ns name uid) (r : Reconciler) :
    Confined (Furnishes ns name) (r.openWayIn nb) := by
  have hobjects : ∀ d ∈ oauthObjects ⟨name, ns, uid⟩ (r.cookieKey ⟨name, ns, uid⟩),
      ∃ a, Wanted ns name a d := by
    simp only [oauthObjects, List.forall_mem_cons]
    refine ⟨⟨ObjectAt.serviceAccount ns name, ?_, rfl, FanOut.forOwned_of_metadata rfl⟩,
      ⟨ObjectAt.service ns name, ?_, rfl, FanOut.forOwned_of_metadata rfl⟩,
      ⟨ObjectAt.secret ns name, ?_, rfl, FanOut.forOwned_of_metadata rfl⟩,
      ⟨ObjectAt.route ns name, ?_, rfl, FanOut.forOwned_of_metadata rfl⟩, nofun⟩ <;>
      simp [ObjectAt.hanging, ObjectAt.signIn]
  have hroute : Wanted ns name (ObjectAt.route ns name) (Resource.plainRoute ⟨name, ns, uid⟩) :=
    ⟨by simp [ObjectAt.hanging, ObjectAt.signIn], rfl, FanOut.forOwned_of_metadata rfl⟩
  unfold Reconciler.openWayIn
  rw [oauth_eq hnb, plainRoute_eq hnb]
  refine (liftM_fault _).seq fun isMesh => ?_
  split
  · exact pure ()
  · refine (liftM_fault _).seq fun isOAuth => ?_
    split
    · exact createMissing hobjects
    · exact (converge (Aspect.route_settles rfl rfl _ _ _) hroute).discard

theorem awaitPullSecret :
    Confined (Furnishes ns name) (awaitPullSecret (ObjectAt.notebook ns name)) := by
  have hcheck : Confined (Furnishes ns name) (checkPullSecret (ObjectAt.notebook ns name)) :=
    of_gets .get checkPullSecret_gets
  exact (hcheck.retrying pullSecretWaits).except (pure ())

end Steps

end Action.Confined

/-! ## All calls of a run -/

namespace Reconcile

/-- A call of a run for the notebook `nb`, once that has been read: one that furnishes, the patch that
lets a held notebook go, or the one that takes a bundle out that is gone. -/
inductive MayAsk (nb : Notebook) (ns name : String) : Call → Prop where
  | furnish {c : Call} (h : Furnishes ns name c) : MayAsk nb ns name c
  | release (hlocked : nb.isLocked = .ok true) :
      MayAsk nb ns name (.patch (ObjectAt.notebook ns name) releasePatch)
  | withdraw {ms ms' : List Member} (hnb : nb = .obj ms)
      (huses : nb.usesConfigMap bundleConfigMap = .ok true)
      (hunmount : TrustBundle.unmount nb = .ok (true, .obj ms')) :
      MayAsk nb ns name (.patch (ObjectAt.notebook ns name) (.obj (mergePatch ms ms')))

end Reconcile

namespace Action.Confined

variable {ns name : String} {nb : Notebook} {uid : Doc}

theorem withdrawBundle (hnb : nb.IsAt ns name uid) :
    Confined (MayAsk nb ns name) (withdrawBundle nb) := by
  rw [withdrawBundle_eq hnb]
  refine (exists? (.furnish (.get _))).seq fun isThere => ?_
  split
  · exact pure ()
  cases huses : nb.usesConfigMap bundleConfigMap with
  | error f => exact throw _
  | ok isUsed =>
    rw [liftM_ok_seq]
    cases isUsed with
    | false => exact pure ()
    | true =>
      rw [if_pos rfl]
      rcases dropBundle_cases hnb huses with ⟨e, hdrop⟩ | ⟨ms, ms', hms, hunmount, hdrop⟩
      · exact hdrop ▸ throw e
      · exact hdrop ▸ (perform (.withdraw hms huses hunmount)).discard

theorem endHold (hnb : nb.IsAt ns name uid) : Confined (MayAsk nb ns name) (endHold nb) := by
  unfold Reconcile.endHold
  cases hlocked : nb.isLocked with
  | error f => exact throw _
  | ok isLocked =>
    rw [liftM_ok_seq]
    cases isLocked with
    | false => exact pure ()
    | true =>
      rw [if_pos rfl, release, hnb.address, liftM_ok_seq]
      exact (awaitPullSecret.mono fun _ => .furnish).seq fun _ =>
        (perform (.release hlocked)).discard

/-- **Once the notebook has been read, a run makes no other calls.** -/
theorem steps (hnb : nb.IsAt ns name uid) (r : Reconciler) :
    Confined (MayAsk nb ns name) (r.steps nb) := by
  have hfurnish : ∀ {p : Action Unit}, Confined (Furnishes ns name) p →
      Confined (MayAsk nb ns name) p := fun hp => hp.mono fun _ => .furnish
  rw [steps_eq]
  exact (hfurnish (publish hnb)).seq fun _ => (withdrawBundle hnb).seq fun _ =>
    (hfurnish (policies hnb _)).seq fun _ => (hfurnish (grantPipelines hnb r)).seq fun _ =>
      (hfurnish (openWayIn hnb r)).seq fun _ => endHold hnb

end Action.Confined

end Workbench
