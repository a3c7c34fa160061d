import Workbench.Proofs.Reconcile.Confined
import Workbench.Proofs.Reconcile.Contended
import Workbench.Proofs.TrustBundle.Withdrawn

/-!
# What a reconcile does to a notebook that others write to

A reconcile patches its notebook by patches that name no version, so they go through whatever others
have done since the notebook was read. Each patch changes some places only. What others have written
at these places is lost.

* `Memory.Patches`, `Action.patches`: a patch that changes an object at some places only;
* `Notebook.Rewrites`: what a run may do to the notebook that it read: the hold is dropped, or the
  bundle is taken out;
* **`Reconciler.reconcile_rewrites`**: it does nothing else;
* `Reconciler.reconcile_drops_stop`, `Reconciler.reconcile_drops_volume`: a notebook that somebody
  stops meanwhile is started, and a volume that somebody adds meanwhile is lost.
-/

namespace Workbench

open Doc Memory Workbench.Action Reconcile

/-! ## What the patches do -/

namespace Doc

variable {d e : Doc} {names : List String}

theorem HasMetadata.sameOutside_unversioned (h : d.HasMetadata) :
    SameOutside [Aspect.versionPlace] d d.unversioned := by
  obtain ⟨ms, md, rfl, hmd⟩ := h
  rw [unversioned_obj hmd]
  have hmodify : (obj ms).modify "metadata" (·.remove "resourceVersion") =
      .ok (obj (setMember "metadata" (.obj (dropMember "resourceVersion" md)) ms)) :=
    modify_eq_ok_iff.mpr ⟨ms, _, _, rfl, hmd, rfl, rfl⟩
  exact sameOutside_modify (List.cons_ne_nil ([.member "resourceVersion"] : Place) []) hmodify
    fun _ _ => sameOutside_remove

theorem HasMetadata.at?_eq (hd : d.HasMetadata) (he : e.HasMetadata)
    (h : e.unversioned = d.unversioned) {p : Place} (hp : Aspect.versionPlace.Apart p) :
    e.at? p = d.at? p := by
  have hp' : ∀ q ∈ [Aspect.versionPlace], Place.Apart q p := fun q hq => by
    rwa [List.mem_singleton.mp hq]
  rw [← he.sameOutside_unversioned p hp', h, hd.sameOutside_unversioned p hp']

end Doc

/-- The object at an address was patched. It changed at some places only, apart from its version, and
`result` says how. -/
def Memory.Patches (a : Address) (places : List (List String)) (result : Doc → Doc → Prop)
    (s t : Memory) : Prop :=
  ∃ found e, s.lookup a = some found ∧ t.lookup a = some e ∧
    SameNamed (["metadata", "resourceVersion"] :: places) found e ∧ result found e

/-- A patch goes through whatever others have done, or there is nothing to patch. -/
theorem Action.patches {a : Address} {p : Doc} {places : List (List String)}
    {result : Doc → Doc → Prop} (ha : a.IsPlain)
    (hkeeps : KeepsIdentity fun d => .ok (d.merge p))
    (hsilent : ∀ names, (∀ q ∈ places, Place.Apart (Place.ofNames q) (Place.ofNames names)) →
      p.IsSilent names)
    (hresult : ∀ found e : Doc, (∀ names, Aspect.versionPlace.Apart (Place.ofNames names) →
      e.at? (Place.ofNames names) = (found.merge p).at? (Place.ofNames names)) → result found e)
    (m : Memory) : Safe (fun _ _ => True)
      (fun s t => t.lookup a = s.lookup a ∨ Patches a places result s t) (fun _ _ => True)
      (patch a p) m := by
  refine Safe.patch ha (fun _ => .inl rfl) (fun t d ht _ hd => ?_) fun _ _ _ _ => trivial
  have hbelongs := ht.addressOf_eq ha hd
  have hsame := hkeeps.same (hasMetadata_of_addressOf hbelongs) rfl
  refine ⟨hsame.addressOf hbelongs, fun u hu hwrote => ⟨.inr ?_, trivial⟩⟩
  have hview := hwrote.view
  rw [ht.asKept_of_same ha hd hsame] at hview
  obtain ⟨e, he, hmeta, hunversioned⟩ := hu.lookup_of_view ha hview
  have hplaces : ∀ names, Aspect.versionPlace.Apart (Place.ofNames names) →
      e.at? (Place.ofNames names) = (d.merge p).at? (Place.ofNames names) :=
    fun names => hsame.hasMetadata.at?_eq hmeta hunversioned
  refine ⟨d, e, hd, he, fun names hnames => ?_, hresult d e hplaces⟩
  obtain ⟨hversion, hnames⟩ := List.forall_mem_cons.mp hnames
  rw [hplaces names hversion, at?_merge_of_isSilent (hsilent names hnames)]

/-! ## The notebook -/

/-- The annotation by which a notebook is stopped or held. -/
def stopPlace : List String := ["metadata", "annotations", AnnotationKey.stopped]

/-- The annotation is gone, whatever its value was. -/
def Notebook.Released (a : Address) : Change :=
  Patches a [stopPlace] fun _ e => e.at? (Place.ofNames stopPlace) = none

open TrustBundle in
/-- The volumes of another notebook have taken the place of those that were there, and maybe its
containers as well. -/
def Notebook.Withdrawn (a : Address) (without : Notebook) : Change :=
  Patches a [volumesPlace, containersPlace] fun found e =>
    e.at? (Place.ofNames volumesPlace) = without.at? (Place.ofNames volumesPlace) ∧
      (e.at? (Place.ofNames containersPlace) = found.at? (Place.ofNames containersPlace) ∨
        e.at? (Place.ofNames containersPlace) = without.at? (Place.ofNames containersPlace))

/-- What a run may do to the notebook that it read, whatever others have done to it since: the hold is
dropped, or the lists that were read are put back without the bundle. -/
inductive Notebook.Rewrites (nb : Notebook) (a : Address) (s t : Memory) : Prop where
  | released (hlocked : nb.isLocked = .ok true) (h : Released a s t)
  | withdrawn (without : Notebook) (hwithout : TrustBundle.unmount nb = .ok (true, without))
      (h : Withdrawn a without s t)

/-- A run leaves the notebook as it is, or does what it may do. -/
def Notebook.Spared (nb : Notebook) (a : Address) : Change :=
  fun s t => t.lookup a = s.lookup a ∨ nb.Rewrites a s t

theorem Action.Spares.spared {α : Type} {a : Address} {p : Action α} (h : Spares a p)
    (nb : Notebook) (m : Memory) :
    Safe (fun _ _ => True) (nb.Spared a) (fun _ _ => True) p m :=
  (h m).mono (fun _ _ => id) (fun _ _ => .inl) fun _ _ _ => id

section Steps

variable {nb : Notebook} {ns name : String} {uid : Doc}

theorem focuses_releasePatch : releasePatch.Focuses ["metadata", "annotations"]
    (.obj [(AnnotationKey.stopped, .null)]) := focuses_member (focuses_member rfl)

theorem lookup_dropStop (j : String) (hj : j ∉ [AnnotationKey.stopped]) :
    [(AnnotationKey.stopped, Doc.null)].lookup j = none := by
  rw [lookup_cons_eq_ite, if_neg (List.mem_singleton.not.mp hj)]
  rfl

theorem patch_releases (m : Memory) : Safe (fun _ _ => True)
    (fun s t => t.lookup (ObjectAt.notebook ns name) = s.lookup (ObjectAt.notebook ns name) ∨
      Notebook.Released (ObjectAt.notebook ns name) s t) (fun _ _ => True)
    (Action.patch (ObjectAt.notebook ns name) releasePatch) m := by
  have hdistinct : Distinct [(AnnotationKey.stopped, Doc.null)] := List.pairwise_singleton _ _
  have hdrops := tells_member hdistinct (by rw [lookup_cons_eq_ite, if_pos rfl])
  have htells := focuses_releasePatch.tells hdrops
  refine Action.patches (ObjectAt.notebook_plain ns name) keepsIdentity_releasePatch
    (fun names hnames => ?_) (fun found e he => ?_) m
  · refine focuses_releasePatch.isSilent_of_apart (List.cons_ne_nil AnnotationKey.stopped [])
      hdistinct lookup_dropStop fun j hj => ?_
    rw [List.mem_singleton.mp hj]
    exact hnames stopPlace List.mem_cons_self
  · rw [he stopPlace ⟨by decide, by decide⟩]
    exact at?_merge_of_tells rfl htells

theorem patch_withdraws {ms ms' : List Member} {changed : Bool}
    (hproper : (Doc.obj ms).isProper = true)
    (huses : Notebook.usesConfigMap (.obj ms) bundleConfigMap = .ok true)
    (h : TrustBundle.unmount (.obj ms) = .ok (changed, .obj ms')) (m : Memory) :
    Safe (fun _ _ => True)
      (fun s t => t.lookup (ObjectAt.notebook ns name) = s.lookup (ObjectAt.notebook ns name) ∨
        Notebook.Withdrawn (ObjectAt.notebook ns name) (.obj ms') s t) (fun _ _ => True)
      (Action.patch (ObjectAt.notebook ns name) (.obj (mergePatch ms ms'))) m := by
  obtain ⟨patched, kept, cs, hpatch⟩ := TrustBundle.withdrawal hproper huses h
  have hkeeps := TrustBundle.keepsIdentity_withdrawal hproper huses h
  refine Action.patches (ObjectAt.notebook_plain ns name) hkeeps (fun _ => hpatch.isSilent)
    (fun found e he => ?_) m
  rw [he TrustBundle.volumesPlace ⟨by decide, by decide⟩,
    he TrustBundle.containersPlace ⟨by decide, by decide⟩]
  exact ⟨hpatch.at?_volumes found, hpatch.at?_containers found⟩

theorem withdrawBundle_spared (hnb : nb.IsAt ns name uid) (hproper : nb.isProper = true)
    (m : Memory) : Safe (fun _ _ => True) (nb.Spared (ObjectAt.notebook ns name))
      (fun _ _ => True) (withdrawBundle nb) m := by
  rw [withdrawBundle_eq hnb]
  refine Safe.exists?_seq (ObjectAt.bundle_plain ns) (fun _ => .inl rfl) fun t _ _ => ?_
  split
  · exact .pure fun _ => trivial
  cases huses : nb.usesConfigMap bundleConfigMap with
  | error f => exact .throw fun _ => trivial
  | ok isUsed =>
    rw [liftM_ok_seq]
    cases isUsed with
    | false => exact .pure fun _ => trivial
    | true =>
      rw [if_pos rfl]
      rcases dropBundle_cases hnb huses with ⟨e, hdrop⟩ | ⟨ms, ms', rfl, hunmount, hdrop⟩
      · exact hdrop ▸ .throw fun _ => trivial
      · exact hdrop ▸ (patch_withdraws hproper huses hunmount t).mono (fun _ _ => id)
          (fun _ _ => .imp_right (.withdrawn _ hunmount)) fun _ _ _ => id

theorem endHold_spared (hnb : nb.IsAt ns name uid) (m : Memory) :
    Safe (fun _ _ => True) (nb.Spared (ObjectAt.notebook ns name)) (fun _ _ => True)
      (endHold nb) m := by
  have hwait : Spares (ObjectAt.notebook ns name) (awaitPullSecret (ObjectAt.notebook ns name)) :=
    Confined.awaitPullSecret.spares_notebook
  unfold endHold
  cases hlocked : nb.isLocked with
  | error f => exact .throw fun _ => trivial
  | ok isLocked =>
    rw [liftM_ok_seq]
    cases isLocked with
    | false => exact .pure fun _ => trivial
    | true =>
      rw [if_pos rfl, release, hnb.address, liftM_ok_seq]
      refine Safe.seq (fun _ t _ _ => ?_) (fun _ _ _ => id) (hwait.spared nb m)
      exact (patch_releases t).mono (fun _ _ => id)
        (fun _ _ => .imp_right (.released hlocked)) fun _ _ _ => id

theorem steps_spared (r : Reconciler) (hnb : nb.IsAt ns name uid) (hproper : nb.isProper = true)
    (m : Memory) : Safe (fun _ _ => True) (nb.Spared (ObjectAt.notebook ns name))
      (fun _ _ => True) (r.steps nb) m := by
  have hpublish := (Confined.publish hnb).spares_notebook
  have hpolicies := (Confined.policies hnb r.settings.ns).spares_notebook
  have hgrant := (Confined.grantPipelines hnb r).spares_notebook
  have hway := (Confined.openWayIn hnb r).spares_notebook
  rw [steps_eq]
  refine Safe.seq (fun _ m _ _ => ?_) (fun _ _ _ => id) (hpublish.spared nb m)
  refine Safe.seq (fun _ m _ _ => ?_) (fun _ _ _ => id) (withdrawBundle_spared hnb hproper m)
  refine Safe.seq (fun _ m _ _ => ?_) (fun _ _ _ => id) (hpolicies.spared nb m)
  refine Safe.seq (fun _ m _ _ => ?_) (fun _ _ _ => id) (hgrant.spared nb m)
  refine Safe.seq (fun _ m _ _ => ?_) (fun _ _ _ => id) (hway.spared nb m)
  exact endHold_spared hnb m

end Steps

/-! ## Runs -/

namespace Reconciler

variable {ns name : String} {m : Memory} {others : Nat → List Call}

/-- **A run changes its notebook in two ways at most**, whatever others do to it between the calls:
it drops the stop annotation of a notebook that was held when it was read, whatever the value is by
then, and it puts the lists back that it read, without the bundle. What others have written elsewhere
in the notebook stays. -/
theorem reconcile_rewrites (r : Reconciler) (hm : m.Orderly)
    (hproper : ∀ nb, (m.serveAll (others 0)).lookup (ObjectAt.notebook ns name) = some nb →
      nb.isProper = true)
    {x : Except Trouble Unit} {s : Shared}
    (hrun : (r.reconcile ns name).run (Shared.among others) ⟨m, []⟩ = (x, s)) :
    ∀ w ∈ s.log, w.after.lookup (ObjectAt.notebook ns name) =
        w.before.lookup (ObjectAt.notebook ns name) ∨
      ∃ nb, (m.serveAll (others 0)).lookup (ObjectAt.notebook ns name) = some nb ∧
        Notebook.Rewrites nb (ObjectAt.notebook ns name) w.before w.after := by
  obtain ⟨horder, -⟩ := Memory.Orderly.serveAll (others 0) hm
  obtain ⟨read, hread, hfind⟩ :=
    Shared.run_find?_among others (ObjectAt.notebook_plain ns name) ⟨m, []⟩
  -- Nothing is written by the look for the notebook.
  have hkept : read.after.lookup (ObjectAt.notebook ns name) =
      read.before.lookup (ObjectAt.notebook ns name) := by rw [hread]
  change ((find? (ObjectAt.notebook ns name) >>= _).run _ _) = _ at hrun
  rw [run_seq, hfind] at hrun
  dsimp only [List.length_nil, List.nil_append] at hrun
  intro w hw
  cases hnb : (m.serveAll (others 0)).lookup (ObjectAt.notebook ns name) with
  | none =>
    rw [hnb] at hrun
    cases hrun
    rw [List.mem_singleton.mp hw]
    exact .inl hkept
  | some nb =>
    rw [hnb] at hrun
    obtain ⟨uid, hat⟩ := Notebook.isAt_of_lookup horder.sound hnb
    have hsteps := steps_spared r hat (hproper nb hnb) (m.serveAll (others 0))
    rcases hsteps.shared (fun _ _ => trivial) horder hrun w hw with hw | hw
    · rw [List.mem_singleton.mp hw]
      exact .inl hkept
    · exact hw.imp_right fun h => ⟨nb, rfl, h⟩

/-! ### Writes at the wrong moment -/

/-- Somebody stops the notebook when it has been read. -/
def stopper : Nat → List Call
  | 0 => []
  | _ => [.patch (ObjectAt.notebook "ns" "wb") (.obj [("metadata", .obj [
      ("annotations", .obj [(AnnotationKey.stopped, "2024-05-01T00:00:00Z")])])])]

/-- One of the calls of the run is the release. -/
theorem heldNotebook_rewritten :
    ∃ w ∈ ((plainOperator.reconcile "ns" "wb").run (Shared.among stopper) ⟨driftedCluster, []⟩).2.log,
      Notebook.Rewrites heldNotebook (ObjectAt.notebook "ns" "wb") w.before w.after := by
  have hchanged : ∃ w ∈ ((plainOperator.reconcile "ns" "wb").run (Shared.among stopper)
      ⟨driftedCluster, []⟩).2.log, w.after.lookup (ObjectAt.notebook "ns" "wb") ≠
        w.before.lookup (ObjectAt.notebook "ns" "wb") := by decide +kernel
  have hlookup : (driftedCluster.serveAll (stopper 0)).lookup (ObjectAt.notebook "ns" "wb") =
      some heldNotebook := rfl
  have hproper : ∀ nb, (driftedCluster.serveAll (stopper 0)).lookup (ObjectAt.notebook "ns" "wb") =
      some nb → nb.isProper = true := by
    intro nb hnb
    cases hlookup.symm.trans hnb
    decide
  obtain ⟨w, hw, hne⟩ := hchanged
  have hrun := Prod.mk.eta (p := (plainOperator.reconcile "ns" "wb").run (Shared.among stopper)
    ⟨driftedCluster, []⟩)
  rcases reconcile_rewrites plainOperator Shared.driftedCluster_orderly hproper hrun.symm w hw with
    hkept | ⟨nb, hnb, hrewrites⟩
  · exact absurd hkept hne
  · cases hlookup.symm.trans hnb
    exact ⟨w, hw, hrewrites⟩

/-- **The notebook was stopped right before the last call, and is not stopped any longer after it.** -/
theorem reconcile_drops_stop :
    ∃ w ∈ ((plainOperator.reconcile "ns" "wb").run (Shared.among stopper) ⟨driftedCluster, []⟩).2.log,
      (w.before.lookup (ObjectAt.notebook "ns" "wb")).bind (at? (Place.ofNames stopPlace)) =
          some "2024-05-01T00:00:00Z" ∧
        (w.after.lookup (ObjectAt.notebook "ns" "wb")).bind (at? (Place.ofNames stopPlace)) =
          none := by
  decide +kernel

/-- The volume of the bundle. -/
def bundleVolume : Doc :=
  .obj [("name", "trusted-ca"), ("configMap", .obj [("name", bundleConfigMap)])]

/-- A volume that a user adds. -/
def dataVolume : Doc := .obj [("name", "data"), ("emptyDir", .obj [])]

/-- A notebook that mounts the bundle, in a cluster without one. -/
def mountingCluster : Memory where
  objects := [(ObjectAt.notebook "ns" "wb", .obj [
    ("kind", notebookKind),
    ("metadata", .obj [
      ("name", "wb"),
      ("namespace", "ns"),
      ("uid", "u1"),
      ("resourceVersion", "1")]),
    ("spec", .obj [("template", .obj [("spec", .obj [
      ("containers", .arr [.obj [("name", "wb")]]),
      ("volumes", .arr [bundleVolume])])])])])]
  version := 1

/-- Somebody adds a volume to the notebook when it has been read. -/
def volumeAdder : Nat → List Call
  | 0 => []
  | _ => [.patch (ObjectAt.notebook "ns" "wb") (.obj [("spec", .obj [("template", .obj [
      ("spec", .obj [("volumes", .arr [bundleVolume, dataVolume])])])])])]

/-- **The volume was there right before one of the calls, and is gone with the bundle after it.** -/
theorem reconcile_drops_volume :
    ∃ w ∈ ((plainOperator.reconcile "ns" "wb").run (Shared.among volumeAdder)
        ⟨mountingCluster, []⟩).2.log,
      (w.before.lookup (ObjectAt.notebook "ns" "wb")).bind
          (at? (Place.ofNames TrustBundle.volumesPlace)) = some (.arr [bundleVolume, dataVolume]) ∧
        (w.after.lookup (ObjectAt.notebook "ns" "wb")).bind
          (at? (Place.ofNames TrustBundle.volumesPlace)) = some (.arr []) := by
  decide +kernel

end Reconciler

end Workbench
