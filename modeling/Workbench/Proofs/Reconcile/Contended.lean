import Workbench.Proofs.Cluster.Shared
import Workbench.Proofs.Doc.Within
import Workbench.Proofs.Reconcile.Settled

/-!
# Convergence while others write

An object is brought into its wanted state by a read, a comparison and a write, and others may write
to it, remove it or make it anew in between. No write of theirs is lost.

* `Upkeep`, `Upkeep.all`: the objects that are kept in their wanted state, and the places of each that
  the operator owns;
* `Aspect.Owns`: the places that putting an aspect right may change;
* `restore_shared`, `converge_shared`: what is written, and to which object;
* **`converge_contended`**: a convergence writes once and loses nothing, or has not written.
-/

namespace Workbench

open Doc Memory Workbench.Action

/-! ## Owned places -/

namespace Aspect

/-- The labels of an object. -/
def labelsPlace : Place := [.member "metadata", .member "labels"]

/-- The version of an object. -/
def versionPlace : Place := [.member "metadata", .member "resourceVersion"]

/-- The places of a route that the operator owns. -/
def routePlaces : List Place :=
  labelsPlace :: routeMembers.map fun k => [.member "spec", .member k]

/-- Putting an aspect right changes an object at some places only. -/
def Owns (aspect : Aspect) (places : List Place) : Prop :=
  ∀ found desired e, aspect.overwrite found desired = .ok e → SameOutside places found e

variable {d e desired value : Doc}

theorem sameOutside_putLabels (h : putLabels value d = .ok e) :
    SameOutside [labelsPlace] d e :=
  sameOutside_modify (List.cons_ne_nil ([.member "labels"] : Place) []) h
    fun _ _ => sameOutside_put

theorem owns_labels_member {aspect : Aspect} {k : String} (labelsOf : Doc → Except Fault Doc)
    (h : ∀ found desired, aspect.overwrite found desired = (do
      let value ← labelsOf (← desired.require "metadata")
      let found ← putLabels value found
      found.put k (← desired.require k))) : Owns aspect [labelsPlace, [.member k]] := by
  intro found desired e hoverwrite
  rw [h] at hoverwrite
  obtain ⟨metadata, -, hvalue⟩ := bind_eq_ok_iff.mp hoverwrite
  obtain ⟨value, -, hlabels⟩ := bind_eq_ok_iff.mp hvalue
  obtain ⟨found₁, hlabels, hwanted⟩ := bind_eq_ok_iff.mp hlabels
  obtain ⟨wanted, -, hput⟩ := bind_eq_ok_iff.mp hwanted
  exact ((sameOutside_putLabels hlabels).mono (by simp)).trans
    ((sameOutside_put hput).mono (by simp))

theorem sameOutside_takeOver : ∀ (names : List String) {spec spec' : Doc},
    names.foldlM (takeOver desired) spec = .ok spec' →
      SameOutside (names.map fun k => [.member k]) spec spec'
  | [], spec, spec', h => by
    cases h
    exact .refl _ _
  | k :: names, spec, spec', h => by
    rw [List.foldlM_cons] at h
    obtain ⟨spec₁, h₁, h₂⟩ := bind_eq_ok_iff.mp h
    obtain ⟨wanted, -, h₁⟩ := bind_eq_ok_iff.mp h₁
    obtain ⟨v, -, h₁⟩ := bind_eq_ok_iff.mp h₁
    exact ((sameOutside_put h₁).mono (by simp)).trans
      ((sameOutside_takeOver names h₂).mono (List.subset_cons_self _ _))

theorem route_owns : Owns route routePlaces := by
  intro found desired e h
  obtain ⟨metadata, -, h⟩ := bind_eq_ok_iff.mp h
  obtain ⟨value, -, h⟩ := bind_eq_ok_iff.mp h
  obtain ⟨found₁, h₁, h⟩ := bind_eq_ok_iff.mp h
  obtain ⟨found₂, h₂, h₃⟩ := bind_eq_ok_iff.mp h
  have hensure := sameOutside_ensure (s := .member "to") h₂
  have hspec := sameOutside_modify (by decide) h₃ fun _ _ => sameOutside_takeOver routeMembers
  rw [List.map_map] at hspec
  exact ((sameOutside_putLabels h₁).mono (by simp [routePlaces])).trans
    ((hensure.mono (by simp [routePlaces, routeMembers])).trans
      (hspec.mono (List.subset_cons_self _ _)))

theorem changedWithin_stamped {m : Memory} {a : Address} {found : Doc} {n : Nat} (hm : m.Sound)
    (ha : a.IsPlain) (hfound : m.lookup a = some found) (hsame : SameIdentity found d)
    (h : stamped a n d = .ok e) : ChangedWithin [versionPlace] d e := by
  obtain ⟨ms, md, rfl, hmd, huid, -⟩ := hm.kept ha hfound
  obtain ⟨_, _, ns, nd, hms, rfl, hmd', hnd, -, hrest⟩ := hsame
  cases hms
  obtain rfl : md = _ := by simpa [hmd] using hmd'
  rw [← hrest "uid" (by decide)] at huid
  obtain ⟨_, nd', hns, hnd', rfl⟩ := stamped_eq_ok_iff.mp h
  cases hns
  obtain rfl : nd = nd' := by simpa [hnd] using hnd'
  have hmodify : (Doc.obj ns).modify "metadata" (·.put "resourceVersion" (toString n)) =
      .ok (.obj (setMember "metadata" (.obj (stampedMembers a n nd)) ns)) :=
    modify_eq_ok_iff.mpr ⟨ns, _, _, rfl, hnd, rfl, by rw [stampedMembers, if_pos huid]⟩
  exact changedWithin_modify (List.cons_ne_nil ([.member "resourceVersion"] : Place) []) hmodify
    fun _ _ hput => (sameBut_put hput).changedWithin

end Aspect

/-! ## Objects that are kept in their wanted state -/

/-- An object that is kept in its wanted state: how, where, and the places of it that the operator
owns. -/
structure Upkeep where
  aspect : Aspect
  address : Address
  owned : List Place
  desired : Doc

namespace Upkeep

/-- The objects of a notebook that are kept in their wanted state. -/
def all (ns name : String) (uid : Doc) (operatorNamespace : String) : List Upkeep :=
  let o : Owner := ⟨name, ns, uid⟩
  let policyPlaces := [Aspect.labelsPlace, [.member "spec"]]
  [ ⟨.policy, ObjectAt.notebookPolicy ns name, policyPlaces,
      Resource.notebookPolicy o operatorNamespace⟩,
    ⟨.policy, ObjectAt.oauthPolicy ns name, policyPlaces, Resource.oauthPolicy o⟩,
    ⟨.route, ObjectAt.route ns name, Aspect.routePlaces, Resource.plainRoute o⟩,
    ⟨.route, ObjectAt.route ns name, Aspect.routePlaces, Resource.oauthRoute o⟩,
    ⟨.binding, ObjectAt.roleBinding ns name, [Aspect.labelsPlace, [.member "subjects"]],
      Resource.roleBinding o⟩]

variable {u : Upkeep} {ns name operatorNamespace : String} {uid : Doc}

theorem settles_owns (hu : u ∈ all ns name uid operatorNamespace) :
    u.aspect.Settles u.address u.desired ∧ u.aspect.Owns u.owned := by
  simp only [all, List.mem_cons, List.not_mem_nil, or_false] at hu
  rcases hu with rfl | rfl | rfl | rfl | rfl
  · exact ⟨Aspect.policy_settles rfl _, Aspect.owns_labels_member _ fun _ _ => rfl⟩
  · exact ⟨Aspect.policy_settles rfl _, Aspect.owns_labels_member _ fun _ _ => rfl⟩
  · exact ⟨Aspect.route_settles rfl rfl _ _ _, Aspect.route_owns⟩
  · exact ⟨Aspect.route_settles rfl rfl _ _ _, Aspect.route_owns⟩
  · exact ⟨Aspect.binding_settles rfl rfl, Aspect.owns_labels_member _ fun _ _ => rfl⟩

/-- A write made the object, or put its aspect right. The object then agrees with the wanted one, and
what others wrote last is still there outside of the owned places. -/
structure Wrote (u : Upkeep) (w : Served) (e : Doc) : Prop where
  how : w.Creates u.address u.desired e ∨ ∃ d found, w.Updates u.address d found e ∧
    SameOutside (Aspect.versionPlace :: u.owned) found e
  agrees : u.aspect.agrees e u.desired = .ok true

end Upkeep

namespace Shared

variable {u : Upkeep} {others : Nat → Meanwhile} {s t : Shared}

/-- The write of an object that is put right. -/
theorem restore_shared (hsettles : u.aspect.Settles u.address u.desired)
    (howns : u.aspect.Owns u.owned) (s : Shared) (x : Except Trouble Unit) (t : Shared)
    (hs : s.memory.Orderly)
    (hrun : (restore u.aspect u.address u.desired).run (host others) s = (x, t)) :
    Ends (fun w => ∃ e, u.Wrote w e) x s t := by
  have ha := hsettles.plain
  unfold restore at hrun
  rw [run_seq] at hrun
  rcases hget : (Action.get u.address).run (host others) s with ⟨y, s₁⟩
  obtain ⟨hgoes, hlookup⟩ := run_get ha hs hget
  rw [hget] at hrun
  cases y with
  | error f =>
    obtain ⟨rfl, rfl⟩ := Prod.mk.inj hrun
    exact .inr ⟨f, rfl, hgoes⟩
  | ok found =>
    have hfound := hlookup found rfl
    cases hover : u.aspect.overwrite found u.desired with
    | error f =>
      dsimp only at hrun
      rw [hover] at hrun
      obtain ⟨rfl, rfl⟩ := Prod.mk.inj hrun
      exact .inr ⟨_, rfl, hgoes⟩
    | ok d =>
      dsimp only at hrun
      rw [hover, liftM_ok_seq] at hrun
      have hbelongs := hgoes.orderly.sound.addressOf_eq ha hfound
      have hsame := hsettles.keeps.same (hasMetadata_of_addressOf hbelongs) hover
      obtain ⟨rfl, w, found', e, hgoes', hsince, hw⟩ | ⟨⟨f, rfl⟩, hgoes'⟩ :=
        run_update ha (hsame.addressOf hbelongs) hgoes.orderly hrun
      · -- The version that is written names the object that was read.
        obtain rfl : found' = found :=
          hgoes.orderly.dated.eq_of_isCurrent hsince ha hfound hsame hw.there hw.current
        obtain ⟨n, hstamped⟩ := hw.stamped
        have hversion :=
          (Aspect.changedWithin_stamped hgoes.orderly.sound ha hfound hsame hstamped).outside
        have houtside : SameOutside (Aspect.versionPlace :: u.owned) found' e :=
          ((howns _ _ _ hover).mono (List.subset_cons_self _ _)).trans (hversion.mono (by simp))
        refine .inl ⟨(), w, rfl, hgoes.trans hgoes', e, ⟨.inr ⟨d, found', hw, houtside⟩, ?_⟩⟩
        rw [hsettles.agrees_stamped hsame.hasMetadata hstamped]
        exact hsettles.agrees_overwrite (hasMetadata_of_addressOf hbelongs) hover
      · exact .inr ⟨f, rfl, hgoes.trans hgoes'⟩

/-- A convergence writes once, and loses nothing that others wrote, or has not written. -/
theorem converge_shared (hsettles : u.aspect.Settles u.address u.desired)
    (howns : u.aspect.Owns u.owned) {x : Except Trouble Bool} (hs : s.memory.Orderly)
    (hrun : (converge u.aspect u.desired).run (host others) s = (x, t)) :
    (x = .ok true ∧ ∃ w e, Goes s t [w] ∧ u.Wrote w e) ∨ (x ≠ .ok true ∧ Goes s t []) := by
  have ha := hsettles.plain
  unfold converge at hrun
  rw [address_of_addressOf hsettles.belongs, liftM_ok_seq, run_seq] at hrun
  rcases hfind : (Action.find? u.address).run (host others) s with ⟨y, s₁⟩
  obtain ⟨hgoes, hlookup⟩ := run_find? ha hs hfind
  rw [hfind] at hrun
  match y with
  | .error f =>
    obtain ⟨rfl, rfl⟩ := Prod.mk.inj hrun
    exact .inr ⟨nofun, hgoes⟩
  | .ok none =>
    obtain ⟨rfl, w, e, hgoes', hw⟩ | ⟨hx, hgoes'⟩ :=
      run_createUnlessThere ha hsettles.belongs hgoes.orderly hrun
    · obtain ⟨n, hstamped⟩ := hw.stamped
      refine .inl ⟨rfl, w, e, hgoes.trans hgoes', .inl hw, ?_⟩
      rw [hsettles.agrees_stamped (hasMetadata_of_addressOf hsettles.belongs) hstamped]
      exact Aspect.agrees_self hsettles.project_ok rfl
    · exact .inr ⟨hx, hgoes.trans hgoes'⟩
  | .ok (some found) =>
    dsimp only at hrun
    cases hagrees : u.aspect.agrees found u.desired with
    | error f =>
      rw [hagrees] at hrun
      obtain ⟨rfl, rfl⟩ := Prod.mk.inj hrun
      exact .inr ⟨nofun, hgoes⟩
    | ok isSame =>
      rw [hagrees, liftM_ok_seq] at hrun
      cases isSame with
      | true =>
        obtain ⟨rfl, rfl⟩ := Prod.mk.inj hrun
        exact .inr ⟨nofun, hgoes⟩
      | false =>
        rw [if_neg Bool.false_ne_true, run_seq] at hrun
        rcases hretry : (retryingOnConflict (restore u.aspect u.address u.desired)).run
          (host others) s₁ with ⟨z, s₂⟩
        rw [hretry] at hrun
        obtain ⟨_, w, rfl, hgoes', e, hw⟩ | ⟨f, rfl, hgoes'⟩ :=
          run_retrying (restore_shared hsettles howns) conflictWaits hgoes.orderly hretry
        · obtain ⟨rfl, rfl⟩ := Prod.mk.inj hrun
          exact .inl ⟨rfl, w, e, hgoes.trans hgoes', hw⟩
        · obtain ⟨rfl, rfl⟩ := Prod.mk.inj hrun
          exact .inr ⟨nofun, hgoes.trans hgoes'⟩

/-- **A convergence loses nothing that others write.** Whatever they do between its calls, it says
that it wrote when it did so once, and otherwise it has not written. It made the object where there
was none, or put its aspect right in the object that was there immediately before, and changed nothing
else of it. -/
theorem converge_contended {ns name operatorNamespace : String} {uid : Doc}
    (hu : u ∈ Upkeep.all ns name uid operatorNamespace) (others : Nat → Meanwhile) {m : Memory}
    (hm : m.Orderly) {x : Except Trouble Bool} {s : Shared}
    (hrun : (converge u.aspect u.desired).run (host others) ⟨m, []⟩ = (x, s)) :
    ((x = .ok true ∧ ∃ w e, s.writes = [w] ∧ u.Wrote w e) ∨ (x ≠ .ok true ∧ s.writes = [])) ∧
      ∀ w ∈ s.log, w.isWrite = false → w.after.objects = w.before.objects := by
  obtain ⟨hsettles, howns⟩ := Upkeep.settles_owns hu
  refine ⟨?_, fun w hw => (log_isTrue hrun (fun _ h => absurd h List.not_mem_nil) w hw).unchanged⟩
  obtain ⟨hx, w, e, hgoes, hw⟩ | ⟨hx, hgoes⟩ := converge_shared hsettles howns hm hrun
  · exact .inl ⟨hx, w, e, hgoes.writes, hw⟩
  · exact .inr ⟨hx, hgoes.writes⟩

/-! ### A router that writes at the wrong moment -/

/-- The route of a new notebook. -/
def newRoute : Upkeep where
  aspect := .route
  address := ObjectAt.route "ns" "wb"
  owned := Aspect.routePlaces
  desired := Resource.plainRoute ⟨"wb", "ns", "u1"⟩

/-- The router changes the host when the route has just been read for the second time. -/
def busyRouter : Nat → Meanwhile
  | 2 => { calls := [.patch newRoute.address (.obj [("spec", .obj [("host", "new.apps")])])] }
  | _ => {}

theorem driftedCluster_orderly : Reconciler.driftedCluster.Orderly where
  sound := Reconciler.driftedCluster_sound
  dated := by
    refine List.forall_mem_cons.mpr ⟨?_, List.forall_mem_cons.mpr ⟨?_, nofun⟩⟩
    · exact ⟨1, by decide, _, _, rfl, rfl, rfl⟩
    · exact ⟨2, by decide, _, _, rfl, rfl, rfl⟩

/-- The first write meets a conflict, and the second one keeps the new host. -/
theorem driftedRoute_keeps_new_host :
    (∃ w e, ((converge newRoute.aspect newRoute.desired).run (host busyRouter)
      ⟨Reconciler.driftedCluster, []⟩).2.writes = [w] ∧ newRoute.Wrote w e) ∧
    (((converge newRoute.aspect newRoute.desired).run (host busyRouter)
      ⟨Reconciler.driftedCluster, []⟩).2.memory.lookup newRoute.address).bind
        (·.at? [.member "spec", .member "host"]) = some "new.apps" := by
  have hu : newRoute ∈ Upkeep.all "ns" "wb" "u1" "operators" := by
    simp [Upkeep.all, newRoute]
  have hwritten : ((converge newRoute.aspect newRoute.desired).run (host busyRouter)
      ⟨Reconciler.driftedCluster, []⟩).1 = .ok true := by decide +kernel
  refine ⟨?_, by decide +kernel⟩
  obtain ⟨⟨-, hw⟩ | ⟨hx, -⟩, -⟩ :=
    converge_contended hu busyRouter driftedCluster_orderly (Prod.fst_eq_iff.mp hwritten)
  · exact hw
  · exact absurd rfl hx

end Shared

end Workbench
