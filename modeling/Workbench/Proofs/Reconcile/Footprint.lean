import Workbench.Proofs.Annotations
import Workbench.Proofs.Reconcile.Overwritten

/-!
# The footprint of a reconcile

Nobody else writes to the cluster, and any call of a run may end in any trouble, whether it has been
served or not. Wherever that ends the run, nothing has been touched but the notebook and its objects.

* `Notebook.Reworked`: what a run may have changed of a notebook;
* `Reworked.release`, `Reworked.withdraw`: what the two patches of a run change;
* `Reconcile.Holds`, `Holds.step`: what holds throughout a run, and is preserved by its calls;
* `Reconcile.makesOwned`: an object that is made for a notebook leads back to it;
* `Reconciler.Footprint`, **`Reconciler.reconcile_footprint`**: what a run leaves, whatever goes wrong.
-/

namespace Workbench

open Doc Memory Workbench.Action Reconcile

/-! ## The notebook -/

namespace Notebook

/-- The places of a notebook that a run may have changed. Only a notebook that was held is let go. -/
def reworked (nb : Notebook) : List Place :=
  [Aspect.versionPlace, Place.ofNames TrustBundle.containersPlace,
    Place.ofNames TrustBundle.volumesPlace] ++
    match nb.isLocked with
    | .ok true => [Place.ofNames stopPlace]
    | _ => []

/-- The containers are as they were, but for the variables and the mounts of the one named like the
notebook. -/
def KeepsContainers (nb : Notebook) (containers : Option Doc) : Prop :=
  containers = nb.at? (Place.ofNames TrustBundle.containersPlace) ∨
    ∃ i cs c c', nb.primaryIndex? = .ok (some i) ∧
      nb.at? (Place.ofNames TrustBundle.containersPlace) = some (.arr cs) ∧ cs[i]? = some c ∧
      ChangedWithin [[.member "env"], [.member "volumeMounts"]] c c' ∧
      containers = some (.arr (cs.set i c'))

/-- What a run may have changed of a notebook: its version, its volumes, the variables and the mounts
of its primary container, and the annotation by which it was held. -/
structure Reworked (nb e : Notebook) : Prop where
  changed : ChangedWithin nb.reworked nb e
  containers : nb.KeepsContainers (e.at? (Place.ofNames TrustBundle.containersPlace))

variable {nb e d e' : Notebook} {ns name : String} {uid : Doc} {m : Memory} {n : Nat}

theorem reworked_apart (nb : Notebook) : Place.AllApart nb.reworked := by
  unfold reworked
  split <;> decide

theorem reworked_of_isLocked (h : nb.isLocked = .ok true) :
    Place.ofNames stopPlace ∈ nb.reworked := by
  rw [reworked, h]
  decide

theorem subset_reworked (nb : Notebook) : [Aspect.versionPlace,
    Place.ofNames TrustBundle.containersPlace, Place.ofNames TrustBundle.volumesPlace] ⊆
      nb.reworked := List.subset_append_left _ _

namespace Reworked

theorem refl (nb : Notebook) : nb.Reworked nb := ⟨.refl _ _, .inl rfl⟩

theorem isOpen (h : nb.Reworked e) {way : List String} {k : String}
    (hk : Place.ofNames (way ++ [k]) ∈ nb.reworked)
    (hnb : ∀ names, names <+: way → IsOpen (nb.at? (Place.ofNames names)))
    (names : List String) (hnames : names <+: way) :
    IsOpen (e.at? (Place.ofNames names)) := by
  have hinside : Place.ofNames names <+: Place.ofNames (way ++ [k]) :=
    (hnames.trans (List.prefix_append way [k])).map Step.member
  refine (h.changed.around _ hk _ hinside fun heq => ?_).isOpen (hnb names hnames)
  have hlength := congrArg List.length heq
  have hle := hnames.length_le
  simp [Place.ofNames] at hlength
  omega

theorem put (h : nb.Reworked e) (hm : m.Sound)
    (he : m.lookup (ObjectAt.notebook ns name) = some e) (hsame : SameIdentity e d)
    (hchanged : ChangedWithin nb.reworked e d)
    (hcontainers : nb.KeepsContainers (d.at? (Place.ofNames TrustBundle.containersPlace)))
    (hstamped : stamped (ObjectAt.notebook ns name) n d = .ok e') : nb.Reworked e' := by
  have hversion := Aspect.changedWithin_stamped hm (ObjectAt.notebook_plain ns name) he hsame hstamped
  refine ⟨h.changed.trans (hchanged.trans (hversion.mono ?_ (reworked_apart nb))), ?_⟩
  · exact List.Subset.trans (by simp) (subset_reworked nb)
  · rw [hversion.outside]
    · exact hcontainers
    · rw [List.forall_mem_singleton]
      decide

end Reworked

/-! ### The patches -/

theorem isOpen_of_isLocked (hlocked : nb.isLocked = .ok true) (names : List String)
    (hnames : names <+: ["metadata", "annotations"]) : IsOpen (nb.at? (Place.ofNames names)) := by
  obtain ⟨value, hvalue, hlocked⟩ := bind_eq_ok_iff.mp hlocked
  rw [pure_eq_ok, Except.ok.injEq, looseEq_str_iff] at hlocked
  obtain ⟨ms, os, as, rfl, hms, hos, -⟩ := exists_annotations (hlocked ▸ hvalue)
  have hat : (obj ms).at? (Place.ofNames ["metadata", "annotations"]) = some (.obj as) := by
    rw [at?_cons, membersOrNone, hms, Option.bind_some, at?_cons, membersOrNone, hos]
    rfl
  exact isOpen_of_at? hnames hat

theorem HasPodSpec.isOpen {ps : List Member} (h : nb.HasPodSpec (.obj ps)) (names : List String)
    (hnames : names <+: podSpecPath) : IsOpen (nb.at? (Place.ofNames names)) := by
  obtain ⟨ms, s, t, rfl, hs, ht, hps⟩ := h
  have hat : (obj ms).at? (Place.ofNames podSpecPath) = some (.obj ps) := by
    rw [podSpecPath, at?_cons, membersOrNone, hs, Option.bind_some, at?_cons, membersOrNone, ht,
      Option.bind_some, at?_cons, membersOrNone, hps]
    rfl
  exact isOpen_of_at? hnames hat

/-- Only the annotation by which the notebook was held is dropped. -/
theorem Reworked.release (h : nb.Reworked e) (hlocked : nb.isLocked = .ok true) (hm : m.Sound)
    (he : m.lookup (ObjectAt.notebook ns name) = some e)
    (hstamped : stamped (ObjectAt.notebook ns name) n (e.merge releasePatch) = .ok e') :
    nb.Reworked e' := by
  have hmeta := hasMetadata_of_addressOf (hm.addressOf_eq (ObjectAt.notebook_plain ns name) he)
  have hchanged : ChangedWithin [Place.ofNames stopPlace] e (e.merge releasePatch) := by
    obtain ⟨ms, -, rfl, -⟩ := id hmeta
    exact focuses_releasePatch.changedWithin (List.cons_ne_nil AnnotationKey.stopped [])
      lookup_dropStop
      (h.isOpen (k := AnnotationKey.stopped) (reworked_of_isLocked hlocked)
        (isOpen_of_isLocked hlocked))
  refine h.put hm he (keepsIdentity_releasePatch.same hmeta rfl) (hchanged.mono ?_
    (reworked_apart nb)) ?_ hstamped
  · exact List.cons_subset.mpr ⟨reworked_of_isLocked hlocked, List.nil_subset _⟩
  · rw [hchanged.outside]
    · exact h.containers
    · rw [List.forall_mem_singleton]
      decide

/-- Only the volumes and one container change when the bundle is taken out. -/
theorem Reworked.withdraw {ms ms' : List Member} (hproper : (Doc.obj ms).isProper = true)
    (huses : usesConfigMap (.obj ms) bundleConfigMap = .ok true)
    (hunmount : TrustBundle.unmount (.obj ms) = .ok (true, .obj ms')) (h : Reworked (.obj ms) e)
    (hm : m.Sound) (he : m.lookup (ObjectAt.notebook ns name) = some e)
    (hstamped : stamped (ObjectAt.notebook ns name) n (e.merge (.obj (mergePatch ms ms'))) = .ok e') :
    Reworked (.obj ms) e' := by
  have hmeta := hasMetadata_of_addressOf (hm.addressOf_eq (ObjectAt.notebook_plain ns name) he)
  obtain ⟨ps, _, hspec, -⟩ := volumes_of_usesConfigMap huses
  obtain ⟨patched, kept, cs, hpatch⟩ := TrustBundle.withdrawal hproper huses hunmount
  have hvolumes : Place.ofNames TrustBundle.volumesPlace ∈ reworked (.obj ms) :=
    subset_reworked _ (by simp)
  have hchanged : ChangedWithin [Place.ofNames TrustBundle.containersPlace,
      Place.ofNames TrustBundle.volumesPlace] e (e.merge (.obj (mergePatch ms ms'))) := by
    obtain ⟨es, -, rfl, -⟩ := id hmeta
    exact hpatch.changedWithin (h.isOpen hvolumes hspec.isOpen)
  refine h.put hm he ((TrustBundle.keepsIdentity_withdrawal hproper huses hunmount).same hmeta rfl)
    (hchanged.mono ?_ (reworked_apart _)) ?_ hstamped
  · exact List.Subset.trans (List.subset_cons_self _ _) (subset_reworked _)
  · rcases hpatch.at?_containers e with hsame | hwithout
    · exact hsame ▸ h.containers
    · obtain ⟨i, cs, c, c', hi, hcs, hc, hcontainer, hat⟩ :=
        TrustBundle.containers_unmount hspec hunmount
      refine .inr ⟨i, cs, c, c', hi, ?_, hc, hcontainer, hwithout.trans hat⟩
      rw [TrustBundle.containersPlace, hspec.at?, hcs]

end Notebook

/-! ## The calls -/

namespace Reconcile

variable {nb : Notebook} {ns name : String} {m : Memory} {w : Served} {c : Call} {e : Doc}

/-- Where a run for a notebook may write. -/
def written (ns name : String) : List Address := ObjectAt.bundle ns :: ObjectAt.own ns name

theorem written_plain : ∀ a ∈ written ns name, a.IsPlain := by
  simp only [written, ObjectAt.own_eq, List.forall_mem_cons]
  exact ⟨ObjectAt.bundle_plain ns, ObjectAt.notebook_plain ns name,
    fun a ha => furnished_plain a (List.mem_cons_of_mem _ ha)⟩

theorem MayAsk.keepsTo (hproper : nb.isProper = true) (h : MayAsk nb ns name c) :
    c.KeepsTo (written ns name) := by
  have hmem : ObjectAt.notebook ns name ∈ written ns name := by
    simp [written, ObjectAt.own]
  cases h with
  | furnish h => exact h.keepsTo.mono (List.cons_subset_cons _ (List.subset_cons_self _ _))
  | release _ =>
    exact .patch hmem fun d hd =>
      (keepsIdentity_releasePatch.same (hasMetadata_of_addressOf hd) rfl).addressOf hd
  | withdraw hnb huses hunmount =>
    subst hnb
    exact .patch hmem fun d hd => ((TrustBundle.keepsIdentity_withdrawal hproper huses hunmount).same
      (hasMetadata_of_addressOf hd) rfl).addressOf hd

/-- What holds throughout a run for the notebook `nb` that was kept in `m`. -/
structure Holds (nb : Notebook) (ns name : String) (m t : Memory) : Prop where
  sound : t.Sound
  elsewhere : t.besides (written ns name) = m.besides (written ns name)
  notebook : ∃ e, t.lookup (ObjectAt.notebook ns name) = some e ∧ nb.Reworked e

theorem exists_reworked {patch : Doc} (hm : m.Sound)
    (he : m.lookup (ObjectAt.notebook ns name) = some e)
    (hkeeps : (Call.patch (ObjectAt.notebook ns name) patch).KeepsTo (written ns name))
    (hpatched : ∀ n e', stamped (ObjectAt.notebook ns name) n (e.merge patch) = .ok e' →
      nb.Reworked e') :
    ∃ e', (m.serve (.patch (ObjectAt.notebook ns name) patch)).2.lookup (ObjectAt.notebook ns name) =
      some e' ∧ nb.Reworked e' := by
  have ha := ObjectAt.notebook_plain ns name
  cases hkeeps with
  | patch _ hp =>
    rcases m.serve_patch ha (fun d hd => hp d (hm.addressOf_eq ha hd)) with
      ⟨hnone, -⟩ | ⟨found, e', hfound, -, hputs⟩
    · cases he.symm.trans hnone
    · cases he.symm.trans hfound
      obtain ⟨n, hn⟩ := hputs.stamped
      exact ⟨e', hputs.lookup_self ha, hpatched n e' hn⟩

/-- What holds of a run is preserved by its calls. -/
theorem Holds.step (hproper : nb.isProper = true) (hw : w.Happens) (hmay : MayAsk nb ns name w.call)
    (h : Holds nb ns name m w.before) : Holds nb ns name m w.after := by
  rcases hw.after_eq with hsame | hserved
  · exact hsame.symm ▸ h
  have hkeeps := hmay.keepsTo hproper
  obtain ⟨e, he, hreworked⟩ := h.notebook
  rw [hserved]
  refine ⟨h.sound.serve _, (hkeeps.besides_eq written_plain h.sound).trans h.elsewhere, ?_⟩
  generalize w.call = c at hmay hkeeps ⊢
  cases hmay with
  | furnish hfurnishes =>
    refine ⟨e, ?_, hreworked⟩
    rw [lookup_of_besides furnished_plain notebook_not_mem_furnished
      (hfurnishes.keepsTo.besides_eq furnished_plain h.sound), he]
  | release hlocked =>
    exact exists_reworked h.sound he hkeeps fun _ _ =>
      hreworked.release hlocked h.sound he
  | withdraw hnb huses hunmount =>
    subst hnb
    exact exists_reworked h.sound he hkeeps fun _ _ =>
      hreworked.withdraw hproper huses hunmount h.sound he

/-- An object that the call makes is the bundle, or leads back to the notebook. -/
def MakesOwned (ns name : String) (w : Served) : Prop :=
  ∀ a e, w.before.lookup a = none → w.after.lookup a = some e →
    a = ObjectAt.bundle ns ∨ FanOut.forOwned e = .ok [⟨ns, name⟩]

theorem makesOwned_of_unchanged (h : w.after = w.before) : MakesOwned ns name w := by
  intro a e hbefore hafter
  cases hbefore.symm.trans (h ▸ hafter)

/-- **An object that is made for a notebook leads back to it.** The bundle belongs to all notebooks of
its namespace. -/
theorem makesOwned (hproper : nb.isProper = true) (hw : w.Happens)
    (hmay : MayAsk nb ns name w.call) (hm : w.before.Sound) : MakesOwned ns name w := by
  rcases hw.after_eq with hsame | hserved
  · exact makesOwned_of_unchanged hsame
  intro a e hbefore hafter
  obtain ⟨d, n, hcall, hd, hstamped⟩ :=
    (hmay.keepsTo hproper).exists_create written_plain hm hbefore (hserved ▸ hafter)
  rw [hcall] at hmay
  cases hmay with
  | furnish h =>
    cases h with
    | publish hbundle => exact .inl (Except.ok.inj (hd.symm.trans hbundle))
    | make hwanted => exact .inr ((FanOut.forOwned_stamped hstamped).trans hwanted.owned)

end Reconcile

/-! ## The run -/

namespace Reconciler

variable {nb : Notebook} {ns name : String} {uid : Doc} {m : Memory} {mishaps : Nat → Mishap}
  {x : Except Trouble Unit} {s t : Shared}

/-- The trace that a run for a notebook leaves on the memory `m`. -/
structure Footprint (ns name : String) (m : Memory) (t : Shared) : Prop where
  /-- All other objects are as they were, with their versions. -/
  elsewhere : t.memory.besides (written ns name) = m.besides (written ns name)
  /-- The notebook is changed as far as a run may change it. -/
  notebook : Option.Rel Notebook.Reworked (m.lookup (ObjectAt.notebook ns name))
    (t.memory.lookup (ObjectAt.notebook ns name))
  /-- All objects that were made lead back to the notebook, the bundle aside. -/
  created : ∀ w ∈ t.log, MakesOwned ns name w

theorem steps_footprint (hnb : nb.IsAt ns name uid) (hproper : nb.isProper = true)
    (r : Reconciler) (hlookup : m.lookup (ObjectAt.notebook ns name) = some nb)
    (hs : Holds nb ns name m s.memory) (hlog : ∀ w ∈ s.log, MakesOwned ns name w)
    (hrun : (r.steps nb).run (Shared.alone mishaps) s = (x, t)) : Footprint ns name m t := by
  obtain ⟨hend, l, hl, hcalls⟩ := (Confined.steps hnb r).run (fun _ => Holds.sound)
    (fun _ => Holds.step hproper) hs hrun
  refine ⟨hend.elsewhere, ?_, fun w hw => ?_⟩
  · obtain ⟨e, he, hreworked⟩ := hend.notebook
    rw [he, hlookup]
    exact .some hreworked
  · rw [hl] at hw
    rcases List.mem_append.mp hw with hw | hw
    · exact hlog w hw
    · obtain ⟨hhappens, hmay, hholds⟩ := hcalls w hw
      exact makesOwned hproper hhappens hmay hholds.sound

/-- **A reconcile touches nothing but its notebook and the objects of the notebook**, whatever its
calls end in and wherever that ends it. -/
theorem reconcile_footprint (r : Reconciler) (hm : m.Sound)
    (hproper : ∀ nb, m.lookup (ObjectAt.notebook ns name) = some nb → nb.isProper = true)
    (hrun : (r.reconcile ns name).run (Shared.alone mishaps) ⟨m, []⟩ = (x, t)) :
    Footprint ns name m t := by
  obtain ⟨w, found, hsame, hbefore, hfind, hfound⟩ :=
    Shared.run_find?_alone mishaps (ObjectAt.notebook_plain ns name) ⟨m, []⟩
  have hafter : (Shared.note ⟨m, []⟩ w).memory = m := hsame.trans hbefore
  have hlog : ∀ v ∈ (Shared.note ⟨m, []⟩ w).log, MakesOwned ns name v := fun v hv =>
    List.mem_singleton.mp hv ▸ makesOwned_of_unchanged hsame
  have hlooked : Footprint ns name m (Shared.note ⟨m, []⟩ w) := by
    refine ⟨by rw [hafter], ?_, hlog⟩
    rw [hafter]
    cases m.lookup (ObjectAt.notebook ns name) with
    | none => exact .none
    | some nb => exact .some (.refl nb)
  change ((find? (ObjectAt.notebook ns name) >>= _ : Action Unit).run _ _) = _ at hrun
  rw [run_seq, hfind] at hrun
  rcases found with e | _ | nb
  · cases hrun
    exact hlooked
  · cases hrun
    exact hlooked
  · have hlookup := hfound nb rfl
    obtain ⟨uid, hnb⟩ := Notebook.isAt_of_lookup hm hlookup
    have hstart : Holds nb ns name m (Shared.note ⟨m, []⟩ w).memory := by
      rw [hafter]
      exact ⟨hm, rfl, nb, hlookup, .refl nb⟩
    exact steps_footprint hnb (hproper nb hlookup) r hlookup hstart hlog hrun

/-- The notebook is patched, but the answer is lost. -/
def lostPatch : Nat → Mishap := fun n =>
  if n = 13 then { trouble := some (.failure (.unexpected "connection reset" 503)), isServed := true }
  else {}

/-- A held notebook is let go, which ends the run in trouble. Nothing else has been touched. -/
theorem heldNotebook_footprint : ∃ t : Shared,
    (plainOperator.reconcile "ns" "wb").run (Shared.alone lostPatch) ⟨driftedCluster, []⟩ =
      (.error (.failure (.unexpected "connection reset" 503)), t) ∧
    Footprint "ns" "wb" driftedCluster t := by
  have hends : ((plainOperator.reconcile "ns" "wb").run (Shared.alone lostPatch)
      ⟨driftedCluster, []⟩).1 = .error (.failure (.unexpected "connection reset" 503)) := by
    decide +kernel
  rcases hrun : (plainOperator.reconcile "ns" "wb").run (Shared.alone lostPatch)
    ⟨driftedCluster, []⟩ with ⟨x, t⟩
  obtain rfl : x = _ := (congrArg Prod.fst hrun).symm.trans hends
  exact ⟨t, rfl,
    reconcile_footprint plainOperator driftedCluster_sound driftedCluster_proper hrun⟩

end Reconciler

end Workbench
