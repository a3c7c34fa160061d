import Workbench.Proofs.Reconcile.Independent
import Workbench.Proofs.Reconcile.Resumes

/-!
# A reconcile that is tried again

A reconcile may fail at any of its calls, and leave its work half done. When it is tried again, it
reads the notebook once more, which it may have edited itself by then.

* `Notebook.Continues.setUp_eq` and the like: for a notebook that goes on, most steps are the same;
* `Reconciler.Course`: the course of a reconcile that ends well, step by step;
* `Reconciler.Halfway`: what it comes through; `Course.halfway` says so, and `Course.finish` that a
  reconcile comes to the same end from there;
* **`Reconciler.reconcile_retried`**: a reconcile on which a call failed is finished by another one.
-/

namespace Workbench

open Doc Memory Workbench.Action Change Reconcile

/-! ## A notebook that goes on -/

namespace Notebook.Continues

variable {nb nb' : Notebook}

theorem address_eq (h : Continues nb nb') : nb'.address = nb.address := by
  rw [Notebook.address, Notebook.address, h.ns_eq, h.name_eq]

theorem owner_eq (h : Continues nb nb') : nb'.owner = nb.owner := by
  rw [Notebook.owner, Notebook.owner, h.ns_eq, h.name_eq, h.uid_eq]

theorem publish_eq (h : Continues nb nb') : TrustBundle.publish nb' = TrustBundle.publish nb := by
  rw [TrustBundle.publish, TrustBundle.publish, h.ns_eq]

theorem setUp_eq (h : Continues nb nb') (r : Reconciler) : setUp r nb' = setUp r nb := by
  simp only [setUp, policies, grantPipelines, roleBinding, Reconciler.openWayIn, oauth, plainRoute,
    h.address_eq, h.owner_eq, h.ns_eq, h.meshEnabled_eq, h.oauthEnabled_eq]

theorem endHold_eq (h : Continues nb nb') (hlocked : nb'.isLocked = nb.isLocked) :
    endHold nb' = endHold nb := by
  rw [endHold, endHold, release, release, h.address_eq, hlocked]

end Notebook.Continues

/-! ## The edits of the notebook -/

section Edits

variable {nb : Notebook} {ns name : String} {uid : Doc} {m m' : Memory}

theorem withdrawBundle_direct (hnb : nb.IsAt ns name uid) (hproper : nb.isProper = true)
    (isThere : Bool) : ∃ p out, Direct (ObjectAt.notebook ns name) out p ∧ ∀ w : Memory,
      (w.lookup (ObjectAt.bundle ns)).isSome = isThere →
        (withdrawBundle nb).run Memory.host w = p.run Memory.host w ∧
          ∀ u ∈ (withdrawBundle nb).passed w, u ∈ p.passed w := by
  have hplain := ObjectAt.bundle_plain ns
  have hgets : (exists? (ObjectAt.bundle ns)).Gets fun _ => True := Gets.exists? hplain trivial
  suffices hrest : ∃ out, Direct (ObjectAt.notebook ns name) out (if isThere then pure () else do
      if ← nb.usesConfigMap bundleConfigMap then dropBundle nb) by
    obtain ⟨out, hdirect⟩ := hrest
    rw [withdrawBundle_eq hnb]
    refine ⟨_, out, hdirect, fun w hw => ?_⟩
    have hread : ((exists? (ObjectAt.bundle ns)).run Memory.host w).1 = .ok isThere := by
      rw [run_exists? hplain, hw]
    exact ⟨hgets.run_seq hread, hgets.passed_seq hread⟩
  have hpure : Direct (ObjectAt.notebook ns name) (fun kept => (.ok (), kept))
      (pure () : Action Unit) := fun _ _ _ _ _ _ => .pure fun _ => rfl
  cases isThere with
  | true => exact ⟨_, hpure⟩
  | false =>
    rw [if_neg Bool.false_ne_true]
    cases huses : nb.usesConfigMap bundleConfigMap with
    | error f => exact ⟨fun kept => (.error (.fault f), kept), fun _ _ _ _ _ _ => .throw fun _ => rfl⟩
    | ok isUsed =>
      cases isUsed with
      | false => exact ⟨_, hpure⟩
      | true =>
        obtain ⟨out, hdirect, -⟩ := dropBundle_direct hnb hproper huses
        exact ⟨out, hdirect⟩

theorem endHold_direct (hnb : nb.IsAt ns name uid) :
    ∃ out, Direct (ObjectAt.notebook ns name) out (endHold nb) := by
  unfold endHold
  cases nb.isLocked with
  | error f => exact ⟨fun kept => (.error (.fault f), kept), fun _ _ _ _ _ _ => .throw fun _ => rfl⟩
  | ok isLocked =>
    cases isLocked with
    | true => exact ⟨_, release_direct hnb⟩
    | false => exact ⟨fun kept => (.ok (), kept), fun _ _ _ _ _ _ => .pure fun _ => rfl⟩

end Edits

/-! ## The bundle -/

theorem publish_moves {nb : Notebook} {ns : String} {m w : Memory}
    (hns : nb.namespace' = .ok (.str ns)) (hm : m.Sound) (hw : w.Sound)
    (hsources : ∀ a, TrustBundle.IsSource ns a → w.lookup a = m.lookup a)
    (hview : w.view (ObjectAt.bundle ns) = m.view (ObjectAt.bundle ns) ∨
      w.view (ObjectAt.bundle ns) = Reconciler.bundleGoal ns m) :
    (∀ u ∈ (TrustBundle.publish nb).passed w,
        u.Sound ∧ Moves (ObjectAt.bundle ns) (Reconciler.bundleGoal ns m) w u) ∧
      (((TrustBundle.publish nb).run Memory.host w).1,
        ((TrustBundle.publish nb).run Memory.host w).2.view (ObjectAt.bundle ns)) =
          TrustBundle.published ns ((TrustBundle.collect ns).run Memory.host m).1
            (m.view (ObjectAt.bundle ns)) := by
  have hclosed := moves_closed (ObjectAt.bundle ns) (Reconciler.bundleGoal ns m)
  have hsafe : Safe (Within []) (Moves (ObjectAt.bundle ns) (Reconciler.bundleGoal ns m)) _
      (TrustBundle.publish nb) w :=
    TrustBundle.publish_safe hns rfl (fun a _ s t hst => hst a List.not_mem_nil) hsources
      (fun d => hm.hasMetadata_of_view (ObjectAt.bundle_plain ns)) rfl
      (fun s t hst => .inl (hst _ List.not_mem_nil)) (moves_lets _ _) hclosed.refl hview
  exact ⟨Safe.passed (within_closed []).refl hclosed hw hsafe,
    (Safe.run (within_closed []).refl hw hsafe).2⟩

namespace Reconciler

/-! ## The course of a reconcile -/

/-- The course of a reconcile that ends well: `m₁` is the memory once the bundle is published, `m₂`
the one once the notebook does without a bundle that is gone, and `m₃` the one once everything is set
up. -/
structure Course (r : Reconciler) (ns name : String) (nb : Notebook) (m m₁ m₂ m₃ m' : Memory) :
    Prop where
  sound : m.Sound
  lookup : m.lookup (ObjectAt.notebook ns name) = some nb
  isProper : nb.isProper = true
  publish : (TrustBundle.publish nb).run Memory.host m = (.ok (), m₁)
  withdraw : (withdrawBundle nb).run Memory.host m₁ = (.ok (), m₂)
  setUp : (setUp r nb).run Memory.host m₂ = (.ok (), m₃)
  endHold : (endHold nb).run Memory.host m₃ = (.ok (), m')

/-- What a reconcile comes through. -/
structure Halfway (r : Reconciler) (ns name : String) (nb : Notebook) (m m₁ m₂ m' u : Memory) :
    Prop where
  sound : u.Sound
  bundle : u.view (ObjectAt.bundle ns) = m.view (ObjectAt.bundle ns) ∨
    u.view (ObjectAt.bundle ns) = m₁.view (ObjectAt.bundle ns)
  notebook : u.lookup (ObjectAt.notebook ns name) = some nb ∨
    u.view (ObjectAt.notebook ns name) = m₂.view (ObjectAt.notebook ns name) ∨
    u.view (ObjectAt.notebook ns name) = m'.view (ObjectAt.notebook ns name)
  hanging : ∃ v ∈ (Reconcile.setUp r nb).passed m₂, ∀ a ∈ ObjectAt.hanging ns name,
    u.view a = v.view a
  elsewhere : Within (ObjectAt.bundle ns :: ObjectAt.own ns name) m u

variable {r : Reconciler} {ns name : String} {uid : Doc} {nb : Notebook}
  {m m₁ m₂ m₃ m' u : Memory}

theorem steps_eq_setUp (r : Reconciler) (nb : Notebook) : r.steps nb = (do
    TrustBundle.publish nb
    withdrawBundle nb
    Reconcile.setUp r nb
    Reconcile.endHold nb) := by
  rw [steps_eq]
  simp only [Reconcile.setUp, LawfulMonad.bind_assoc]

theorem course_of_run (hm : m.Sound) (hnb : m.lookup (ObjectAt.notebook ns name) = some nb)
    (hproper : nb.isProper = true) (hrun : (r.steps nb).run Memory.host m = (.ok (), m')) :
    ∃ m₁ m₂ m₃, Course r ns name nb m m₁ m₂ m₃ m' := by
  rw [steps_eq_setUp] at hrun
  obtain ⟨⟨⟩, m₁, hpublish, hrun⟩ := run_seq_eq_ok_iff.mp hrun
  obtain ⟨⟨⟩, m₂, hwithdraw, hrun⟩ := run_seq_eq_ok_iff.mp hrun
  obtain ⟨⟨⟩, m₃, hsetUp, hend⟩ := run_seq_eq_ok_iff.mp hrun
  exact ⟨m₁, m₂, m₃, hm, hnb, hproper, hpublish, hwithdraw, hsetUp, hend⟩

/-- What is known while the notebook is set up: whether the role for pipelines is there. -/
def RoleAsIn (ns : String) (m t : Memory) : Prop :=
  (t.lookup (ObjectAt.role ns)).isSome = (m.lookup (ObjectAt.role ns)).isSome

theorem RoleAsIn.within {own : List Address} {s t : Memory} (hst : Within own s t)
    (hown : ObjectAt.role ns ∉ own) (hs : RoleAsIn ns m s) : RoleAsIn ns m t := by
  rw [RoleAsIn, hst _ hown]
  exact hs

theorem setUp_resumes (hnb : nb.IsAt ns name uid) :
    Resumes (ObjectAt.hanging ns name) (RoleAsIn ns m) (Reconcile.setUp r nb) := by
  refine Resumes.setUp (fun s t hst => RoleAsIn.within hst fun h => ?_) r hnb fun _ ht => ht
  exact ObjectAt.role_not_mem_own (List.mem_cons_of_mem _ h)

namespace Course

variable (h : Course r ns name nb m m₁ m₂ m₃ m') (hnb : nb.IsAt ns name uid)

include h

theorem sound₁ : m₁.Sound := h.sound.of_run h.publish

theorem sound₂ : m₂.Sound := h.sound₁.of_run h.withdraw

theorem sound₃ : m₃.Sound := h.sound₂.of_run h.setUp

include hnb

theorem published_eq : TrustBundle.published ns ((TrustBundle.collect ns).run Memory.host m).1
    (m.view (ObjectAt.bundle ns)) = (.ok (), m₁.view (ObjectAt.bundle ns)) := by
  have hrun := (publish_moves hnb.ns_eq h.sound h.sound (fun _ _ => rfl) (.inl rfl)).2
  rw [h.publish] at hrun
  exact hrun.symm

theorem publish_passed : ∀ u ∈ (TrustBundle.publish nb).passed m,
    u.Sound ∧ Moves (ObjectAt.bundle ns) (m₁.view (ObjectAt.bundle ns)) m u := by
  have hpassed := (publish_moves hnb.ns_eq h.sound h.sound (fun _ _ => rfl) (.inl rfl)).1
  rwa [bundleGoal, h.published_eq hnb] at hpassed

theorem publish_within : Within [ObjectAt.bundle ns] m m₁ :=
  (h.publish_passed hnb m₁ (mem_passed_of_run h.publish)).2.1

theorem lookup₁ : m₁.lookup (ObjectAt.notebook ns name) = some nb := by
  rw [h.publish_within hnb _ (ObjectAt.not_mem_of_kind (by simp)), h.lookup]

theorem withdraw_passed : ∀ u ∈ (withdrawBundle nb).passed m₁,
    u.Sound ∧ Moves (ObjectAt.notebook ns name) (m₂.view (ObjectAt.notebook ns name)) m₁ u := by
  obtain ⟨p, out, hdirect, hsame⟩ := withdrawBundle_direct hnb h.isProper
    (m₁.lookup (ObjectAt.bundle ns)).isSome
  obtain ⟨hrun, hpassed⟩ := hsame m₁ rfl
  obtain ⟨-, hout, -⟩ := hdirect.local.run h.sound₁ (hrun.symm.trans h.withdraw)
  intro u hu
  have hmoves := hdirect.passed h.sound₁ u (hpassed u hu)
  rwa [← hout] at hmoves

theorem withdraw_within : Within [ObjectAt.notebook ns name] m₁ m₂ :=
  (h.withdraw_passed hnb m₂ (mem_passed_of_run h.withdraw)).2.1

theorem role₂ : RoleAsIn ns m m₂ :=
  RoleAsIn.within (h.withdraw_within hnb) (ObjectAt.not_mem_of_kind (by simp))
    (RoleAsIn.within (h.publish_within hnb) (ObjectAt.not_mem_of_kind (by simp)) rfl)

theorem setUp_passed : ∀ u ∈ (Reconcile.setUp r nb).passed m₂,
    u.Sound ∧ Within (ObjectAt.hanging ns name) m₂ u :=
  fun u hu => ⟨sound_of_mem_passed h.sound₂ hu,
    (setUp_resumes hnb h.sound₂ (h.role₂ hnb) h.setUp u hu).1⟩

theorem setUp_within : Within (ObjectAt.hanging ns name) m₂ m₃ :=
  (h.setUp_passed hnb m₃ (mem_passed_of_run h.setUp)).2

theorem endHold_passed : ∀ u ∈ (Reconcile.endHold nb).passed m₃,
    u.Sound ∧ Moves (ObjectAt.notebook ns name) (m'.view (ObjectAt.notebook ns name)) m₃ u := by
  obtain ⟨out, hdirect⟩ := endHold_direct hnb
  obtain ⟨-, hout, -⟩ := hdirect.local.run h.sound₃ h.endHold
  intro u hu
  have hmoves := hdirect.passed h.sound₃ u hu
  rwa [← hout] at hmoves

theorem endHold_within : Within [ObjectAt.notebook ns name] m₃ m' :=
  (h.endHold_passed hnb m' (mem_passed_of_run h.endHold)).2.1

theorem hanging₂ : ∀ b ∈ ObjectAt.hanging ns name, m₂.view b = m.view b := by
  intro b hb
  obtain ⟨hne, hne'⟩ : b ≠ ObjectAt.notebook ns name ∧ b ≠ ObjectAt.bundle ns :=
    ObjectAt.ne_of_mem_hanging hb
  rw [(h.withdraw_within hnb).view (by simpa using hne),
    (h.publish_within hnb).view (by simpa using hne')]

/-- Every memory that a reconcile comes through is halfway. -/
theorem halfway : ∀ u ∈ (r.steps nb).passed m, Halfway r ns name nb m m₁ m₂ m' u := by
  have hwithin₁ := h.publish_within hnb
  have hwithin₂ := hwithin₁.trans (h.withdraw_within hnb)
  have hwithin₃ := hwithin₂.trans (h.setUp_within hnb)
  have hnotebook : ObjectAt.bundle ns ∉ [ObjectAt.notebook ns name] :=
    ObjectAt.not_mem_of_kind (by simp)
  have hbundle₂ := (h.withdraw_within hnb).view hnotebook
  have hhanging : ObjectAt.bundle ns ∉ ObjectAt.hanging ns name := ObjectAt.bundle_not_mem_hanging
  have hbundle₃ := (h.setUp_within hnb).view hhanging
  intro u hu
  rw [steps_eq_setUp, mem_passed_seq] at hu
  rcases hu with hu | ⟨⟨⟩, t, ht, hu⟩
  · obtain ⟨hsound, hwithin, hmoves⟩ := h.publish_passed hnb u hu
    refine ⟨hsound, hmoves.imp_left view_congr, ?_, ⟨m₂, start_mem_passed _ _, fun b hb => ?_⟩,
      hwithin.mono (by simp)⟩
    · exact .inl ((hwithin _ (ObjectAt.not_mem_of_kind (by simp))).trans h.lookup)
    · rw [h.hanging₂ hnb b hb, hwithin.view (by simpa using (ObjectAt.ne_of_mem_hanging hb).2)]
  rw [h.publish, Prod.mk.injEq] at ht
  obtain ⟨-, rfl⟩ := ht
  rcases mem_passed_seq.mp hu with hu | ⟨⟨⟩, t, ht, hu⟩
  · obtain ⟨hsound, hwithin, hmoves⟩ := h.withdraw_passed hnb u hu
    refine ⟨hsound, .inr (hwithin.view hnotebook), ?_, ⟨m₂, start_mem_passed _ _, fun b hb => ?_⟩,
      (hwithin₁.trans hwithin).mono (by simp [ObjectAt.own])⟩
    · exact hmoves.imp (fun hsame => hsame.trans (h.lookup₁ hnb)) .inl
    · have hne := (ObjectAt.notebook_ne_of_mem_hanging hb).symm
      rw [hwithin.view (by simpa using hne), (h.withdraw_within hnb).view (by simpa using hne)]
  rw [h.withdraw, Prod.mk.injEq] at ht
  obtain ⟨-, rfl⟩ := ht
  rcases mem_passed_seq.mp hu with hu | ⟨⟨⟩, t, ht, hu⟩
  · obtain ⟨hsound, hwithin⟩ := h.setUp_passed hnb u hu
    refine ⟨hsound, .inr ?_, .inr (.inl (hwithin.view ObjectAt.notebook_not_mem_hanging)),
      ⟨u, hu, fun _ _ => rfl⟩, (hwithin₂.trans hwithin).mono ?_⟩
    · rw [hwithin.view ObjectAt.bundle_not_mem_hanging, hbundle₂]
    · simp [ObjectAt.own_eq]
  rw [h.setUp, Prod.mk.injEq] at ht
  obtain ⟨-, rfl⟩ := ht
  obtain ⟨hsound, hwithin, hmoves⟩ := h.endHold_passed hnb u hu
  refine ⟨hsound, .inr ?_, .inr (hmoves.imp_left fun hsame => ?_),
    ⟨m₃, mem_passed_of_run h.setUp, fun b hb => ?_⟩, (hwithin₃.trans hwithin).mono ?_⟩
  · rw [hwithin.view hnotebook, hbundle₃, hbundle₂]
  · rw [view_congr hsame, (h.setUp_within hnb).view ObjectAt.notebook_not_mem_hanging]
  · rw [hwithin.view (by simpa using (ObjectAt.notebook_ne_of_mem_hanging hb).symm)]
  · simpa [ObjectAt.own_eq] using fun a ha => .inr (Or.symm ha)

theorem withdraw_again {w : Memory} (hw : w.Sound)
    (hlookup : w.lookup (ObjectAt.notebook ns name) = some nb)
    (hbundle : w.view (ObjectAt.bundle ns) = m₁.view (ObjectAt.bundle ns)) :
    ∃ w', (withdrawBundle nb).run Memory.host w = (.ok (), w') ∧
      Within [ObjectAt.notebook ns name] w w' ∧
      w'.view (ObjectAt.notebook ns name) = m₂.view (ObjectAt.notebook ns name) := by
  obtain ⟨p, out, hdirect, hsame⟩ := withdrawBundle_direct hnb h.isProper
    (m₁.lookup (ObjectAt.bundle ns)).isSome
  obtain ⟨-, hout, -⟩ := hdirect.local.run h.sound₁ ((hsame m₁ rfl).1.symm.trans h.withdraw)
  have hthere : (w.lookup (ObjectAt.bundle ns)).isSome = (m₁.lookup (ObjectAt.bundle ns)).isSome := by
    rw [← Option.isSome_map (f := Doc.unversioned), ← Memory.view, hbundle, Memory.view,
      Option.isSome_map]
  obtain ⟨-, hout', hwithin⟩ := hdirect.local.run hw rfl
  rw [view_of_lookup hlookup, ← view_of_lookup (h.lookup₁ hnb), ← hout, Prod.mk.injEq] at hout'
  exact ⟨_, ((hsame w hthere).1).trans (Prod.ext hout'.1 rfl), hwithin, hout'.2⟩

theorem endHold_again {v : Memory} (hv : v.Sound)
    (hview : v.view (ObjectAt.notebook ns name) = m₂.view (ObjectAt.notebook ns name)) :
    ∃ v', (Reconcile.endHold nb).run Memory.host v = (.ok (), v') ∧
      Within [ObjectAt.notebook ns name] v v' ∧
      v'.view (ObjectAt.notebook ns name) = m'.view (ObjectAt.notebook ns name) := by
  obtain ⟨out, hdirect⟩ := endHold_direct hnb
  obtain ⟨-, hout, -⟩ := hdirect.local.run h.sound₃ h.endHold
  obtain ⟨-, hout', hwithin⟩ := hdirect.local.run hv rfl
  rw [hview, ← (h.setUp_within hnb).view ObjectAt.notebook_not_mem_hanging, ← hout,
    Prod.mk.injEq] at hout'
  exact ⟨_, Prod.ext hout'.1 rfl, hwithin, hout'.2⟩

omit h hnb in
theorem exists_of_view {u : Memory} {e : Doc} (hu : u.Sound)
    (hview : u.view (ObjectAt.notebook ns name) = some e) (hcontinues : Notebook.Continues nb e) :
    ∃ nb', u.lookup (ObjectAt.notebook ns name) = some nb' ∧ nb'.unversioned = e ∧
      Notebook.Continues nb nb' ∧ Notebook.isLocked nb' = Notebook.isLocked e ∧
      ∀ source, Notebook.usesConfigMap nb' source = Notebook.usesConfigMap e source := by
  obtain ⟨nb', hnb', hmeta, rfl⟩ := hu.lookup_of_view (ObjectAt.notebook_plain ns name) hview
  exact ⟨nb', hnb', rfl, hcontinues.trans (Notebook.continues_unversioned hmeta).symm,
    (Notebook.isLocked_unversioned hmeta).symm,
    fun source => (Notebook.usesConfigMap_of_sameBut hmeta.sameBut source).symm⟩

theorem notebook_rejoins (hu : Halfway r ns name nb m m₁ m₂ m' u) :
    ∃ nb', u.lookup (ObjectAt.notebook ns name) = some nb' ∧ Notebook.Continues nb nb' ∧
      ∀ w : Memory, w.Sound → w.lookup (ObjectAt.notebook ns name) = some nb' →
        w.view (ObjectAt.bundle ns) = m₁.view (ObjectAt.bundle ns) →
        ∃ w', (withdrawBundle nb').run Memory.host w = (.ok (), w') ∧
          Within [ObjectAt.notebook ns name] w w' ∧ ∀ v : Memory, v.Sound →
            v.view (ObjectAt.notebook ns name) = w'.view (ObjectAt.notebook ns name) →
            ∃ v', (Reconcile.endHold nb').run Memory.host v = (.ok (), v') ∧
              Within [ObjectAt.notebook ns name] v v' ∧
              v'.view (ObjectAt.notebook ns name) = m'.view (ObjectAt.notebook ns name) := by
  have hplain := ObjectAt.notebook_plain ns name
  obtain ⟨-, -, d, hd, hsame, hgone⟩ :=
    withdrawBundle_run hnb h.isProper h.sound₁ (h.lookup₁ hnb) h.withdraw
  have hd₃ := ((h.setUp_within hnb).view ObjectAt.notebook_not_mem_hanging).trans hd
  obtain ⟨hm', -, nb₃, hnb₃, hcontinues₃, hfree, huses₃⟩ :=
    endHold_run hnb h.sound₃ hd₃ hsame h.endHold
  have hbundle₂ : ∀ w : Memory, w.view (ObjectAt.bundle ns) = m₁.view (ObjectAt.bundle ns) →
      w.lookup (ObjectAt.bundle ns) = none → m₂.lookup (ObjectAt.bundle ns) = none := by
    intro w hw hnone
    rw [Memory.view, hnone, Option.map_none, ← (h.withdraw_within hnb).view
      (ObjectAt.not_mem_of_kind (by simp)), Memory.view] at hw
    exact Option.map_eq_none_iff.mp hw.symm
  -- A notebook that was edited already is not edited again.
  have hedited : ∀ {nb'}, Notebook.Continues nb nb' →
      (∀ source, nb'.usesConfigMap source = Notebook.usesConfigMap d source) → ∀ w : Memory,
        w.view (ObjectAt.bundle ns) = m₁.view (ObjectAt.bundle ns) →
          (withdrawBundle nb').run Memory.host w = (.ok (), w) :=
    fun hcontinues huses w hbundle => (OnlyReads.withdrawBundle (hcontinues.isAt hnb)
      fun hnone => (huses _).trans (hgone (hbundle₂ w hbundle hnone))).run
  have hrefl := (within_closed [ObjectAt.notebook ns name]).refl
  rcases hu.notebook with hlookup | hview | hview
  · refine ⟨nb, hlookup, .refl nb, fun w hw hlookup' hbundle => ?_⟩
    obtain ⟨w', hrun, hwithin, hview⟩ := h.withdraw_again hnb hw hlookup' hbundle
    exact ⟨w', hrun, hwithin, fun v hv hv' => h.endHold_again hnb hv (hv'.trans hview)⟩
  · have hcontinues : Notebook.Continues nb d :=
      (Notebook.continues_unversioned hnb.hasMetadata).trans (Notebook.continues_of_sameBut hsame)
    obtain ⟨nb', hnb', heq, hcontinues', hlocked, huses⟩ :=
      exists_of_view hu.sound (hview.trans hd) hcontinues
    have hlocked' : Notebook.isLocked nb' = nb.isLocked := by
      rw [hlocked, Notebook.isLocked_of_sameBut hsame, Notebook.isLocked_unversioned hnb.hasMetadata]
    refine ⟨nb', hnb', hcontinues', fun w hw hlookup' hbundle =>
      ⟨w, hedited hcontinues' huses w hbundle, hrefl w, fun v hv hv' => ?_⟩⟩
    rw [hcontinues'.endHold_eq hlocked']
    exact h.endHold_again hnb hv (by rw [hv', view_of_lookup hlookup', heq, hd])
  · have hmeta₃ := hasMetadata_of_addressOf (hm'.addressOf_eq hplain hnb₃)
    obtain ⟨nb', hnb', heq, hcontinues, hlocked, huses⟩ := exists_of_view hu.sound
      (hview.trans (view_of_lookup hnb₃))
      (hcontinues₃.trans (Notebook.continues_unversioned hmeta₃))
    have hfree' : Notebook.isLocked nb' = .ok false := by
      rw [hlocked, Notebook.isLocked_unversioned hmeta₃, hfree]
    have huses' : ∀ source, Notebook.usesConfigMap nb' source = Notebook.usesConfigMap d source :=
      fun source => by rw [huses, ← huses₃, Notebook.usesConfigMap_of_sameBut hmeta₃.sameBut]
    refine ⟨nb', hnb', hcontinues, fun w hw hlookup' hbundle =>
      ⟨w, hedited hcontinues huses' w hbundle, hrefl w, fun v hv hv' => ⟨v, ?_, hrefl v, ?_⟩⟩⟩
    · exact ((OnlyReads.liftM_fault hfree').seq (OnlyReads.pure ())).run
    · rw [hv', view_of_lookup hlookup', heq, view_of_lookup hnb₃]

theorem view_eq {t : Memory} (hwithin : Within (ObjectAt.bundle ns :: ObjectAt.own ns name) m t)
    (hbundle : t.view (ObjectAt.bundle ns) = m₁.view (ObjectAt.bundle ns))
    (hnotebook : t.view (ObjectAt.notebook ns name) = m'.view (ObjectAt.notebook ns name))
    (hhanging : ∀ a ∈ ObjectAt.hanging ns name, t.view a = m₃.view a) (a : Address) :
    t.view a = m'.view a := by
  have hend := h.endHold_within hnb
  by_cases ha : a ∈ ObjectAt.hanging ns name
  · rw [hhanging a ha, hend.view (by simpa using (ObjectAt.notebook_ne_of_mem_hanging ha).symm)]
  by_cases ha' : a = ObjectAt.notebook ns name
  · rw [ha', hnotebook]
  rw [hend.view (by simpa using ha'), (h.setUp_within hnb).view ha,
    (h.withdraw_within hnb).view (by simpa using ha')]
  by_cases hb : a = ObjectAt.bundle ns
  · rw [hb, hbundle]
  · rw [hwithin.view (by simp [ObjectAt.own_eq, ha, ha', hb]),
      (h.publish_within hnb).view (by simpa using hb)]

/-- **A reconcile comes to the same end from halfway.** -/
theorem finish (hu : Halfway r ns name nb m m₁ m₂ m' u) :
    ∃ t, (r.reconcile ns name).run Memory.host u = (.ok (), t) ∧ ∀ a, t.view a = m'.view a := by
  obtain ⟨nb', hnb', hcontinues, hedits⟩ := h.notebook_rejoins hnb hu
  obtain ⟨v, hv, hviews⟩ := hu.hanging
  -- The bundle.
  have hsources : ∀ a, TrustBundle.IsSource ns a → u.lookup a = m.lookup a := by
    refine fun a ha => hu.elsewhere a fun hmem => ?_
    rcases List.mem_cons.mp hmem with hb | hown
    · exact ha.ne_bundle hb
    · exact (ObjectAt.kind_of_mem_own hown).1 ha.kind_eq
  have hgoal : bundleGoal ns m = m₁.view (ObjectAt.bundle ns) :=
    congrArg Prod.snd (h.published_eq hnb)
  obtain ⟨hpassed, hpublish⟩ :=
    publish_moves hnb.ns_eq h.sound hu.sound hsources (hgoal ▸ hu.bundle)
  cases hrun₁ : (TrustBundle.publish nb).run Memory.host u with
  | mk x u₁ =>
    rw [hrun₁, h.published_eq hnb, Prod.mk.injEq] at hpublish
    obtain ⟨rfl, hbundle₁⟩ := hpublish
    have hu₁ := hu.sound.of_run hrun₁
    have hwithin₁ := (hpassed u₁ (mem_passed_of_run hrun₁)).2.1
    -- The notebook without a bundle that is gone.
    obtain ⟨u₂, hrun₂, hwithin₂, hend⟩ := hedits u₁ hu₁
      (by rw [hwithin₁ _ (ObjectAt.not_mem_of_kind (by simp)), hnb']) hbundle₁
    have hu₂ := hu₁.of_run hrun₂
    -- What hangs off the notebook.
    have hviews₂ : ∀ a ∈ ObjectAt.hanging ns name, u₂.view a = v.view a := by
      intro a ha
      obtain ⟨hne, hne'⟩ : a ≠ ObjectAt.notebook ns name ∧ a ≠ ObjectAt.bundle ns :=
        ObjectAt.ne_of_mem_hanging ha
      rw [hwithin₂.view (by simpa using hne), hwithin₁.view (by simpa using hne'), hviews a ha]
    have hrole : RoleAsIn ns m u₂ :=
      .within hwithin₂ (ObjectAt.not_mem_of_kind (by simp))
        (.within hwithin₁ (ObjectAt.not_mem_of_kind (by simp))
          (.within hu.elsewhere ObjectAt.role_not_mem_written rfl))
    obtain ⟨u₃, hrun₃, hwithin₃, hviews₃⟩ :=
      (setUp_resumes hnb h.sound₂ (h.role₂ hnb) h.setUp v hv).2 u₂ hu₂ hrole hviews₂
    -- The end of the hold.
    obtain ⟨t, hrun₄, hwithin₄, hnotebook⟩ := hend u₃ (hu₂.of_run hrun₃)
      (hwithin₃.view ObjectAt.notebook_not_mem_hanging)
    refine ⟨t, ?_, h.view_eq hnb ?_ ?_ hnotebook fun a ha => ?_⟩
    · have hfind := run_find? (m := u) (ObjectAt.notebook_plain ns name)
      rw [hnb'] at hfind
      refine run_seq_eq_ok_iff.mpr ⟨_, _, hfind, ?_⟩
      dsimp only
      rw [steps_eq_setUp, hcontinues.publish_eq, hcontinues.setUp_eq]
      exact run_seq_eq_ok_iff.mpr ⟨(), u₁, hrun₁, run_seq_eq_ok_iff.mpr ⟨(), u₂, hrun₂,
        run_seq_eq_ok_iff.mpr ⟨(), u₃, hrun₃, hrun₄⟩⟩⟩
    · have hwithin := hwithin₁.trans (hwithin₂.trans (hwithin₃.trans hwithin₄))
      refine (within_closed _).trans hu.elsewhere (hwithin.mono ?_)
      simp only [ObjectAt.own_eq, List.mem_append, List.mem_cons, List.not_mem_nil, or_false]
      tauto
    · rw [hwithin₄.view (ObjectAt.not_mem_of_kind (by simp)),
        hwithin₃.view ObjectAt.bundle_not_mem_hanging,
        hwithin₂.view (ObjectAt.not_mem_of_kind (by simp)), hbundle₁]
    · rw [hwithin₄.view (by simpa using (ObjectAt.notebook_ne_of_mem_hanging ha).symm),
        hviews₃ a ha]

end Course

theorem steps_interruptible {e : Trouble} (he : e.interrupts = true) (hnb : nb.IsAt ns name uid) :
    Interruptible e (r.steps nb) := by
  have hcut : ∀ (_ : Option Call) (t : Trouble), t = e → t.interrupts = true := fun _ _ ht => ht ▸ he
  rw [steps_eq]
  exact (GivesUpOn.publish hcut nb).interruptible.seq fun _ =>
    (GivesUpOn.withdrawBundle hcut nb).interruptible.seq fun _ =>
      (GivesUpOn.policies hcut nb _).interruptible.seq fun _ =>
        (GivesUpOn.grantPipelines hcut r nb).interruptible.seq fun _ =>
          (GivesUpOn.openWayIn hcut r nb).interruptible.seq fun _ => Interruptible.endHold hnb he

theorem passed_of_failing {e : Trouble} {k n n' : Nat} {x : Except Trouble Unit} (hm : m.Sound)
    (he : e.interrupts = true)
    (hrun : (r.reconcile ns name).run (Memory.host.failing k e) (n, m) = (x, n', u)) :
    u ∈ (r.reconcile ns name).passed m := by
  rcases run_failing hrun with h | h
  · have hcut : ∀ (_ : Option Call) (t : Trouble), t = e → t.interrupts = true :=
      fun _ _ ht => ht ▸ he
    have hlook : Interruptible e (find? (ObjectAt.notebook ns name)) :=
      GivesUpOn.interruptible (.find?_of_interrupts hcut _)
    have hend := hlook.seq_from hm (fun found t hfind => by
      rw [run_find? (ObjectAt.notebook_plain ns name), Prod.mk.injEq,
        Except.ok.injEq] at hfind
      obtain ⟨rfl, rfl⟩ := hfind
      cases hnb : m.lookup (ObjectAt.notebook ns name) with
      | none => exact (GivesUpOn.pure ()).interruptible
      | some nb =>
        obtain ⟨uid, hat⟩ := Notebook.isAt_of_lookup hm hnb
        exact steps_interruptible he hat) h
    rcases hend with ⟨-, hu⟩ | h
    · exact hu
    · exact mem_passed_of_run h
  · exact mem_passed_of_run h

/-- **A reconcile on which a call fails is finished by another one**, whichever call it is: that one
ends well, and leaves what an undisturbed reconcile leaves, versions aside. -/
theorem reconcile_retried (r : Reconciler) {ns name : String} {m m' : Memory} {e : Trouble}
    (hm : m.Sound)
    (hproper : ∀ nb, m.lookup (ObjectAt.notebook ns name) = some nb → nb.isProper = true)
    (hrun : (r.reconcile ns name).run Memory.host m = (.ok (), m')) (he : e.interrupts = true)
    (k : Nat) :
    ∃ t, (r.reconcile ns name).run Memory.host
        ((r.reconcile ns name).run (Memory.host.failing k e) (0, m)).2.2 = (.ok (), t) ∧
      ∀ a, t.view a = m'.view a := by
  have hplain := ObjectAt.notebook_plain ns name
  have hfind := run_find? (m := m) hplain
  generalize hfailed : (r.reconcile ns name).run (Memory.host.failing k e) (0, m) = ended
  obtain ⟨x, n, u⟩ := ended
  have hu := passed_of_failing hm he hfailed
  obtain ⟨found, m₀, hfound, hsteps⟩ := run_seq_eq_ok_iff.mp hrun
  rw [← ObjectAt.notebook, hfind, Prod.mk.injEq, Except.ok.injEq] at hfound
  obtain ⟨rfl, rfl⟩ := hfound
  rcases mem_passed_seq.mp hu with hu | ⟨found, t, ht, hu⟩
  · have hgets : (find? (ObjectAt.notebook ns name)).Gets fun _ => True := Gets.find? hplain trivial
    rw [hgets.passed u hu]
    exact ⟨m', hrun, fun _ => rfl⟩
  · rw [← ObjectAt.notebook, hfind, Prod.mk.injEq, Except.ok.injEq] at ht
    obtain ⟨rfl, rfl⟩ := ht
    cases hnb : m.lookup (ObjectAt.notebook ns name) with
    | none =>
      rw [hnb] at hu
      rw [List.mem_singleton.mp hu]
      exact ⟨m', hrun, fun _ => rfl⟩
    | some nb =>
      rw [hnb] at hu hsteps
      obtain ⟨uid, hat⟩ := Notebook.isAt_of_lookup hm hnb
      obtain ⟨m₁, m₂, m₃, hcourse⟩ := course_of_run hm hnb (hproper nb hnb) hsteps
      exact hcourse.finish hat (hcourse.halfway hat u hu)

/-- A reconcile that is cancelled just as it puts the route right is finished by another one. -/
theorem driftedCluster_retried :
    ∃ t, (plainOperator.reconcile "ns" "wb").run Memory.host
        ((plainOperator.reconcile "ns" "wb").run
          (Memory.host.failing 9 (.failure (.cancelled "stop"))) (0, driftedCluster)).2.2 =
            (.ok (), t) ∧
      ∀ a, t.view a =
        ((plainOperator.reconcile "ns" "wb").run Memory.host driftedCluster).2.view a := by
  exact reconcile_retried plainOperator driftedCluster_sound driftedCluster_proper
    (Prod.fst_eq_iff.mp run_driftedCluster) (by decide) 9

end Reconciler

end Workbench
