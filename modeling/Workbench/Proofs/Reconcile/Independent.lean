import Workbench.Proofs.Reconcile.Steps
import Workbench.Proofs.TrustBundle.Publish
import Workbench.Proofs.TrustBundle.Readable

/-!
# Two reconciles at once

The reconciles of two notebooks share the merged bundle of their namespace, and nothing else that
either of them writes. Both bring the bundle to one goal, which depends on what nobody writes, so each
ends as it would have ended alone.

* `Reconciler.rest_determined`: after the bundle, a reconcile is determined by what belongs to its
  notebook;
* `Reconciler.Others`, `Reconciler.Own`: what a reconcile relies on, and what it does;
* `reconcile_among`: the end of a reconcile among others;
* `interleaved_agree`: two orders of the calls have one outcome;
* **`Reconciler.reconciles_independent`**: each reconcile ends as on its own, and together they leave
  what they leave one after the other;
* `Reconciler.reconciles_race`: two reconciles of a namespace may both come to make its bundle.
-/

namespace Workbench

open Doc Memory Workbench.Action Certificate Change Reconcile

/-! ## What follows the bundle -/

section Rest

variable {rely : Change} {known : Memory → Prop} {ns name : String} {uid : Doc} {nb : Notebook}
  {goal : Option Doc} {hasRole : Bool} (hown : Owned rely (ObjectAt.own ns name) known)

include hown

theorem createMissing_determined : ∀ {ds : List Doc} {as : List Address},
    ds.map addressOf = as.map .ok → (∀ a ∈ as, a.IsPlain ∧ a ∈ ObjectAt.own ns name) →
      Determined rely (ObjectAt.own ns name) known (createMissing ds)
  | [], _, _, _ => Determined.pure ()
  | _ :: _, [], h, _ => by cases h
  | d :: ds, a :: as, h, has => by
    obtain ⟨hd, hds⟩ := List.cons.inj h
    obtain ⟨hplain, ha⟩ := has a List.mem_cons_self
    exact ((makeIfMissing_local hplain hd).discard.determined hown ha).seq fun _ =>
      createMissing_determined hds fun b hb => has b (List.mem_cons_of_mem _ hb)

theorem withdrawBundle_determined (hnb : nb.IsAt ns name uid) (hproper : nb.isProper = true)
    (hbundle : ∀ m, known m → m.view (ObjectAt.bundle ns) = goal) :
    Determined rely (ObjectAt.own ns name) known (withdrawBundle nb) := by
  have hthere : ∀ m, known m → (m.lookup (ObjectAt.bundle ns)).isSome = goal.isSome :=
    fun m hm => by rw [← hbundle m hm, Memory.view, Option.isSome_map]
  rw [withdrawBundle_eq hnb]
  refine (Determined.exists? hown (ObjectAt.bundle_plain ns) hthere).seq fun isThere => ?_
  cases isThere with
  | true => exact Determined.pure ()
  | false =>
    cases huses : nb.usesConfigMap bundleConfigMap with
    | error f => exact Determined.liftM_fault (.error f)
    | ok isUsed =>
      cases isUsed with
      | false => exact Determined.pure ()
      | true =>
        obtain ⟨out, hlocal, -⟩ := dropBundle_direct hnb hproper huses
        exact hlocal.local.determined hown (by simp [ObjectAt.own])

theorem policies_determined (hnb : nb.IsAt ns name uid) (operatorNamespace : String) :
    Determined rely (ObjectAt.own ns name) known (policies nb operatorNamespace) := by
  rw [policies_eq hnb]
  refine ((converge_local (Aspect.policy_settles rfl _)).discard.determined hown
    (a := ObjectAt.notebookPolicy ns name) (by simp [ObjectAt.own])).seq fun _ =>
      (Determined.liftM_fault _).seq fun isMesh => ?_
  cases isMesh with
  | true => exact Determined.pure ()
  | false =>
    exact (converge_local (Aspect.policy_settles rfl _)).discard.determined hown
      (a := ObjectAt.oauthPolicy ns name) (by simp [ObjectAt.own])

theorem grantPipelines_determined (r : Reconciler) (hnb : nb.IsAt ns name uid)
    (hrole : ∀ m, known m → (m.lookup (ObjectAt.role ns)).isSome = hasRole) :
    Determined rely (ObjectAt.own ns name) known (grantPipelines r nb) := by
  unfold grantPipelines
  cases r.settings.pipelineAccess with
  | false => exact Determined.pure ()
  | true =>
    rw [if_pos rfl, roleBinding_eq hnb]
    refine (Determined.exists? hown (ObjectAt.role_plain ns) hrole).seq fun isThere => ?_
    cases isThere with
    | true => exact (bindAccount_local _ rfl rfl).determined hown (by simp [ObjectAt.own])
    | false => exact Determined.pure ()

theorem openWayIn_determined (r : Reconciler) (hnb : nb.IsAt ns name uid) :
    Determined rely (ObjectAt.own ns name) known (r.openWayIn nb) := by
  refine (Determined.liftM_fault _).seq fun isMesh => ?_
  cases isMesh with
  | true => exact Determined.pure ()
  | false =>
    refine (Determined.liftM_fault _).seq fun isOAuth => ?_
    cases isOAuth with
    | true =>
      rw [if_pos rfl, oauth_eq hnb]
      exact createMissing_determined hown (addressOf_oauthObjects ns name uid _) fun a ha =>
        ⟨ObjectAt.signIn_plain ns name a ha, List.mem_append_right _ ha⟩
    | false =>
      rw [if_neg Bool.false_ne_true, plainRoute_eq hnb]
      exact (converge_local (Aspect.route_settles rfl rfl _ _ _)).discard.determined hown
        (a := ObjectAt.route ns name) (by simp [ObjectAt.own, ObjectAt.signIn])

theorem endHold_determined (hnb : nb.IsAt ns name uid) :
    Determined rely (ObjectAt.own ns name) known (endHold nb) := by
  refine (Determined.liftM_fault _).seq fun isLocked => ?_
  cases isLocked with
  | true => exact (release_local hnb).determined hown (by simp [ObjectAt.own])
  | false => exact Determined.pure ()

/-- What follows the bundle is determined by what belongs to the notebook. -/
theorem rest_determined (r : Reconciler) (hnb : nb.IsAt ns name uid) (hproper : nb.isProper = true)
    (hbundle : ∀ m, known m → m.view (ObjectAt.bundle ns) = goal)
    (hrole : ∀ m, known m → (m.lookup (ObjectAt.role ns)).isSome = hasRole) :
    Determined rely (ObjectAt.own ns name) known (do
      withdrawBundle nb
      policies nb r.settings.ns
      grantPipelines r nb
      r.openWayIn nb
      endHold nb) :=
  (withdrawBundle_determined hown hnb hproper hbundle).seq fun _ =>
    (policies_determined hown hnb _).seq fun _ =>
      (grantPipelines_determined hown r hnb hrole).seq fun _ =>
        (openWayIn_determined hown r hnb).seq fun _ => endHold_determined hown hnb

end Rest

/-! ## One reconcile among others -/

namespace Reconciler

/-- What a reconcile relies on: others leave alone what belongs to its notebook, where the
certificates come from, and the role, and bring the bundle to its goal if they write it. -/
structure Others (ns name : String) (goal : Option Doc) (s t : Memory) : Prop where
  own : ∀ a ∈ ObjectAt.own ns name, t.lookup a = s.lookup a
  sources : ∀ a, TrustBundle.IsSource ns a → t.lookup a = s.lookup a
  role : t.lookup (ObjectAt.role ns) = s.lookup (ObjectAt.role ns)
  bundle : t.lookup (ObjectAt.bundle ns) = s.lookup (ObjectAt.bundle ns) ∨
    t.view (ObjectAt.bundle ns) = goal

/-- What a reconcile does: it writes what belongs to its notebook, and brings the bundle to its goal
if `publishes`. -/
structure Own (ns name : String) (publishes : Prop) (goal : Option Doc) (s t : Memory) : Prop where
  elsewhere : ∀ a, a ∉ ObjectAt.own ns name → a ≠ ObjectAt.bundle ns → t.lookup a = s.lookup a
  bundle : t.lookup (ObjectAt.bundle ns) = s.lookup (ObjectAt.bundle ns) ∨
    publishes ∧ t.view (ObjectAt.bundle ns) = goal

variable {ns name ns' name' : String} {publishes : Prop} {goal : Option Doc} {s t u : Memory}

theorem others_closed : Change.Closed (Others ns name goal) where
  refl _ := ⟨fun _ _ => rfl, fun _ _ => rfl, rfl, .inl rfl⟩
  trans h h' := {
    own := fun a ha => (h'.own a ha).trans (h.own a ha)
    sources := fun a ha => (h'.sources a ha).trans (h.sources a ha)
    role := h'.role.trans h.role
    bundle := by
      rcases h'.bundle with hsame | hgoal
      · rw [hsame, view_congr hsame]
        exact h.bundle
      · exact .inr hgoal }

theorem own_closed : Change.Closed (Own ns name publishes goal) where
  refl _ := ⟨fun _ _ _ => rfl, .inl rfl⟩
  trans h h' := {
    elsewhere := fun a ha hb => (h'.elsewhere a ha hb).trans (h.elsewhere a ha hb)
    bundle := by
      rcases h'.bundle with hsame | hgoal
      · rw [hsame, view_congr hsame]
        exact h.bundle
      · exact .inr hgoal }

theorem Own.others {goal' : Option Doc} (h : Own ns name publishes goal s t)
    (hne : (ns, name) ≠ (ns', name')) (hgoal : ns = ns' → goal = goal') :
    Others ns' name' goal' s t where
  own a ha := h.elsewhere a (ObjectAt.disjoint_own hne.symm ha)
    fun hb => ObjectAt.bundle_not_mem_own (hb ▸ ha)
  sources a ha := h.elsewhere a (fun hown => (ObjectAt.kind_of_mem_own hown).1 ha.kind_eq)
    ha.ne_bundle
  role := h.elsewhere _ ObjectAt.role_not_mem_own
    fun hb => absurd (congrArg Address.kind hb) (by simp)
  bundle := by
    by_cases hns : ns = ns'
    · subst hns
      rw [← hgoal rfl]
      exact h.bundle.imp_right And.right
    · refine .inl (h.elsewhere _ ObjectAt.bundle_not_mem_own fun hb => hns ?_)
      simpa [ObjectAt.bundle, TrustBundle.configMapAt] using hb.symm

theorem Own.lookup_eq {a : Address} (h : Own ns name publishes goal s t)
    (ha : a ∉ ObjectAt.own ns name) (hb : ¬ (publishes ∧ a = ObjectAt.bundle ns)) :
    t.lookup a = s.lookup a := by
  by_cases hbundle : a = ObjectAt.bundle ns
  · subst hbundle
    exact h.bundle.resolve_right fun hgoal => hb ⟨hgoal.1, rfl⟩
  · exact h.elsewhere a ha hbundle

/-- What is known while the rest of a reconcile runs. -/
def Known (ns : String) (goal : Option Doc) (hasRole : Bool) (t : Memory) : Prop :=
  t.view (ObjectAt.bundle ns) = goal ∧ (t.lookup (ObjectAt.role ns)).isSome = hasRole

theorem known_owned (ns name : String) (goal : Option Doc) (hasRole : Bool) :
    Owned (Others ns name goal) (ObjectAt.own ns name) (Known ns goal hasRole) where
  fixes a ha s t h := h.own a ha
  others s t h hknown := by
    refine ⟨?_, by rw [h.role, hknown.2]⟩
    rcases h.bundle with hsame | hgoal
    · rw [view_congr hsame, hknown.1]
    · exact hgoal
  itself s t h hknown := by
    refine ⟨?_, ?_⟩
    · rw [view_congr (h _ ObjectAt.bundle_not_mem_own), hknown.1]
    · rw [h _ ObjectAt.role_not_mem_own, hknown.2]

/-- What the bundle of a namespace is brought to. -/
def bundleGoal (ns : String) (m : Memory) : Option Doc :=
  (TrustBundle.published ns ((TrustBundle.collect ns).run Memory.host m).1
    (m.view (ObjectAt.bundle ns))).2

theorem publish_among {nb : Notebook} {m : Memory} (hns : nb.namespace' = .ok (.str ns))
    (hm : m.Sound) (hothers : Others ns name (bundleGoal ns m) m t) :
    Safe (Others ns name (bundleGoal ns m)) (Own ns name True (bundleGoal ns m))
      (fun x u => (x, u.view (ObjectAt.bundle ns)) = TrustBundle.published ns
          ((TrustBundle.collect ns).run Memory.host m).1 (m.view (ObjectAt.bundle ns)) ∧
        (∀ a ∈ ObjectAt.own ns name, u.lookup a = m.lookup a) ∧
        u.lookup (ObjectAt.role ns) = m.lookup (ObjectAt.role ns))
      (TrustBundle.publish nb) t := by
  let writes : Change := fun s t => Within [ObjectAt.bundle ns] s t ∧
    (t.lookup (ObjectAt.bundle ns) = s.lookup (ObjectAt.bundle ns) ∨
      t.view (ObjectAt.bundle ns) = bundleGoal ns m)
  let kept : Change := fun s t => (∀ a ∈ ObjectAt.own ns name, t.lookup a = s.lookup a) ∧
    t.lookup (ObjectAt.role ns) = s.lookup (ObjectAt.role ns)
  have hkept : kept.Closed := ⟨fun _ => ⟨fun _ _ => rfl, rfl⟩, fun h h' =>
    ⟨fun a ha => (h'.1 a ha).trans (h.1 a ha), h'.2.trans h.2⟩⟩
  have hmeta : ∀ d, m.view (ObjectAt.bundle ns) = some d → d.HasMetadata :=
    fun d => hm.hasMetadata_of_view (ObjectAt.bundle_plain ns)
  have hlets : writes.Lets (ObjectAt.bundle ns) (bundleGoal ns m) := fun s t helsewhere hgoal =>
    ⟨fun b hb => helsewhere b fun h => hb (List.mem_singleton.mpr h), .inr hgoal⟩
  have hview : t.view (ObjectAt.bundle ns) = m.view (ObjectAt.bundle ns) ∨
      t.view (ObjectAt.bundle ns) = bundleGoal ns m := hothers.bundle.imp_left view_congr
  have hpublish : Safe (Others ns name (bundleGoal ns m)) writes _ (TrustBundle.publish nb) t :=
    TrustBundle.publish_safe hns rfl (fun a ha s t h => h.sources a ha) hothers.sources hmeta rfl
      (fun s t h => h.bundle) hlets (fun s => ⟨fun _ _ => rfl, .inl rfl⟩) hview
  refine Safe.mono (fun _ _ => id) ?_ (fun _ _ _ => id)
    (Safe.frame hkept (fun s t h => ⟨h.own, h.role⟩) ?_ ⟨hothers.own, hothers.role⟩ hpublish)
  · intro s t h
    exact ⟨fun a _ ha => h.1 a fun hb => ha (List.mem_singleton.mp hb),
      h.2.imp_right fun hgoal => ⟨trivial, hgoal⟩⟩
  · intro s t h
    refine ⟨fun a ha => h.1 a fun hb => ?_, h.1 _ fun hb => ?_⟩
    · exact ObjectAt.bundle_not_mem_own (List.mem_singleton.mp hb ▸ ha)
    · exact absurd (congrArg Address.kind (List.mem_singleton.mp hb)) (by simp)

/-- How a reconcile ends, and what it leaves. -/
structure Ends (ns name : String) (publishes : Prop) (goal : Option Doc) (x : Except Trouble Unit)
    (after : Address → Option Doc) (y : Except Trouble Unit) (t : Memory) : Prop where
  result : y = x
  own : ∀ a ∈ ObjectAt.own ns name, t.view a = after a
  bundle : publishes → t.view (ObjectAt.bundle ns) = goal

theorem Ends.of_others {x y : Except Trouble Unit} {after : Address → Option Doc}
    (h : Ends ns name publishes goal x after y s) (hst : Others ns name goal s t) :
    Ends ns name publishes goal x after y t where
  result := h.result
  own a ha := by rw [view_congr (hst.own a ha), h.own a ha]
  bundle hp := by
    rcases hst.bundle with hsame | hgoal
    · rw [view_congr hsame, h.bundle hp]
    · exact hgoal

theorem steps_among (r : Reconciler) {nb : Notebook} {uid : Doc} {m : Memory} (hm : m.Sound)
    (hnb : nb.IsAt ns name uid) (hproper : nb.isProper = true) :
    ∃ x after, ∀ t, Others ns name (bundleGoal ns m) m t →
      Safe (Others ns name (bundleGoal ns m)) (Own ns name True (bundleGoal ns m))
        (Ends ns name True (bundleGoal ns m) x after) (r.steps nb) t := by
  rw [steps_eq]
  cases hpublished : (TrustBundle.published ns ((TrustBundle.collect ns).run Memory.host m).1
    (m.view (ObjectAt.bundle ns))).1 with
  | error e =>
    refine ⟨.error e, m.view, fun t ht => Safe.seq ?_ ?_ (publish_among hnb.ns_eq hm ht)⟩
    · rintro v u _ ⟨hx, -⟩
      rw [← hx] at hpublished
      cases hpublished
    · rintro e' u _ ⟨hx, hown, -⟩
      rw [← hx] at hpublished
      exact ⟨hpublished, fun a ha => view_congr (hown a ha), fun _ => congrArg Prod.snd hx⟩
  | ok v =>
    have hdetermined := rest_determined (known_owned ns name (bundleGoal ns m)
      (m.lookup (ObjectAt.role ns)).isSome) r hnb hproper (fun t h => h.1) (fun t h => h.2)
    obtain ⟨x, after, hrest⟩ := hdetermined m.view
    refine ⟨x, after, fun t ht => Safe.seq ?_ ?_ (publish_among hnb.ns_eq hm ht)⟩
    · rintro v' u hu ⟨hx, hown, hrole⟩
      have hknown : Known ns (bundleGoal ns m) (m.lookup (ObjectAt.role ns)).isSome u :=
        ⟨congrArg Prod.snd hx, by rw [hrole]⟩
      refine Safe.mono (fun _ _ => id) ?_ ?_
        (hrest u hu hknown fun a ha => view_congr (hown a ha))
      · intro s t h
        exact ⟨fun a ha _ => h a ha, .inl (h _ ObjectAt.bundle_not_mem_own)⟩
      · rintro y t _ ⟨hy, hknown, hviews⟩
        exact ⟨hy, hviews, fun _ => hknown.1⟩
    · rintro e u _ ⟨hx, -⟩
      rw [← hx] at hpublished
      cases hpublished

/-- A reconcile among others ends in one way. -/
theorem reconcile_among (r : Reconciler) {m : Memory} (hm : m.Sound)
    (hproper : ∀ nb, m.lookup (ObjectAt.notebook ns name) = some nb → nb.isProper = true) :
    ∃ x after, Safe (Others ns name (bundleGoal ns m))
      (Own ns name (m.lookup (ObjectAt.notebook ns name)).isSome (bundleGoal ns m))
      (Ends ns name (m.lookup (ObjectAt.notebook ns name)).isSome (bundleGoal ns m) x after)
      (r.reconcile ns name) m := by
  have hplain := ObjectAt.notebook_plain ns name
  have hmem : ObjectAt.notebook ns name ∈ ObjectAt.own ns name := List.mem_cons_self
  cases hnb : m.lookup (ObjectAt.notebook ns name) with
  | none =>
    refine ⟨.ok (), m.view, Safe.find?_seq hplain own_closed.refl fun t _ hothers => ?_⟩
    rw [← ObjectAt.notebook, hothers.own _ hmem, hnb]
    exact .pure fun _ => ⟨rfl, fun a ha => view_congr (hothers.own a ha), fun h => by cases h⟩
  | some nb =>
    obtain ⟨uid, hat⟩ := Notebook.isAt_of_lookup hm hnb
    obtain ⟨x, after, hsteps⟩ := steps_among r hm hat (hproper nb hnb)
    refine ⟨x, after, Safe.find?_seq hplain own_closed.refl fun t _ hothers => ?_⟩
    rw [← ObjectAt.notebook, hothers.own _ hmem, hnb]
    refine Safe.mono (fun _ _ => id) ?_ ?_ (hsteps t hothers)
    · exact fun _ _ h => ⟨h.elsewhere, h.bundle.imp_right fun hgoal => ⟨rfl, hgoal.2⟩⟩
    · exact fun _ _ _ h => ⟨h.result, h.own, fun _ => h.bundle trivial⟩

/-! ## Two reconciles -/

section Two

variable {r : Reconciler} {ns₁ name₁ ns₂ name₂ : String} {m t t' : Memory}
  {x y x' y' : Except Trouble Unit}

/-- **Two orders of the calls have one outcome.** -/
theorem interleaved_agree (hne : (ns₁, name₁) ≠ (ns₂, name₂)) (hm : m.Sound)
    (hproper : ∀ a nb, m.lookup a = some nb → nb.isProper = true)
    (h : Interleaved Memory.host (r.reconcile ns₁ name₁) (r.reconcile ns₂ name₂) m x y t)
    (h' : Interleaved Memory.host (r.reconcile ns₁ name₁) (r.reconcile ns₂ name₂) m x' y' t') :
    x = x' ∧ y = y' ∧ ∀ a, t.view a = t'.view a := by
  obtain ⟨x₁, after₁, hsafe₁⟩ := reconcile_among r hm (hproper (ObjectAt.notebook ns₁ name₁))
  obtain ⟨x₂, after₂, hsafe₂⟩ := reconcile_among r hm (hproper (ObjectAt.notebook ns₂ name₂))
  generalize hp₁ : ((m.lookup (ObjectAt.notebook ns₁ name₁)).isSome = true) = publishes₁ at hsafe₁
  generalize hp₂ : ((m.lookup (ObjectAt.notebook ns₂ name₂)).isSome = true) = publishes₂ at hsafe₂
  -- What neither of them writes stays as it is.
  let both : Change := fun s t => ∀ a, a ∉ ObjectAt.own ns₁ name₁ → a ∉ ObjectAt.own ns₂ name₂ →
    ¬ (publishes₁ ∧ a = ObjectAt.bundle ns₁) → ¬ (publishes₂ ∧ a = ObjectAt.bundle ns₂) →
      t.lookup a = s.lookup a
  have hboth : both.Closed := ⟨fun _ _ _ _ _ _ => rfl, fun h h' a h₁ h₂ h₃ h₄ =>
    (h' a h₁ h₂ h₃ h₄).trans (h a h₁ h₂ h₃ h₄)⟩
  have hends : ∀ {x y t}, Interleaved Memory.host (r.reconcile ns₁ name₁) (r.reconcile ns₂ name₂)
      m x y t → Ends ns₁ name₁ publishes₁ (bundleGoal ns₁ m) x₁ after₁ x t ∧
        Ends ns₂ name₂ publishes₂ (bundleGoal ns₂ m) x₂ after₂ y t ∧ both m t := by
    intro x y t h
    exact h.ends others_closed others_closed own_closed own_closed hboth
      (fun _ _ h => h.others hne fun hns => by rw [hns])
      (fun _ _ h => h.others hne.symm fun hns => by rw [hns])
      (fun _ _ h a h₁ _ h₃ _ => h.lookup_eq h₁ h₃) (fun _ _ h a _ h₂ _ h₄ => h.lookup_eq h₂ h₄)
      (fun _ _ _ _ _ hst h => h.of_others hst) (fun _ _ _ _ _ hst h => h.of_others hst) hm hsafe₁
      hsafe₂
  obtain ⟨hends₁, hends₂, helsewhere⟩ := hends h
  obtain ⟨hends₁', hends₂', helsewhere'⟩ := hends h'
  refine ⟨hends₁.result.trans hends₁'.result.symm, hends₂.result.trans hends₂'.result.symm,
    fun a => ?_⟩
  by_cases h₁ : a ∈ ObjectAt.own ns₁ name₁
  · rw [hends₁.own a h₁, hends₁'.own a h₁]
  by_cases h₂ : a ∈ ObjectAt.own ns₂ name₂
  · rw [hends₂.own a h₂, hends₂'.own a h₂]
  by_cases h₃ : publishes₁ ∧ a = ObjectAt.bundle ns₁
  · rw [h₃.2, hends₁.bundle h₃.1, hends₁'.bundle h₃.1]
  by_cases h₄ : publishes₂ ∧ a = ObjectAt.bundle ns₂
  · rw [h₄.2, hends₂.bundle h₄.1, hends₂'.bundle h₄.1]
  · rw [view_congr (helsewhere a h₁ h₂ h₃ h₄), view_congr (helsewhere' a h₁ h₂ h₃ h₄)]

/-- **Two reconciles do not interfere**: in whatever order their calls come, each ends as on its own,
and together they leave what they leave one after the other, versions aside. -/
theorem reconciles_independent (r : Reconciler) {ns₁ name₁ ns₂ name₂ : String} {m t : Memory}
    {x y : Except Trouble Unit} (hne : (ns₁, name₁) ≠ (ns₂, name₂)) (hm : m.Sound)
    (hproper : ∀ a nb, m.lookup a = some nb → nb.isProper = true)
    (h : Interleaved Memory.host (r.reconcile ns₁ name₁) (r.reconcile ns₂ name₂) m x y t) :
    x = ((r.reconcile ns₁ name₁).run Memory.host m).1 ∧
      y = ((r.reconcile ns₂ name₂).run Memory.host m).1 ∧
      (∀ a, t.view a = ((r.reconcile ns₂ name₂).run Memory.host
        ((r.reconcile ns₁ name₁).run Memory.host m).2).2.view a) ∧
      ∀ a, t.view a = ((r.reconcile ns₁ name₁).run Memory.host
        ((r.reconcile ns₂ name₂).run Memory.host m).2).2.view a := by
  obtain ⟨hx, -, hfirst⟩ := interleaved_agree hne hm hproper h
    (Interleaved.of_runs (r.reconcile ns₁ name₁) m)
  obtain ⟨-, hy, hsecond⟩ := interleaved_agree hne hm hproper h
    (Interleaved.of_runs (r.reconcile ns₂ name₂) m).swap
  exact ⟨hx, hy, hfirst, hsecond⟩

/-! ### Two notebooks of a namespace -/

theorem publish_rounds {nb₁ nb₂ : Notebook} {certificates : List String}
    (hns₁ : nb₁.namespace' = .ok (.str ns)) (hns₂ : nb₂.namespace' = .ok (.str ns))
    (hcollect : ((TrustBundle.collect ns).run Memory.host m).1 = .ok (some certificates))
    (hne : certificates ≠ []) (hmissing : m.lookup (ObjectAt.bundle ns) = none) :
    ∃ next, Relation.ReflTransGen (Round Memory.host)
      (TrustBundle.publish nb₁, TrustBundle.publish nb₂, m)
      (.call (.create (Resource.trustedBundle ns (TrustBundle.join certificates))) next,
        .call (.create (Resource.trustedBundle ns (TrustBundle.join certificates))) next, m) := by
  obtain ⟨c, certificates, rfl⟩ := List.exists_cons_of_ne_nil hne
  have hcollected : Relation.ReflTransGen (Round Memory.host)
      (TrustBundle.collect ns, TrustBundle.collect ns, m) _ := TrustBundle.collect_gets.rounds
  have hfind := step?_find? (m := m) (ObjectAt.bundle_plain ns)
  rw [hcollect] at hcollected
  rw [hmissing] at hfind
  unfold TrustBundle.publish
  rw [hns₁, hns₂, liftM_ok_seq]
  exact ⟨_, (rounds_seq hcollected _ _).tail ⟨m, step?_seq hfind _, step?_seq hfind _⟩⟩

/-- **Two reconciles race**: where there are certificates and no bundle, they read in turns, and both
come to make the bundle. -/
theorem reconciles_race (r : Reconciler) (name₁ name₂ : String) {nb₁ nb₂ : Notebook}
    {certificates : List String} (hm : m.Sound)
    (hnb₁ : m.lookup (ObjectAt.notebook ns name₁) = some nb₁)
    (hnb₂ : m.lookup (ObjectAt.notebook ns name₂) = some nb₂)
    (hcollect : ((TrustBundle.collect ns).run Memory.host m).1 = .ok (some certificates))
    (hne : certificates ≠ []) (hmissing : m.lookup (ObjectAt.bundle ns) = none) :
    ∃ first second, Relation.ReflTransGen (Round Memory.host)
      (r.reconcile ns name₁, r.reconcile ns name₂, m)
      (.call (.create (Resource.trustedBundle ns (TrustBundle.join certificates))) first,
        .call (.create (Resource.trustedBundle ns (TrustBundle.join certificates))) second, m) := by
  obtain ⟨_, hat₁⟩ := Notebook.isAt_of_lookup hm hnb₁
  obtain ⟨_, hat₂⟩ := Notebook.isAt_of_lookup hm hnb₂
  obtain ⟨next, hpublish⟩ := publish_rounds hat₁.ns_eq hat₂.ns_eq hcollect hne hmissing
  have hfind₁ := step?_find? (m := m) (ObjectAt.notebook_plain ns name₁)
  have hfind₂ := step?_find? (m := m) (ObjectAt.notebook_plain ns name₂)
  rw [hnb₁] at hfind₁
  rw [hnb₂] at hfind₂
  have hround : Round Memory.host (r.reconcile ns name₁, r.reconcile ns name₂, m)
      (r.steps nb₁, r.steps nb₂, m) := ⟨m, step?_seq hfind₁ _, step?_seq hfind₂ _⟩
  exact ⟨_, _, .head hround (rounds_seq hpublish _ _)⟩

/-- An operator that lets notebooks run pipelines. -/
def twinOperator : Reconciler where
  settings := { pipelineAccess := true }
  cookieKey _ := []

/-- One of two notebooks. -/
def twinNotebook (name uid : String) : Notebook :=
  .obj [
    ("kind", notebookKind),
    ("metadata", .obj [
      ("name", name),
      ("namespace", "ns"),
      ("uid", uid),
      ("resourceVersion", uid)])]

/-- Both of them in a namespace with certificates and no bundle. -/
def twinCluster : Memory where
  objects :=
    (ObjectAt.notebook "ns" "one", twinNotebook "one" "3") ::
    (ObjectAt.notebook "ns" "two", twinNotebook "two" "4") ::
    (TrustBundle.trustingCluster sampleFile).objects
  version := 4

/-- The bundle of the namespace. -/
def twinBundle : Doc :=
  Resource.trustedBundle "ns" (TrustBundle.join [sampleFile, sampleFile, sampleFile])

theorem twinCluster_sound : twinCluster.Sound := by
  refine List.forall_mem_cons.mpr ⟨?_, List.forall_mem_cons.mpr ⟨?_, ?_⟩⟩
  · exact ⟨_, _, _, _, rfl, by decide, rfl, rfl, rfl⟩
  · exact ⟨_, _, _, _, rfl, by decide, rfl, rfl, rfl⟩
  · exact TrustBundle.trustingCluster_sound _

theorem twinCluster_proper (a : Address) (nb : Doc) (hnb : twinCluster.lookup a = some nb) :
    nb.isProper = true := by
  obtain ⟨e, hfind, rfl⟩ := Option.map_eq_some_iff.mp hnb
  have hobjects : ∀ e ∈ twinCluster.objects, e.2.isProper = true := by
    refine List.forall_mem_cons.mpr ⟨rfl, List.forall_mem_cons.mpr ⟨rfl, ?_⟩⟩
    exact List.forall_mem_cons.mpr ⟨rfl, List.forall_mem_singleton.mpr rfl⟩
  exact hobjects e (List.mem_of_find?_eq_some hfind)

theorem twinCluster_collects : ((TrustBundle.collect "ns").run Memory.host twinCluster).1 =
    .ok (some [sampleFile, sampleFile, sampleFile]) := by
  have hsame : ∀ a, TrustBundle.IsSource "ns" a →
      twinCluster.lookup a = (TrustBundle.trustingCluster sampleFile).lookup a := by
    rintro _ ⟨source, hsource, rfl⟩
    revert source
    exact List.forall_mem_cons.mpr ⟨rfl, List.forall_mem_singleton.mpr rfl⟩
  rw [TrustBundle.collect_gets.run_eq twinCluster_sound hsame,
    TrustBundle.trustingCluster_run strip_sampleFile,
    TrustBundle.files_of_accepted (by simp [isFile_sampleFile])]
  rfl

/-- Both of them come to make the bundle, and one of them is too late; the second one then goes on to
its end before the first. Each ends as on its own, and together they leave what they leave one after
the other. -/
theorem twins_in_any_order :
    ∃ (first second : Except Trouble Doc → Action Unit) (x y : Except Trouble Unit) (t : Memory),
      Relation.ReflTransGen (Round Memory.host)
        (twinOperator.reconcile "ns" "one", twinOperator.reconcile "ns" "two", twinCluster)
        (.call (.create twinBundle) first, .call (.create twinBundle) second, twinCluster) ∧
      Interleaved Memory.host (.call (.create twinBundle) first)
        (.call (.create twinBundle) second) twinCluster x y t ∧
      x = ((twinOperator.reconcile "ns" "one").run Memory.host twinCluster).1 ∧
      y = ((twinOperator.reconcile "ns" "two").run Memory.host twinCluster).1 ∧
      (∀ a, t.view a = ((twinOperator.reconcile "ns" "two").run Memory.host
        ((twinOperator.reconcile "ns" "one").run Memory.host twinCluster).2).2.view a) ∧
      ∀ a, t.view a = ((twinOperator.reconcile "ns" "one").run Memory.host
        ((twinOperator.reconcile "ns" "two").run Memory.host twinCluster).2).2.view a := by
  obtain ⟨first, second, hrace⟩ := reconciles_race twinOperator "one" "two" twinCluster_sound rfl
    rfl twinCluster_collects (List.cons_ne_nil _ _) rfl
  have hrest : Interleaved Memory.host (.call (.create twinBundle) first)
      (.call (.create twinBundle) second) twinCluster _ _ _ :=
    .first rfl (.second rfl (Interleaved.of_runs _ _).swap)
  exact ⟨first, second, _, _, _, hrace, hrest, reconciles_independent twinOperator (by decide)
    twinCluster_sound twinCluster_proper (.of_rounds hrace hrest)⟩

end Two

end Reconciler

end Workbench
