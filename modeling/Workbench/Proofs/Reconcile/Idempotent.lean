import Workbench.Proofs.Reconcile.Settled

/-!
# A second reconcile

Every step that writes leaves what its own check looks for, so a reconcile that follows another one
finds nothing to do. Its own writes cannot keep the operator busy.

* `OnlyReads.publish`, `OnlyReads.converge` and the like: the steps that find the wanted state;
* **`Reconciler.reconcile_again`**: a second reconcile ends well, asks for no change and leaves the
  memory as it is.
-/

namespace Workbench

open Doc Memory Workbench.Action Change Reconcile

variable {m m' : Memory} {a : Address}

/-! ## Steps that find the wanted state -/

namespace Action.OnlyReads

variable {nb : Notebook} {ns name : String} {uid : Doc}

theorem discard {α : Type} {p : Action α} {v : α} (hp : OnlyReads (.ok v) p m) :
    OnlyReads (.ok ()) (discard p) m :=
  hp.seq (OnlyReads.pure ())

/-- An object that agrees is left alone. -/
theorem converge {aspect : Aspect} {desired : Doc} (h : aspect.Settles a desired)
    (hhas : m.Has a (aspect.agrees · desired = .ok true)) :
    OnlyReads (.ok false) (converge aspect desired) m := by
  obtain ⟨d, hlookup, hagrees⟩ := hhas
  have hfind := OnlyReads.find? (m := m) h.plain
  rw [hlookup] at hfind
  unfold Workbench.converge
  rw [address_of_addressOf h.belongs, liftM_ok_seq]
  refine hfind.seq ?_
  dsimp only
  rw [hagrees, liftM_ok_seq, if_pos rfl]
  exact OnlyReads.pure false

theorem createMissing : ∀ {ds : List Doc} {as : List Address}, ds.map addressOf = as.map .ok →
    (∀ a ∈ as, a.IsPlain) → (∀ a ∈ as, (m.lookup a).isSome) →
      OnlyReads (.ok ()) (createMissing ds) m
  | [], _, _, _, _ => OnlyReads.pure ()
  | _ :: _, [], h, _, _ => by cases h
  | d :: ds, a :: as, h, hplain, hthere => by
    obtain ⟨hd, hds⟩ := List.cons.inj h
    have hexists := OnlyReads.exists? (m := m) (hplain a List.mem_cons_self)
    rw [hthere a List.mem_cons_self] at hexists
    have hmake : OnlyReads (.ok false) (makeIfMissing d) m := by
      unfold makeIfMissing
      rw [address_of_addressOf hd, liftM_ok_seq]
      exact hexists.seq (OnlyReads.pure false)
    exact hmake.discard.seq (createMissing hds (fun b hb => hplain b (List.mem_cons_of_mem _ hb))
      fun b hb => hthere b (List.mem_cons_of_mem _ hb))

/-- The bundle is left alone when it holds the certificates. -/
theorem publish (hns : nb.namespace' = .ok (.str ns)) {collected : Option (List String)}
    (hcollected : ((TrustBundle.collect ns).run Memory.host m).1 = .ok collected)
    (hholds : ∀ c cs, collected = some (c :: cs) →
      m.Has (ObjectAt.bundle ns) (TrustBundle.holds (TrustBundle.join (c :: cs)) · = true)) :
    OnlyReads (.ok ()) (TrustBundle.publish nb) m := by
  have hgets : (TrustBundle.collect ns).Gets (TrustBundle.IsSource ns) := TrustBundle.collect_gets
  have hcollect := of_gets (m := m) hgets
  rw [hcollected] at hcollect
  unfold TrustBundle.publish
  rw [hns, liftM_ok_seq]
  refine hcollect.seq ?_
  rcases collected with _ | _ | ⟨c, cs⟩
  · exact OnlyReads.pure ()
  · exact OnlyReads.pure ()
  · obtain ⟨d, hlookup, hd⟩ := hholds c cs rfl
    have hplain := ObjectAt.bundle_plain ns
    have hfind := OnlyReads.find? (m := m) hplain
    rw [hlookup] at hfind
    refine hfind.seq (OnlyReads.retrying ?_)
    refine (OnlyReads.get hplain hlookup).seq ?_
    unfold TrustBundle.holds at hd
    cases hdata : d.read "data" with
    | error f => simp [hdata] at hd
    | ok data =>
      simp only [hdata] at hd
      rw [liftM_ok_seq, if_pos hd]
      exact OnlyReads.pure ()

theorem withdrawBundle (hnb : nb.IsAt ns name uid)
    (hgone : m.lookup (ObjectAt.bundle ns) = none →
      nb.usesConfigMap bundleConfigMap = .ok false) :
    OnlyReads (.ok ()) (withdrawBundle nb) m := by
  have hexists := OnlyReads.exists? (m := m) (ObjectAt.bundle_plain ns)
  have hisGone : OnlyReads (.ok false) (bundleIsGone nb) m := by
    rw [bundleIsGone_eq hnb]
    cases hlookup : m.lookup (ObjectAt.bundle ns) with
    | some d =>
      rw [hlookup] at hexists
      exact hexists.seq (OnlyReads.pure false)
    | none =>
      rw [hlookup] at hexists
      exact hexists.seq (OnlyReads.liftM_fault (hgone hlookup))
  exact hisGone.seq (OnlyReads.pure ())

theorem bindAccount {o : Owner} (hns : o.ns = .str ns) (hname : o.name = .str name)
    (hhas : m.Has (ObjectAt.roleBinding ns name) fun d =>
      Aspect.binding.agrees d (Resource.roleBinding o) = .ok true ∧ BindsPipelines d) :
    OnlyReads (.ok ()) (bindAccount (Resource.roleBinding o)) m := by
  have hsettles := Aspect.binding_settles hns hname
  obtain ⟨d, hlookup, hagrees, role, hrole, hsame⟩ := hhas
  have hfind := OnlyReads.find? (m := m) hsettles.plain
  rw [hlookup] at hfind
  have hstale : OnlyReads (.ok ()) (removeStaleBinding (ObjectAt.roleBinding ns name)) m := by
    refine hfind.seq ?_
    dsimp only
    rw [hrole, liftM_ok_seq, if_pos hsame]
    exact OnlyReads.pure ()
  unfold Reconcile.bindAccount
  rw [address_of_addressOf hsettles.belongs, liftM_ok_seq]
  exact hstale.seq (OnlyReads.converge hsettles ⟨d, hlookup, hagrees⟩).discard

end Action.OnlyReads

namespace Reconciler.Settled

variable {r : Reconciler} {ns name : String} {uid : Doc} {nb nb' : Notebook}

theorem collect_eq {o : Owner} (h : r.Settled ns name o nb m m') (hm' : m'.Sound) :
    ((TrustBundle.collect ns).run Memory.host m').1 =
      ((TrustBundle.collect ns).run Memory.host m).1 := by
  refine TrustBundle.collect_gets.run_eq hm' fun a ha => h.elsewhere a ?_
  rw [List.mem_cons, not_or]
  exact ⟨ha.ne_bundle, fun hown => (ObjectAt.kind_of_mem_own hown).1 ha.kind_eq⟩

section Again

variable (h : r.Settled ns name ⟨name, ns, uid⟩ nb m m') (hnb : nb.IsAt ns name uid)
  (hcontinues : Notebook.Continues nb nb')

include h hnb hcontinues

theorem policies_again : OnlyReads (.ok ()) (policies nb' r.settings.ns) m' := by
  obtain ⟨isMesh, hmesh, -⟩ := h.flags
  rw [policies_eq (hcontinues.isAt hnb)]
  refine (OnlyReads.converge (Aspect.policy_settles rfl _) h.notebookPolicy).discard.seq
    ((OnlyReads.liftM_fault (hcontinues.meshEnabled_eq.trans hmesh)).seq ?_)
  cases isMesh with
  | true => exact OnlyReads.pure ()
  | false => exact (OnlyReads.converge (Aspect.policy_settles rfl _) (h.oauthPolicy hmesh)).discard

theorem grantPipelines_again : OnlyReads (.ok ()) (grantPipelines r nb') m' := by
  unfold grantPipelines
  cases haccess : r.settings.pipelineAccess with
  | false => exact OnlyReads.pure ()
  | true =>
    have hrole : m'.lookup (ObjectAt.role ns) = m.lookup (ObjectAt.role ns) :=
      h.elsewhere _ ObjectAt.role_not_mem_written
    have hexists := OnlyReads.exists? (m := m') (ObjectAt.role_plain ns)
    rw [if_pos rfl, roleBinding_eq (hcontinues.isAt hnb)]
    refine hexists.seq ?_
    rw [hrole]
    split
    · next hthere => exact OnlyReads.bindAccount rfl rfl (h.roleBinding haccess hthere)
    · exact OnlyReads.pure ()

theorem openWayIn_again : OnlyReads (.ok ()) (r.openWayIn nb') m' := by
  obtain ⟨isMesh, hmesh, hoauthRead⟩ := h.flags
  have hnb' := hcontinues.isAt hnb
  refine (OnlyReads.liftM_fault (hcontinues.meshEnabled_eq.trans hmesh)).seq ?_
  cases isMesh with
  | true => exact OnlyReads.pure ()
  | false =>
    obtain ⟨isOAuth, hoauth⟩ := hoauthRead rfl
    refine (OnlyReads.liftM_fault (hcontinues.oauthEnabled_eq.trans hoauth)).seq ?_
    cases isOAuth with
    | true =>
      rw [if_pos rfl, oauth_eq hnb']
      exact OnlyReads.createMissing (addressOf_oauthObjects ns name uid _)
        (ObjectAt.signIn_plain ns name) (h.signIn hmesh hoauth)
    | false =>
      rw [if_neg Bool.false_ne_true, plainRoute_eq hnb']
      exact (OnlyReads.converge (Aspect.route_settles rfl rfl _ _ _)
        ((h.plainRoute hmesh hoauth).mono fun _ => And.left)).discard

theorem steps_again (hm' : m'.Sound) (hfree : nb'.isLocked = .ok false)
    (hgone : m'.lookup (ObjectAt.bundle ns) = none →
      nb'.usesConfigMap bundleConfigMap = .ok false) :
    OnlyReads (.ok ()) (r.steps nb') m' := by
  have hnb' := hcontinues.isAt hnb
  obtain ⟨collected, hcollected, hholds⟩ := h.bundle
  have hpublish := OnlyReads.publish hnb'.ns_eq ((h.collect_eq hm').trans hcollected) hholds
  have hend : OnlyReads (.ok ()) (endHold nb') m' :=
    (OnlyReads.liftM_fault hfree).seq (OnlyReads.pure ())
  rw [steps_eq]
  exact hpublish.seq ((OnlyReads.withdrawBundle hnb' hgone).seq
    ((h.policies_again hnb hcontinues).seq ((h.grantPipelines_again hnb hcontinues).seq
      ((h.openWayIn_again hnb hcontinues).seq hend))))

end Again

end Reconciler.Settled

/-- **A second reconcile finds nothing to do**: it ends well, makes no call that could change
anything, and leaves every object as it is. -/
theorem Reconciler.reconcile_again (r : Reconciler) {ns name : String} (hm : m.Sound)
    (hproper : ∀ nb, m.lookup (ObjectAt.notebook ns name) = some nb → nb.isProper = true)
    (hrun : (r.reconcile ns name).run Memory.host m = (.ok (), m')) :
    (r.reconcile ns name).run Memory.host m' = (.ok (), m') ∧
      ∀ c ∈ (r.reconcile ns name).calls Memory.host m', c.isRead = true := by
  have hplain := ObjectAt.notebook_plain ns name
  suffices hagain : OnlyReads (.ok ()) (r.reconcile ns name) m' from ⟨hagain.run, hagain.calls⟩
  have hfind := OnlyReads.find? (m := m') hplain
  unfold Reconciler.reconcile at hrun ⊢
  obtain ⟨found, m₁, hfound, hrest⟩ := run_seq_eq_ok_iff.mp hrun
  rw [← ObjectAt.notebook, run_find? hplain, Prod.mk.injEq, Except.ok.injEq] at hfound
  obtain ⟨rfl, rfl⟩ := hfound
  cases hnb : m.lookup (ObjectAt.notebook ns name) with
  | none =>
    rw [hnb] at hrest
    cases hrest
    rw [hnb] at hfind
    exact hfind.seq (OnlyReads.pure ())
  | some nb =>
    rw [hnb] at hrest
    obtain ⟨uid, hat⟩ := Notebook.isAt_of_lookup hm hnb
    obtain ⟨hm', hsettled⟩ := steps_settle hat (hproper nb hnb) hm hnb hrest
    obtain ⟨nb', hnb', hcontinues, hfree, hgone⟩ := hsettled.notebook
    rw [hnb'] at hfind
    exact hfind.seq (hsettled.steps_again hat hcontinues hm' hfree hgone)

/-- The route that had drifted is put right once. -/
theorem Reconciler.driftedCluster_again :
    (plainOperator.reconcile "ns" "wb").run Memory.host
      ((plainOperator.reconcile "ns" "wb").run Memory.host driftedCluster).2 =
        (.ok (), ((plainOperator.reconcile "ns" "wb").run Memory.host driftedCluster).2) := by
  exact (reconcile_again plainOperator driftedCluster_sound driftedCluster_proper
    (Prod.fst_eq_iff.mp run_driftedCluster)).1

end Workbench
