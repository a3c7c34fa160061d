import Mathlib.Data.Prod.Basic
import Workbench.Proofs.Reconcile.Runs

/-!
# What a reconcile leaves

A reconcile that ends well has brought everything that hangs off the notebook into its wanted state,
whatever was there before.

* `Reconciler.Settled`: the wanted state of everything;
* `policies_run`, `grantPipelines_run`, `openWayIn_run`: the steps that write several objects or ask
  before they do;
* **`Reconciler.reconcile_settles`**: a reconcile that ends well leaves the wanted state.
-/

namespace Workbench

open Doc Memory Workbench.Action Change Reconcile

namespace Reconciler

/-- What a reconcile for the notebook `nb` is to leave: `m` is the memory before, `m'` the one
afterwards, and `o` what the objects of the notebook are made from. -/
structure Settled (r : Reconciler) (ns name : String) (o : Owner) (nb : Notebook)
    (m m' : Memory) : Prop where
  notebookPolicy : m'.Has (ObjectAt.notebookPolicy ns name)
    (Aspect.policy.agrees · (Resource.notebookPolicy o r.settings.ns) = .ok true)
  oauthPolicy : nb.meshEnabled = .ok false → m'.Has (ObjectAt.oauthPolicy ns name)
    (Aspect.policy.agrees · (Resource.oauthPolicy o) = .ok true)
  roleBinding : r.settings.pipelineAccess = true → (m.lookup (ObjectAt.role ns)).isSome →
    m'.Has (ObjectAt.roleBinding ns name) fun d =>
      Aspect.binding.agrees d (Resource.roleBinding o) = .ok true ∧ BindsPipelines d
  signIn : nb.meshEnabled = .ok false → nb.oauthEnabled = .ok true →
    ∀ a ∈ ObjectAt.signIn ns name, (m'.lookup a).isSome
  /-- The route leads where it should, and what it said besides is left alone. -/
  plainRoute : nb.meshEnabled = .ok false → nb.oauthEnabled = .ok false →
    m'.Has (ObjectAt.route ns name) fun d =>
      Aspect.route.agrees d (Resource.plainRoute o) = .ok true ∧
        ∀ found, m.lookup (ObjectAt.route ns name) = some found → ∀ k ∉ Aspect.routeMembers,
          Aspect.specMember d k = Aspect.specMember found k
  bundle : ∃ collected, ((TrustBundle.collect ns).run Memory.host m).1 = .ok collected ∧
    ∀ c cs, collected = some (c :: cs) →
      m'.Has (ObjectAt.bundle ns) (TrustBundle.holds (TrustBundle.join (c :: cs)) · = true)
  /-- The notebook goes on. Nothing holds it back, and it mounts no bundle that is not there. -/
  notebook : m'.Has (ObjectAt.notebook ns name) fun nb' =>
    Notebook.Continues nb nb' ∧ Notebook.isLocked nb' = .ok false ∧
      (m'.lookup (ObjectAt.bundle ns) = none →
        Notebook.usesConfigMap nb' bundleConfigMap = .ok false)
  elsewhere : Within (ObjectAt.bundle ns :: ObjectAt.own ns name) m m'
  /-- The annotations that decide about all this can be read. -/
  flags : ∃ isMesh, nb.meshEnabled = .ok isMesh ∧
    (isMesh = false → ∃ isOAuth, nb.oauthEnabled = .ok isOAuth)

end Reconciler

section Steps

variable {r : Reconciler} {nb : Notebook} {ns name : String} {uid : Doc} {m m' : Memory}

/-- The policies agree with the wanted ones. -/
theorem policies_run (hnb : nb.IsAt ns name uid) (hm : m.Sound)
    (hrun : (policies nb r.settings.ns).run Memory.host m = (.ok (), m')) :
    m'.Sound ∧ Within [ObjectAt.notebookPolicy ns name, ObjectAt.oauthPolicy ns name] m m' ∧
      m'.Has (ObjectAt.notebookPolicy ns name) (Aspect.policy.agrees ·
        (Resource.notebookPolicy ⟨name, ns, uid⟩ r.settings.ns) = .ok true) ∧
      ∃ isMesh, nb.meshEnabled = .ok isMesh ∧
        (isMesh = false → m'.Has (ObjectAt.oauthPolicy ns name)
          (Aspect.policy.agrees · (Resource.oauthPolicy ⟨name, ns, uid⟩) = .ok true)) := by
  rw [policies_eq hnb] at hrun
  obtain ⟨⟨⟩, m₁, hrun₁, hrun⟩ := run_seq_eq_ok_iff.mp hrun
  obtain ⟨hm₁, hwithin₁, hpolicy⟩ := converge_run (Aspect.policy_settles rfl _) hm hrun₁
  obtain ⟨isMesh, m₂, hread, hrun⟩ := run_seq_eq_ok_iff.mp hrun
  obtain ⟨hmesh, rfl⟩ := run_liftM_fault_eq_ok_iff.mp hread
  cases isMesh with
  | true =>
    cases hrun
    exact ⟨hm₁, hwithin₁.mono fun b hb => List.mem_cons.mpr (.inl (List.mem_singleton.mp hb)),
      hpolicy, true, hmesh, fun h => by cases h⟩
  | false =>
    obtain ⟨hm', hwithin', hoauth⟩ := converge_run (Aspect.policy_settles rfl _) hm₁ hrun
    have hne : ObjectAt.notebookPolicy ns name ∉ [ObjectAt.oauthPolicy ns name] := by
      have hnodup := ObjectAt.own_nodup ns name
      simp only [ObjectAt.own, List.cons_append, List.nodup_cons, List.mem_cons, not_or] at hnodup
      exact fun h => hnodup.2.1.1 (List.mem_singleton.mp h)
    exact ⟨hm', hwithin₁.trans hwithin', hpolicy.within hwithin' hne, false, hmesh, fun _ => hoauth⟩

/-- The role binding is there when the operator is to set it up and the role is there. -/
theorem grantPipelines_run (hnb : nb.IsAt ns name uid) (hm : m.Sound)
    (hrun : (grantPipelines r nb).run Memory.host m = (.ok (), m')) :
    m'.Sound ∧ Within [ObjectAt.roleBinding ns name] m m' ∧
      (r.settings.pipelineAccess = true → (m.lookup (ObjectAt.role ns)).isSome →
        m'.Has (ObjectAt.roleBinding ns name) fun d =>
          Aspect.binding.agrees d (Resource.roleBinding ⟨name, ns, uid⟩) = .ok true ∧
            BindsPipelines d) := by
  unfold grantPipelines at hrun
  cases haccess : r.settings.pipelineAccess with
  | false =>
    rw [haccess] at hrun
    cases hrun
    exact ⟨hm, (within_closed _).refl m, fun h => by cases h⟩
  | true =>
    rw [haccess, if_pos rfl, roleBinding_eq hnb] at hrun
    obtain ⟨isThere, m₁, hthere, hrun⟩ := run_seq_eq_ok_iff.mp hrun
    rw [run_exists? (ObjectAt.role_plain ns), Prod.mk.injEq, Except.ok.injEq] at hthere
    obtain ⟨hthere, rfl⟩ := hthere
    cases isThere with
    | false =>
      cases hrun
      exact ⟨hm, (within_closed _).refl m, fun _ h => by rw [hthere] at h; cases h⟩
    | true =>
      obtain ⟨hm', hwithin, hbinding⟩ := bindAccount_run rfl rfl hm hrun
      exact ⟨hm', hwithin, fun _ _ => hbinding⟩

/-- The way in to the notebook is there. -/
theorem openWayIn_run (hnb : nb.IsAt ns name uid) (hm : m.Sound)
    (hrun : (r.openWayIn nb).run Memory.host m = (.ok (), m')) :
    m'.Sound ∧ Within (ObjectAt.signIn ns name) m m' ∧
      ∃ isMesh, nb.meshEnabled = .ok isMesh ∧ (isMesh = false →
        ∃ isOAuth, nb.oauthEnabled = .ok isOAuth ∧
          (isOAuth = true → ∀ a ∈ ObjectAt.signIn ns name, (m'.lookup a).isSome) ∧
          (isOAuth = false → m'.Has (ObjectAt.route ns name) fun d =>
            Aspect.route.agrees d (Resource.plainRoute ⟨name, ns, uid⟩) = .ok true ∧
              ∀ found, m.lookup (ObjectAt.route ns name) = some found →
                ∀ k ∉ Aspect.routeMembers, Aspect.specMember d k = Aspect.specMember found k)) := by
  obtain ⟨isMesh, m₁, hread, hrun⟩ := run_seq_eq_ok_iff.mp hrun
  obtain ⟨hmesh, rfl⟩ := run_liftM_fault_eq_ok_iff.mp hread
  cases isMesh with
  | true =>
    cases hrun
    exact ⟨hm, (within_closed _).refl m, true, hmesh, fun h => by cases h⟩
  | false =>
    obtain ⟨isOAuth, m₂, hread, hrun⟩ := run_seq_eq_ok_iff.mp hrun
    obtain ⟨hoauth, rfl⟩ := run_liftM_fault_eq_ok_iff.mp hread
    cases isOAuth with
    | true =>
      rw [if_pos rfl, oauth_eq hnb] at hrun
      obtain ⟨hm', hwithin, -, hthere⟩ :=
        createMissing_run (addressOf_oauthObjects ns name uid _)
          (ObjectAt.signIn_plain ns name) hm hrun
      exact ⟨hm', hwithin, false, hmesh, fun _ => ⟨true, hoauth, fun _ => hthere,
        fun h => by cases h⟩⟩
    | false =>
      rw [if_neg Bool.false_ne_true, plainRoute_eq hnb] at hrun
      obtain ⟨hm', hwithin, hroute⟩ := plainRoute_run rfl rfl hm hrun
      refine ⟨hm', hwithin.mono fun b hb => ?_, false, hmesh,
        fun _ => ⟨false, hoauth, fun h => (by cases h), fun _ => hroute⟩⟩
      rw [List.mem_singleton.mp hb]
      simp [ObjectAt.signIn]

theorem mem_of_mem_written : ∀ b ∈ [ObjectAt.bundle ns] ++ ([ObjectAt.notebook ns name] ++
    ([ObjectAt.notebookPolicy ns name, ObjectAt.oauthPolicy ns name] ++
      ([ObjectAt.roleBinding ns name] ++
        (ObjectAt.signIn ns name ++ [ObjectAt.notebook ns name])))),
    b ∈ ObjectAt.bundle ns :: ObjectAt.own ns name := by
  intro b hb
  simp only [ObjectAt.own, List.mem_cons, List.mem_append, List.not_mem_nil, or_false] at hb ⊢
  rcases hb with h | h | (h | h) | h | h | h <;> simp [h]

theorem steps_settle (hnb : nb.IsAt ns name uid) (hproper : nb.isProper = true) (hm : m.Sound)
    (hlookup : m.lookup (ObjectAt.notebook ns name) = some nb)
    (hrun : (r.steps nb).run Memory.host m = (.ok (), m')) :
    m'.Sound ∧ r.Settled ns name ⟨name, ns, uid⟩ nb m m' := by
  rw [steps_eq] at hrun
  obtain ⟨⟨⟩, m₁, hpublish, hrun⟩ := run_seq_eq_ok_iff.mp hrun
  obtain ⟨⟨⟩, m₂, hwithdraw, hrun⟩ := run_seq_eq_ok_iff.mp hrun
  obtain ⟨⟨⟩, m₃, hpolicies, hrun⟩ := run_seq_eq_ok_iff.mp hrun
  obtain ⟨⟨⟩, m₄, hgrant, hrun⟩ := run_seq_eq_ok_iff.mp hrun
  obtain ⟨⟨⟩, m₅, hopen, hend⟩ := run_seq_eq_ok_iff.mp hrun
  obtain ⟨hm₁, hwithin₁, collected, hcollected, hbundle⟩ := publish_run hnb.ns_eq hm hpublish
  have hlookup₁ : m₁.lookup (ObjectAt.notebook ns name) = some nb := by
    rw [hwithin₁ _ (ObjectAt.not_mem_of_kind (by simp)), hlookup]
  obtain ⟨hm₂, hwithin₂, d, hd, hsame, hgone⟩ :=
    withdrawBundle_run hnb hproper hm₁ hlookup₁ hwithdraw
  obtain ⟨hm₃, hwithin₃, hpolicy, isMesh, hmesh, hoauthPolicy⟩ := policies_run hnb hm₂ hpolicies
  obtain ⟨hm₄, hwithin₄, hbinding⟩ := grantPipelines_run hnb hm₃ hgrant
  obtain ⟨hm₅, hwithin₅, _, hmesh', hway⟩ := openWayIn_run hnb hm₄ hopen
  obtain rfl : isMesh = _ := by simpa [hmesh] using hmesh'
  -- The notebook is not written between its two edits, and each object only once.
  have hwithin₂₅ := hwithin₃.trans (hwithin₄.trans hwithin₅)
  have hd₅ : m₅.view (ObjectAt.notebook ns name) = some d := by
    rw [hwithin₂₅.view (ObjectAt.not_mem_of_kind (by simp)), hd]
  obtain ⟨hm', hwithin₆, nb', hnb', hcontinues, hfree, hkept⟩ := endHold_run hnb hm₅ hd₅ hsame hend
  have hwithin₄' := hwithin₅.trans hwithin₆
  have hwithin₃' := hwithin₄.trans hwithin₄'
  have hwithin₂' := hwithin₃.trans hwithin₃'
  have hwithin₁' := hwithin₂.trans hwithin₂'
  refine ⟨hm', {
    notebookPolicy := hpolicy.within hwithin₃' (ObjectAt.not_mem_of_kind (by simp))
    oauthPolicy := fun h => ?_
    roleBinding := fun haccess hrole => ?_
    signIn := fun h h' a ha => ?_
    plainRoute := fun h h' => ?_
    bundle := ⟨collected, hcollected, fun c cs h => (hbundle c cs h).within hwithin₁'
      (ObjectAt.not_mem_of_kind (by simp))⟩
    notebook := ⟨nb', hnb', hcontinues, hfree, fun hnone => ?_⟩
    elsewhere := ?_
    flags := ⟨isMesh, hmesh, fun h => ?_⟩ }⟩
  · obtain rfl : isMesh = false := by simpa [hmesh] using h
    exact (hoauthPolicy rfl).within hwithin₃' (ObjectAt.not_mem_of_kind (by simp))
  · have hrole₃ : m₃.lookup (ObjectAt.role ns) = m.lookup (ObjectAt.role ns) :=
      (hwithin₁.trans (hwithin₂.trans hwithin₃)) _
        (ObjectAt.not_mem_of_kind (by simp))
    exact (hbinding haccess (hrole₃ ▸ hrole)).within hwithin₄'
      (ObjectAt.not_mem_of_kind (by simp))
  · obtain rfl : isMesh = false := by simpa [hmesh] using h
    obtain ⟨isOAuth, hoauth, hthere, -⟩ := hway rfl
    obtain rfl : isOAuth = true := by simpa [hoauth] using h'
    have hne : a ∉ [ObjectAt.notebook ns name] := by
      rintro ha'
      rw [List.mem_singleton.mp ha'] at ha
      exact ObjectAt.not_mem_of_kind (by simp) ha
    rw [hwithin₆ a hne]
    exact hthere rfl a ha
  · obtain rfl : isMesh = false := by simpa [hmesh] using h
    obtain ⟨isOAuth, hoauth, -, hroute⟩ := hway rfl
    obtain rfl : isOAuth = false := by simpa [hoauth] using h'
    have hroute₄ : m₄.lookup (ObjectAt.route ns name) = m.lookup (ObjectAt.route ns name) :=
      (hwithin₁.trans (hwithin₂.trans (hwithin₃.trans hwithin₄))) _
        (ObjectAt.not_mem_of_kind (by simp))
    rw [hroute₄] at hroute
    exact (hroute rfl).within hwithin₆ (ObjectAt.not_mem_of_kind (by simp))
  · have hnone₂ : m₂.lookup (ObjectAt.bundle ns) = none :=
      (hwithin₂' _ (ObjectAt.not_mem_of_kind (by simp))).symm.trans hnone
    rw [hkept, hgone hnone₂]
  · exact (hwithin₁.trans hwithin₁').mono mem_of_mem_written
  · obtain ⟨isOAuth, hoauth, -⟩ := hway h
    exact ⟨isOAuth, hoauth⟩

end Steps

namespace Reconciler

/-- **A reconcile that ends well leaves the wanted state**, whatever was there before. -/
theorem reconcile_settles (r : Reconciler) {ns name : String} {nb : Notebook} {m m' : Memory}
    (hm : m.Sound) (hnb : m.lookup (ObjectAt.notebook ns name) = some nb)
    (hproper : nb.isProper = true)
    (hrun : (r.reconcile ns name).run Memory.host m = (.ok (), m')) :
    ∃ o, nb.owner = .ok o ∧ r.Settled ns name o nb m m' := by
  obtain ⟨uid, hat⟩ := Notebook.isAt_of_lookup hm hnb
  obtain ⟨found, m₁, hfound, hrun⟩ := run_seq_eq_ok_iff.mp hrun
  rw [← ObjectAt.notebook, run_find? (ObjectAt.notebook_plain ns name), hnb, Prod.mk.injEq,
    Except.ok.injEq] at hfound
  obtain ⟨rfl, rfl⟩ := hfound
  exact ⟨_, hat.owner, (steps_settle hat hproper hm hnb hrun).2⟩

/-! ### A route that has drifted -/

/-- An operator with the settings that hold when nothing else is said. -/
def plainOperator : Reconciler where
  settings := {}
  cookieKey _ := []

/-- A new notebook, which is held back. -/
def heldNotebook : Notebook :=
  .obj [
    ("kind", notebookKind),
    ("metadata", .obj [
      ("name", "wb"),
      ("namespace", "ns"),
      ("uid", "u1"),
      ("resourceVersion", "1"),
      ("annotations", .obj [(AnnotationKey.stopped, AnnotationKey.lockValue)])])]

/-- A route that leads elsewhere, with the host that the router gave it. -/
def driftedRoute : Doc :=
  .obj [
    ("kind", "Route"),
    ("metadata", .obj [
      ("name", "wb"),
      ("namespace", "ns"),
      ("uid", "u2"),
      ("resourceVersion", "2")]),
    ("spec", .obj [("host", "wb.apps"), ("to", .obj [("name", "elsewhere")])])]

/-- A cluster with both of them. -/
def driftedCluster : Memory where
  objects := [
    (ObjectAt.notebook "ns" "wb", heldNotebook),
    (ObjectAt.route "ns" "wb", driftedRoute)]
  version := 2

theorem driftedCluster_sound : driftedCluster.Sound := by
  refine List.forall_mem_cons.mpr ⟨?_, List.forall_mem_cons.mpr ⟨?_, fun _ h => ?_⟩⟩
  · exact ⟨_, _, _, _, rfl, by decide, rfl, rfl, rfl⟩
  · exact ⟨_, _, _, _, rfl, by decide, rfl, rfl, rfl⟩
  · cases h

theorem driftedCluster_proper (nb : Notebook)
    (h : driftedCluster.lookup (ObjectAt.notebook "ns" "wb") = some nb) : nb.isProper = true := by
  have hlookup : driftedCluster.lookup (ObjectAt.notebook "ns" "wb") = some heldNotebook := rfl
  cases hlookup.symm.trans h
  decide

theorem run_driftedCluster :
    ((plainOperator.reconcile "ns" "wb").run Memory.host driftedCluster).1 = .ok () := by
  decide +kernel

/-- The route keeps its host. -/
theorem driftedRoute_keeps_host :
    ((plainOperator.reconcile "ns" "wb").run Memory.host driftedCluster).2.Has
      (ObjectAt.route "ns" "wb") fun d => Aspect.specMember d "host" = .ok "wb.apps" := by
  have hlookup : driftedCluster.lookup (ObjectAt.notebook "ns" "wb") = some heldNotebook := rfl
  obtain ⟨o, -, hsettled⟩ := reconcile_settles plainOperator driftedCluster_sound hlookup
    (by decide) (Prod.fst_eq_iff.mp run_driftedCluster)
  refine (hsettled.plainRoute rfl rfl).mono fun d hd => ?_
  exact hd.2 driftedRoute rfl "host" (by decide)

end Reconciler

end Workbench
