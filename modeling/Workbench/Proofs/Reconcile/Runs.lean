import Workbench.Proofs.Reconcile.Steps
import Workbench.Proofs.TrustBundle.Publish

/-!
# What a run of each step leaves

The runs of the steps that end well, from a sound memory on.

* `Memory.Has`: an object with some property is kept at an address;
* `converge_run`, `makeIfMissing_run`, `createMissing_run`: objects in their wanted state;
* `publish_out`, `publish_run`: the merged bundle; `withdrawBundle_run`: a notebook without it;
* `bindAccount_run`: the role binding with its role; `plainRoute_run`: the route with what else it
  says;
* `endHold_run`: a notebook that is not held.
-/

namespace Workbench

open Doc Memory Workbench.Action Change

/-! ## Kept objects -/

namespace Memory

variable {m m' : Memory} {a : Address} {P Q : Doc → Prop} {d : Doc}

/-- An object that `P` holds of is kept at the address. -/
def Has (m : Memory) (a : Address) (P : Doc → Prop) : Prop := ∃ d, m.lookup a = some d ∧ P d

theorem Has.mono (h : m.Has a P) (hPQ : ∀ d, P d → Q d) : m.Has a Q := by
  obtain ⟨d, hd, hP⟩ := h
  exact ⟨d, hd, hPQ d hP⟩

theorem Has.within {own : List Address} (h : m.Has a P) (hwithin : Within own m m')
    (ha : a ∉ own) : m'.Has a P := by
  obtain ⟨d, hd, hP⟩ := h
  exact ⟨d, (hwithin a ha).trans hd, hP⟩

end Memory

variable {m m' : Memory} {a : Address} {desired : Doc}

/-! ## Objects in their wanted state -/

theorem discard_run {α : Type} {p : Action α} (h : (discard p).run Memory.host m = (.ok (), m')) :
    ∃ v, p.run Memory.host m = (.ok v, m') := by
  obtain ⟨v, u, hp, hrest⟩ := run_seq_eq_ok_iff.mp h
  cases hrest
  exact ⟨v, hp⟩

/-- An object that converged agrees with the wanted one. -/
theorem converge_run {aspect : Aspect} (h : aspect.Settles a desired) (hm : m.Sound)
    (hrun : (discard (converge aspect desired)).run Memory.host m = (.ok (), m')) :
    m'.Sound ∧ Within [a] m m' ∧ m'.Has a (aspect.agrees · desired = .ok true) := by
  obtain ⟨isWritten, hrun⟩ := discard_run hrun
  obtain ⟨hm', hout, hwithin⟩ := (converge_local h).run hm hrun
  obtain ⟨d, hview, hagrees⟩ := outcome_agrees h hm hout.symm
  obtain ⟨e, he, hmeta, rfl⟩ := hm'.lookup_of_view h.plain hview
  exact ⟨hm', hwithin, e, he, (h.agrees_unversioned hmeta).symm.trans hagrees⟩

/-- An object that is made when it is missing is there. -/
theorem makeIfMissing_run (ha : a.IsPlain) (hd : addressOf desired = .ok a) (hm : m.Sound)
    (hrun : (discard (makeIfMissing desired)).run Memory.host m = (.ok (), m')) :
    m'.Sound ∧ Within [a] m m' ∧ (m'.lookup a).isSome := by
  obtain ⟨isMade, hrun⟩ := discard_run hrun
  obtain ⟨hm', hout, hwithin⟩ := (makeIfMissing_local ha hd).run hm hrun
  refine ⟨hm', hwithin, ?_⟩
  have hsome : (m'.view a).isSome := by
    cases hview : m.view a with
    | none =>
      rw [hview, made, Prod.mk.injEq] at hout
      rw [hout.2]
      rfl
    | some found =>
      rw [hview, made, Prod.mk.injEq] at hout
      rw [hout.2]
      rfl
  rwa [Memory.view, Option.isSome_map] at hsome

/-- So are some of them, one after the other. -/
theorem createMissing_run : ∀ {ds : List Doc} {as : List Address} {m : Memory},
    ds.map addressOf = as.map .ok → (∀ a ∈ as, a.IsPlain) → m.Sound →
      (Reconcile.createMissing ds).run Memory.host m = (.ok (), m') →
        m'.Sound ∧ Within as m m' ∧ (∀ b, (m.lookup b).isSome → (m'.lookup b).isSome) ∧
          ∀ a ∈ as, (m'.lookup a).isSome
  | [], [], _, _, _, hm, hrun => by
    cases hrun
    exact ⟨hm, (within_closed []).refl _, fun _ => id, fun _ h => absurd h List.not_mem_nil⟩
  | [], _ :: _, _, h, _, _, _ => by cases h
  | _ :: _, [], _, h, _, _, _ => by cases h
  | d :: ds, a :: as, m, h, hplain, hm, hrun => by
    obtain ⟨hd, hds⟩ := List.cons.inj h
    obtain ⟨⟨⟩, m₁, hrun₁, hrest⟩ := run_seq_eq_ok_iff.mp hrun
    obtain ⟨hm₁, hwithin₁, hthere₁⟩ :=
      makeIfMissing_run (hplain a List.mem_cons_self) hd hm hrun₁
    obtain ⟨hm', hwithin', hmono, hthere⟩ :=
      createMissing_run hds (fun b hb => hplain b (List.mem_cons_of_mem _ hb)) hm₁ hrest
    refine ⟨hm', hwithin₁.trans hwithin', fun b hb => hmono b ?_, ?_⟩
    · by_cases hba : b = a
      · exact hba ▸ hthere₁
      · rwa [hwithin₁ b (by simpa using hba)]
    · exact List.forall_mem_cons.mpr ⟨hmono a hthere₁, hthere⟩

/-! ## The merged bundle -/

section Bundle

open TrustBundle

variable {nb : Notebook} {ns name : String} {uid : Doc}

/-- How publishing ends when nobody else writes. -/
theorem publish_out (hns : nb.namespace' = .ok (.str ns)) (hm : m.Sound) :
    ∃ x m', (publish nb).run Memory.host m = (x, m') ∧ m'.Sound ∧
      Within [ObjectAt.bundle ns] m m' ∧ (x, m'.view (ObjectAt.bundle ns)) =
        published ns ((collect ns).run Memory.host m).1 (m.view (ObjectAt.bundle ns)) := by
  have hclosed := within_closed [ObjectAt.bundle ns]
  have hmeta : ∀ d, m.view (ObjectAt.bundle ns) = some d → d.HasMetadata :=
    fun d => hm.hasMetadata_of_view (ObjectAt.bundle_plain ns)
  have hsafe : Safe (Within []) (Within [ObjectAt.bundle ns]) _ (publish nb) m :=
    Safe.frame hclosed (fun s t hst => hst.mono fun b hb => absurd hb List.not_mem_nil)
      (fun _ _ h => h) (hclosed.refl m)
      (publish_safe hns rfl (fun a _ s t hst => hst a List.not_mem_nil) (fun _ _ => rfl) hmeta rfl
        (fun s t hst => .inl (hst _ List.not_mem_nil))
        (fun s t hst _ b hb => hst b fun h => hb (List.mem_singleton.mpr h)) hclosed.refl (.inl rfl))
  obtain ⟨hm', hout, hwithin⟩ := Safe.run (within_closed []).refl hm hsafe
  exact ⟨_, _, rfl, hm', hwithin, hout⟩

theorem has_of_published {m' : Memory} {before : Option Doc} {certificates : List String}
    {x : Except Trouble Unit} (hm' : m'.Sound) (hmeta : ∀ d, before = some d → d.HasMetadata)
    (hne : certificates ≠ []) (hout : (x, m'.view (ObjectAt.bundle ns)) =
      published ns (.ok (some certificates)) before) :
    x = .ok () ∧ m'.Has (ObjectAt.bundle ns) (holds (join certificates) · = true) := by
  obtain ⟨c, cs, rfl⟩ := List.exists_cons_of_ne_nil hne
  obtain ⟨hx, hview⟩ := Prod.mk.inj hout
  obtain ⟨e, he, hemeta, heq⟩ := hm'.lookup_of_view (ObjectAt.bundle_plain ns) hview
  have hholds : holds (join (c :: cs)) e.unversioned = true := heq ▸ holds_refreshed hmeta
  exact ⟨hx, e, he, (holds_unversioned hemeta).symm.trans hholds⟩

/-- The bundle holds the certificates of the namespace, if there are any. -/
theorem publish_run (hns : nb.namespace' = .ok (.str ns)) (hm : m.Sound)
    (hrun : (publish nb).run Memory.host m = (.ok (), m')) :
    m'.Sound ∧ Within [ObjectAt.bundle ns] m m' ∧
      ∃ collected, ((collect ns).run Memory.host m).1 = .ok collected ∧
        ∀ c cs, collected = some (c :: cs) →
          m'.Has (ObjectAt.bundle ns) (holds (join (c :: cs)) · = true) := by
  have hmeta : ∀ d, m.view (ObjectAt.bundle ns) = some d → d.HasMetadata :=
    fun d => hm.hasMetadata_of_view (ObjectAt.bundle_plain ns)
  obtain ⟨x, t, hends, hm', hwithin, hout⟩ := publish_out hns hm
  rw [hrun] at hends
  cases hends
  cases hcollected : ((collect ns).run Memory.host m).1 with
  | error e =>
    rw [hcollected, published, Prod.mk.injEq] at hout
    cases hout.1
  | ok collected =>
    refine ⟨hm', hwithin, collected, rfl, fun c cs hsome => ?_⟩
    rw [hcollected, hsome] at hout
    exact (has_of_published hm' hmeta (List.cons_ne_nil c cs) hout).2

/-- A notebook mounts a bundle that is there, or none. -/
theorem withdrawBundle_run (hnb : nb.IsAt ns name uid) (hproper : nb.isProper = true)
    (hm : m.Sound) (hlookup : m.lookup (ObjectAt.notebook ns name) = some nb)
    (hrun : (Reconcile.withdrawBundle nb).run Memory.host m = (.ok (), m')) :
    m'.Sound ∧ Within [ObjectAt.notebook ns name] m m' ∧
      ∃ d, m'.view (ObjectAt.notebook ns name) = some d ∧ SameBut "spec" nb.unversioned d ∧
        (m'.lookup (ObjectAt.bundle ns) = none →
          Notebook.usesConfigMap d bundleConfigMap = .ok false) := by
  have hmeta := hnb.hasMetadata
  have hview := view_of_lookup hlookup
  have hrefl : SameBut "spec" nb.unversioned nb.unversioned := by
    obtain ⟨ms, md, rfl, hmd⟩ := hmeta
    rw [unversioned_obj hmd]
    exact .refl rfl
  unfold Reconcile.withdrawBundle at hrun
  rw [Reconcile.bundleIsGone_eq hnb] at hrun
  obtain ⟨isGone, m₁, hgone, hrun⟩ := run_seq_eq_ok_iff.mp hrun
  obtain ⟨isThere, m₂, hthere, hgone⟩ := run_seq_eq_ok_iff.mp hgone
  rw [run_exists? (ObjectAt.bundle_plain ns), Prod.mk.injEq, Except.ok.injEq] at hthere
  obtain ⟨hthere, rfl⟩ := hthere
  cases isThere with
  | true =>
    cases hgone
    cases hrun
    refine ⟨hm, (within_closed _).refl m, _, hview, hrefl, fun hnone => ?_⟩
    simp [hnone] at hthere
  | false =>
    obtain ⟨huses, rfl⟩ := run_liftM_fault_eq_ok_iff.mp hgone
    cases isGone with
    | false =>
      cases hrun
      refine ⟨hm, (within_closed _).refl m, _, hview, hrefl, fun _ => ?_⟩
      rw [Notebook.usesConfigMap_of_sameBut hmeta.sameBut, huses]
    | true =>
      obtain ⟨out, hlocal, hout⟩ := Reconcile.dropBundle_direct hnb hproper huses
      obtain ⟨hm', hdropped, hwithin⟩ := hlocal.local.run hm hrun
      rw [hview] at hdropped
      obtain ⟨d, hd, hsame, hgone⟩ := hout _ hdropped.symm
      exact ⟨hm', hwithin, d, hd, hsame, fun _ => hgone⟩

end Bundle

/-! ## Rights and routes -/

section Objects

open Reconcile

variable {o : Owner} {ns name : String}

/-- A role binding with the wanted role. -/
def BindsPipelines (d : Doc) : Prop :=
  ∃ role, d.read "roleRef" = .ok role ∧ role.equivalent Resource.pipelineRoleRef = true

theorem bindsPipelines_of_read_eq {d e : Doc} (h : e.read "roleRef" = d.read "roleRef")
    (hd : BindsPipelines d) : BindsPipelines e := by
  obtain ⟨role, hrole, hsame⟩ := hd
  exact ⟨role, h.trans hrole, hsame⟩

theorem bindsPipelines_of_withoutStale {before : Option Doc} {d : Doc}
    (h : withoutStale before = (.ok (), some d)) : BindsPipelines d := by
  unfold withoutStale at h
  split at h
  · cases h
  · split at h
    · cases h
    · next role hrole =>
      split_ifs at h with hsame
      · cases h
        exact ⟨role, hrole, hsame⟩
      · cases h

/-- The role binding agrees, and binds the wanted role. -/
theorem bindAccount_run (hns : o.ns = .str ns) (hname : o.name = .str name) (hm : m.Sound)
    (hrun : (bindAccount (Resource.roleBinding o)).run Memory.host m = (.ok (), m')) :
    m'.Sound ∧ Within [ObjectAt.roleBinding ns name] m m' ∧
      m'.Has (ObjectAt.roleBinding ns name) fun d =>
        Aspect.binding.agrees d (Resource.roleBinding o) = .ok true ∧ BindsPipelines d := by
  have hsettles := Aspect.binding_settles hns hname
  unfold bindAccount at hrun
  rw [address_of_addressOf hsettles.belongs, liftM_ok_seq] at hrun
  obtain ⟨⟨⟩, m₁, hrun₁, hrun⟩ := run_seq_eq_ok_iff.mp hrun
  obtain ⟨hm₁, hstale, hwithin₁⟩ := (removeStaleBinding_direct hsettles.plain).local.run hm hrun₁
  obtain ⟨hm', hwithin', d, hlookup, hagrees⟩ := converge_run hsettles hm₁ hrun
  obtain ⟨isWritten, hrun⟩ := discard_run hrun
  obtain ⟨-, hout, -⟩ := (converge_local hsettles).run hm₁ hrun
  refine ⟨hm', fun b hb => (hwithin' b hb).trans (hwithin₁ b hb), d, hlookup, hagrees, ?_⟩
  have hmeta := hasMetadata_of_addressOf (hm'.addressOf_eq hsettles.plain hlookup)
  rw [view_of_lookup hlookup] at hout
  refine bindsPipelines_of_read_eq (hmeta.sameBut.read (by decide)).symm ?_
  cases hview : m₁.view (ObjectAt.roleBinding ns name) with
  | none =>
    -- The role binding is new.
    rw [hview, Aspect.outcome, Prod.mk.injEq, Option.some.injEq] at hout
    have hnew := hasMetadata_of_addressOf hsettles.belongs
    rw [hout.2]
    exact bindsPipelines_of_read_eq (hnew.sameBut_asKept.read (by decide))
      ⟨_, rfl, equivalent_self _⟩
  | some found =>
    rw [hview] at hout hstale
    have hfound := bindsPipelines_of_withoutStale hstale.symm
    rcases outcome_some hout.symm with hkept | ⟨e, hover, hkept⟩
    · rw [Option.some.inj hkept]
      exact hfound
    · rw [Option.some.inj hkept]
      exact bindsPipelines_of_read_eq (Aspect.roleRef_overwrite hover) hfound

/-- The route agrees, and says what it said besides. -/
theorem plainRoute_run (hns : o.ns = .str ns) (hname : o.name = .str name) (hm : m.Sound)
    (hrun : (discard (converge .route (Resource.plainRoute o))).run Memory.host m =
      (.ok (), m')) :
    m'.Sound ∧ Within [ObjectAt.route ns name] m m' ∧
      m'.Has (ObjectAt.route ns name) fun d =>
        Aspect.route.agrees d (Resource.plainRoute o) = .ok true ∧
          ∀ found, m.lookup (ObjectAt.route ns name) = some found → ∀ k ∉ Aspect.routeMembers,
            Aspect.specMember d k = Aspect.specMember found k := by
  have hsettles := Aspect.route_settles hns hname o.name (ObjectName.plainPort o.name) "edge"
  obtain ⟨hm', hwithin, d, hlookup, hagrees⟩ := converge_run hsettles hm hrun
  obtain ⟨isWritten, hrun⟩ := discard_run hrun
  obtain ⟨-, hout, -⟩ := (converge_local hsettles).run hm hrun
  refine ⟨hm', hwithin, d, hlookup, hagrees, fun found hfound k hk => ?_⟩
  have hmeta := hasMetadata_of_addressOf (hm'.addressOf_eq hsettles.plain hlookup)
  have hfoundMeta := hasMetadata_of_addressOf (hm.addressOf_eq hsettles.plain hfound)
  rw [view_of_lookup hlookup, view_of_lookup hfound] at hout
  rw [← Aspect.specMember_of_sameBut hmeta.sameBut, ← Aspect.specMember_of_sameBut hfoundMeta.sameBut]
  rcases outcome_some hout.symm with hkept | ⟨e, hover, hkept⟩
  · rw [Option.some.inj hkept]
  · rw [Option.some.inj hkept]
    exact Aspect.specMember_overwrite hk hover

/-- The notebook goes on, and is not held any longer. -/
theorem endHold_run {nb d : Notebook} {uid : Doc} (hnb : nb.IsAt ns name uid) (hm : m.Sound)
    (hview : m.view (ObjectAt.notebook ns name) = some d) (hsame : SameBut "spec" nb.unversioned d)
    (hrun : (endHold nb).run Memory.host m = (.ok (), m')) :
    m'.Sound ∧ Within [ObjectAt.notebook ns name] m m' ∧
      m'.Has (ObjectAt.notebook ns name) fun nb' =>
        Notebook.Continues nb nb' ∧ Notebook.isLocked nb' = .ok false ∧
          ∀ source, Notebook.usesConfigMap nb' source = Notebook.usesConfigMap d source := by
  have hplain := ObjectAt.notebook_plain ns name
  have hmeta := hm.hasMetadata_of_view hplain hview
  have hlocked : Notebook.isLocked d = nb.isLocked :=
    (Notebook.isLocked_of_sameBut hsame).trans (Notebook.isLocked_unversioned hnb.hasMetadata)
  have hcontinues : Notebook.Continues nb d :=
    (Notebook.continues_unversioned hnb.hasMetadata).trans (Notebook.continues_of_sameBut hsame)
  -- What is kept goes on as its view does.
  have hkept : ∀ {t : Memory} {e : Doc}, t.Sound → t.view (ObjectAt.notebook ns name) = some e →
      Notebook.Continues d e → Notebook.isLocked e = .ok false →
      (∀ source, Notebook.usesConfigMap e source = Notebook.usesConfigMap d source) →
        t.Has (ObjectAt.notebook ns name) fun nb' =>
          Notebook.Continues nb nb' ∧ Notebook.isLocked nb' = .ok false ∧
            ∀ source, Notebook.usesConfigMap nb' source = Notebook.usesConfigMap d source := by
    intro t e ht he hde hfree huses
    obtain ⟨nb', hnb', hmeta', rfl⟩ := ht.lookup_of_view hplain he
    exact ⟨nb', hnb', (hcontinues.trans hde).trans (Notebook.continues_unversioned hmeta').symm,
      (Notebook.isLocked_unversioned hmeta').symm.trans hfree, fun source =>
        (Notebook.usesConfigMap_of_sameBut hmeta'.sameBut source).symm.trans (huses source)⟩
  obtain ⟨isLocked, m₁, hrun₁, hrun⟩ := run_seq_eq_ok_iff.mp hrun
  obtain ⟨hisLocked, rfl⟩ := run_liftM_fault_eq_ok_iff.mp hrun₁
  cases isLocked with
  | false =>
    cases hrun
    exact ⟨hm, (within_closed _).refl m,
      hkept hm hview (.refl d) (hlocked.trans hisLocked) fun _ => rfl⟩
  | true =>
    obtain ⟨hm', hout, hwithin⟩ := (release_local hnb).run hm hrun
    rw [hview, patched, Prod.mk.injEq] at hout
    obtain ⟨hde, hfree, hmetadata⟩ :=
      Notebook.continues_release hmeta (hlocked.trans hisLocked)
    exact ⟨hm', hwithin,
      hkept hm' hout.2 hde hfree fun _ => Notebook.usesConfigMap_of_sameBut hmetadata _⟩

end Objects

end Workbench
