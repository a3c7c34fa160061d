import Workbench.Proofs.Cluster.Resumes
import Workbench.Proofs.Reconcile.GivesUp
import Workbench.Proofs.Reconcile.Idempotent

/-!
# Steps that are interrupted and taken up again

The steps of a reconcile give up when they are interrupted, but for the wait for the pull secret.

* `Interruptible.awaitPullSecret`: that goes on as if nothing had happened;
* `Reconcile.setUp`: the steps that write what hangs off a notebook;
* `Resumes.converge`, `Resumes.bindAccount` and the like: each of them comes to the same end when it is
  taken up again; **`Resumes.setUp`**: so do all of them.
-/

namespace Workbench

open Doc Memory Workbench.Action Change Reconcile

/-! ## The wait for the pull secret -/

section Wait

variable {e : Trouble} {ns name : String} {m u : Memory} {x : Except Trouble Unit}

theorem checkPullSecret_gets :
    (checkPullSecret (ObjectAt.notebook ns name)).Gets fun _ => True := by
  refine Gets.seq (fun account => Gets.seq (fun secrets => ?_) (Gets.liftM_fault _))
    ⟨⟨_, rfl, ⟨_, _, _, rfl⟩, trivial⟩, Gets.ofExcept⟩
  split <;> trivial

/-- The program ended well, or in a failure that time may mend, and has changed nothing. -/
def Passes (x : Except Trouble Unit) (m u : Memory) : Prop :=
  m = u ∧ (x = .ok () ∨ ∃ e, x = .error e ∧ isPassing e = true)

theorem checkPullSecret_passes (hm : m.Sound)
    (h : (checkPullSecret (ObjectAt.notebook ns name)).run Memory.host m = (x, u)) :
    Passes x m u := by
  have hgets : (checkPullSecret (ObjectAt.notebook ns name)).Gets fun _ => True :=
    checkPullSecret_gets
  have hcheck : Safe (Within []) (Within []) _ (checkPullSecret (ObjectAt.notebook ns name)) m :=
    checkPullSecret_safe (a := ObjectAt.notebook ns name) (fun _ _ hst => hst _ List.not_mem_nil)
      (within_closed []).refl rfl
  have hread := (OnlyReads.of_gets (m := m) hgets).run
  have hsafe := (Safe.run (within_closed []).refl hm hcheck).2.1
  rw [h] at hsafe hread
  exact ⟨(Prod.mk.inj hread).2.symm, hsafe⟩

theorem retrying_passes (hm : m.Sound) : ∀ (waits : List Nat) {x : Except Trouble Unit} {u : Memory},
    (retrying isPassing (checkPullSecret (ObjectAt.notebook ns name)) waits).run Memory.host m =
      (x, u) → Passes x m u
  | [], _, _, h => checkPullSecret_passes hm h
  | ms :: waits, x, u, h => by
    rw [retrying, run_rescue] at h
    cases hcheck : (checkPullSecret (ObjectAt.notebook ns name)).run Memory.host m with
    | mk y t =>
      obtain ⟨rfl, hy⟩ := checkPullSecret_passes hm hcheck
      rw [hcheck] at h
      rcases hy with rfl | ⟨e, rfl, he⟩
      · cases h
        exact ⟨rfl, .inl rfl⟩
      · dsimp only at h
        rw [if_pos he] at h
        exact retrying_passes hm waits h

theorem retrying_passes_interrupted (hm : m.Sound) (he : e.interrupts = true)
    (hpassing : isPassing e = true) : ∀ (waits : List Nat) {x : Except Trouble Unit} {u : Memory},
    Interrupted e (retrying isPassing (checkPullSecret (ObjectAt.notebook ns name)) waits) m x u →
      Passes x m u
  | [], x, u, h => check h
  | ms :: waits, x, u, h => by
    rcases Interrupted.of_rescue h with ⟨y, t, hy, hrest⟩ | ⟨e', t, hrun, hrest⟩
    · obtain ⟨rfl, rfl | ⟨e', rfl, he'⟩⟩ := check hy
      · cases hrest
        exact ⟨rfl, .inl rfl⟩
      · rw [run_rescue, run_ofExcept] at hrest
        dsimp only at hrest
        rw [if_pos he'] at hrest
        exact retrying_passes hm waits hrest
    · obtain ⟨rfl, h' | ⟨e'', h', he'⟩⟩ := checkPullSecret_passes hm hrun
      · cases h'
      · cases h'
        rw [if_pos he'] at hrest
        exact retrying_passes_interrupted hm he hpassing waits hrest
where
  /-- A check on which the call fails. -/
  check {x : Except Trouble Unit} {u : Memory}
      (h : Interrupted e (checkPullSecret (ObjectAt.notebook ns name)) m x u) : Passes x m u := by
    have hcheck : Interruptible e (checkPullSecret (ObjectAt.notebook ns name)) :=
      GivesUpOn.interruptible (.checkPullSecret _)
    rcases hcheck hm h with ⟨rfl, hu⟩ | hrun
    · exact ⟨(checkPullSecret_gets.passed u hu).symm, .inr ⟨e, rfl, hpassing⟩⟩
    · exact checkPullSecret_passes hm hrun

theorem rescue_passes (h : Passes x m u) :
    ((ofExcept x).except isPassing (pure ())).run Memory.host u = (.ok (), m) := by
  obtain ⟨rfl, rfl | ⟨e, rfl, he⟩⟩ := h
  · rfl
  · rw [Action.except, run_rescue, run_ofExcept]
    dsimp only
    rw [if_pos he]
    rfl

theorem awaitPullSecret_run (hm : m.Sound) :
    (awaitPullSecret (ObjectAt.notebook ns name)).run Memory.host m = (.ok (), m) := by
  have hpasses := rescue_passes (@retrying_passes ns name m hm pullSecretWaits _ _ rfl)
  rw [Action.except, run_rescue, run_ofExcept] at hpasses
  rw [awaitPullSecret, Action.except, run_rescue]
  exact hpasses

/-- The wait for the pull secret goes on when a call fails, unless the run is cancelled. -/
theorem Interruptible.awaitPullSecret (he : e.interrupts = true) :
    Interruptible e (awaitPullSecret (ObjectAt.notebook ns name)) := by
  cases hpassing : isPassing e with
  | false =>
    exact GivesUpOn.interruptible (.awaitPullSecret (fun _ t (ht : t = e) => ht ▸ hpassing) _)
  | true =>
    intro m u x hm h
    refine .inr ((awaitPullSecret_run hm).trans ?_)
    rcases Interrupted.of_rescue h with ⟨y, t, hy, hrest⟩ | ⟨e', t, hrun, hrest⟩
    · have hend := rescue_passes (retrying_passes_interrupted hm he hpassing _ hy)
      exact hend.symm.trans hrest
    · obtain ⟨-, h' | ⟨_, h', he'⟩⟩ := retrying_passes hm _ hrun
      · cases h'
      · cases h'
        rw [if_pos he'] at hrest
        exact hrest.elim

theorem Interruptible.endHold {nb : Notebook} {uid : Doc} (hnb : nb.IsAt ns name uid)
    (he : e.interrupts = true) : Interruptible e (endHold nb) := by
  refine (GivesUpOn.liftM_fault _).interruptible.seq fun isLocked => ?_
  split
  · unfold release
    rw [hnb.address, liftM_ok_seq]
    exact (Interruptible.awaitPullSecret he).seq fun _ => (GivesUpOn.patch _ _).interruptible
  · exact (GivesUpOn.pure ()).interruptible

end Wait

/-! ## What hangs off a notebook -/

namespace Reconcile

/-- The steps that write the objects that hang off a notebook. -/
def setUp (r : Reconciler) (nb : Notebook) : Action Unit := do
  policies nb r.settings.ns
  grantPipelines r nb
  r.openWayIn nb

end Reconcile

/-! ## Taken up again -/

namespace Action.Resumes

variable {known : Memory → Prop} {a : Address} {desired : Doc}

theorem converge {aspect : Aspect} (h : aspect.Settles a desired) :
    Resumes [a] known (discard (converge aspect desired)) := by
  refine (converge_direct h).discard.resumes fun m kept hm hout => ?_
  obtain ⟨isWritten, hout⟩ := andThen_discard_eq_ok_iff.mp hout
  exact andThen_discard_eq_ok_iff.mpr ⟨false, outcome_again h hm hout⟩

theorem makeIfMissing (ha : a.IsPlain) (hd : addressOf desired = .ok a) :
    Resumes [a] known (discard (makeIfMissing desired)) := by
  refine (makeIfMissing_direct ha hd).discard.resumes fun m kept hm hout => ?_
  obtain ⟨isMade, hout⟩ := andThen_discard_eq_ok_iff.mp hout
  refine andThen_discard_eq_ok_iff.mpr ⟨false, ?_⟩
  cases hview : m.view a with
  | none =>
    rw [hview, made, Prod.mk.injEq] at hout
    rw [← hout.2, made]
  | some found =>
    rw [hview, made, Prod.mk.injEq] at hout
    rw [← hout.2, made]

theorem createMissing : ∀ {ds : List Doc} {as : List Address}, ds.map addressOf = as.map .ok →
    (∀ a ∈ as, a.IsPlain) → as.Nodup → (∀ s t, Within as s t → known s → known t) →
      Resumes as known (createMissing ds)
  | [], [], _, _, _, _ => pure
  | [], _ :: _, h, _, _, _ => by cases h
  | _ :: _, [], h, _, _, _ => by cases h
  | d :: ds, a :: as, h, hplain, hnodup, hknown => by
    obtain ⟨hd, hds⟩ := List.cons.inj h
    obtain ⟨ha, hnodup⟩ := List.nodup_cons.mp hnodup
    refine seq (fun s t hst => hknown s t (hst.mono fun b hb => ?_)) (fun b hb => ?_)
      (makeIfMissing (hplain a List.mem_cons_self) hd)
      (createMissing hds (fun b hb => hplain b (List.mem_cons_of_mem _ hb)) hnodup
        fun s t hst => hknown s t (hst.mono fun b => List.mem_cons_of_mem _))
    · rw [List.mem_singleton.mp hb]
      exact List.mem_cons_self
    · rwa [List.mem_singleton.mp hb]

theorem withoutStale_of_binds {d : Doc} (h : BindsPipelines d) :
    withoutStale (some d) = (.ok (), some d) := by
  obtain ⟨role, hrole, hsame⟩ := h
  simp only [withoutStale, hrole, hsame, if_true]

theorem withoutStale_again {before kept : Option Doc} (h : withoutStale before = (.ok (), kept)) :
    withoutStale kept = (.ok (), kept) := by
  cases kept with
  | none => rfl
  | some d => exact withoutStale_of_binds (bindsPipelines_of_withoutStale h)

/-- A role binding that was removed is made again, and one that was made is left alone. -/
theorem bindAccount {o : Owner} {ns name : String} (hns : o.ns = .str ns) (hname : o.name = .str name) :
    Resumes [ObjectAt.roleBinding ns name] known (bindAccount (Resource.roleBinding o)) := by
  have hsettles := Aspect.binding_settles hns hname
  refine (bindAccount_local o hns hname).resumes fun m m' hm hrun u hu => ?_
  obtain ⟨hm', -, d, hlookup, -, hbinds⟩ := bindAccount_run hns hname hm hrun
  rw [Reconcile.bindAccount, address_of_addressOf hsettles.belongs, liftM_ok_seq] at hrun hu
  obtain ⟨⟨⟩, t, hrun₁, hrun₂⟩ := run_seq_eq_ok_iff.mp hrun
  have hremove := removeStaleBinding_direct hsettles.plain
  have hconverge := (converge_direct hsettles).discard
  obtain ⟨ht, hstale, -⟩ := hremove.local.run hm hrun₁
  obtain ⟨-, hout, -⟩ := hconverge.local.run ht hrun₂
  generalize hnext : andThen (Aspect.binding.outcome (ObjectAt.roleBinding ns name)
    (Resource.roleBinding o)) (fun _ kept => (Except.ok (), kept)) = next at hout hconverge ⊢
  have hstart : andThen withoutStale (fun _ => next) (m.view (ObjectAt.roleBinding ns name)) =
      next (t.view (ObjectAt.roleBinding ns name)) := by rw [andThen, ← hstale]
  have hmiddle : andThen withoutStale (fun _ => next) (t.view (ObjectAt.roleBinding ns name)) =
      next (t.view (ObjectAt.roleBinding ns name)) := by rw [andThen, withoutStale_again hstale.symm]
  rw [hstart]
  rcases mem_passed_seq.mp hu with hu | ⟨⟨⟩, t', ht', hu⟩
  · obtain ⟨-, -, hsame | hgoal⟩ := hremove.passed hm u hu
    · rw [view_congr hsame, hstart]
    · rw [hgoal, ← hstale, hmiddle]
  · rw [hrun₁, Prod.mk.injEq] at ht'
    obtain ⟨-, rfl⟩ := ht'
    obtain ⟨-, -, hsame | hgoal⟩ := hconverge.passed ht u hu
    · rw [view_congr hsame, hmiddle]
    · -- The role binding is in its wanted state.
      have hmeta := hasMetadata_of_addressOf (hm'.addressOf_eq hsettles.plain hlookup)
      have hview := view_of_lookup hlookup
      have hkept := withoutStale_of_binds
        (bindsPipelines_of_read_eq (hmeta.sameBut.read (by decide)) hbinds)
      have hagain : next (m'.view (ObjectAt.roleBinding ns name)) =
          (.ok (), m'.view (ObjectAt.roleBinding ns name)) := by
        subst hnext
        obtain ⟨isWritten, hout⟩ := andThen_discard_eq_ok_iff.mp hout.symm
        exact andThen_discard_eq_ok_iff.mpr ⟨false, outcome_again hsettles ht hout⟩
      rw [hgoal, ← hout, andThen, hview, hkept, ← hview]
      exact hagain

section SetUp

variable {nb : Notebook} {ns name : String} {uid : Doc} {hasRole : Bool}

theorem grantPipelines (r : Reconciler) (hnb : nb.IsAt ns name uid)
    (hrole : ∀ m, known m → (m.lookup (ObjectAt.role ns)).isSome = hasRole) :
    Resumes [ObjectAt.roleBinding ns name] known (grantPipelines r nb) := by
  unfold Reconcile.grantPipelines
  cases r.settings.pipelineAccess with
  | false => exact pure
  | true =>
    have hplain := ObjectAt.role_plain ns
    rw [if_pos rfl, roleBinding_eq hnb]
    refine gets_seq (v := hasRole) (Gets.exists? (P := fun _ => True) hplain trivial)
      (fun m _ hm => by rw [run_exists? hplain, hrole m hm]) ?_
    cases hasRole with
    | true => exact bindAccount rfl rfl
    | false => exact pure

variable (hknown : ∀ s t, Within (ObjectAt.hanging ns name) s t → known s → known t)

include hknown

theorem policies (hnb : nb.IsAt ns name uid) (operatorNamespace : String) :
    Resumes [ObjectAt.notebookPolicy ns name, ObjectAt.oauthPolicy ns name] known
      (policies nb operatorNamespace) := by
  rw [policies_eq hnb]
  change Resumes ([ObjectAt.notebookPolicy ns name] ++ [ObjectAt.oauthPolicy ns name]) known _
  refine seq (fun s t hst => hknown s t (hst.mono ?_)) ?_ (converge (Aspect.policy_settles rfl _))
    (liftM_seq fun isMesh _ => ?_)
  · simp [ObjectAt.hanging]
  · have hnodup := ObjectAt.hanging_nodup ns name
    simp only [ObjectAt.hanging, List.cons_append, List.nodup_cons, List.mem_cons, not_or] at hnodup
    simpa using hnodup.1.1
  · cases isMesh with
    | true => exact pure
    | false => exact converge (Aspect.policy_settles rfl _)

theorem openWayIn (r : Reconciler) (hnb : nb.IsAt ns name uid) :
    Resumes (ObjectAt.signIn ns name) known (r.openWayIn nb) := by
  refine liftM_seq fun isMesh _ => ?_
  cases isMesh with
  | true => exact pure
  | false =>
    refine liftM_seq fun isOAuth _ => ?_
    cases isOAuth with
    | true =>
      rw [if_pos rfl, oauth_eq hnb]
      refine createMissing (addressOf_oauthObjects ns name uid _) (ObjectAt.signIn_plain ns name)
        ?_ fun s t hst => hknown s t (hst.mono ?_)
      · exact (List.nodup_append.mp (List.nodup_append.mp (ObjectAt.hanging_nodup ns name)).2.1).2.1
      · exact fun a ha => List.mem_append_right _ (List.mem_append_right _ ha)
    | false =>
      rw [if_neg Bool.false_ne_true, plainRoute_eq hnb]
      refine (converge (Aspect.route_settles rfl rfl _ _ _)).mono fun a ha => ?_
      rw [List.mem_singleton.mp ha]
      simp [ObjectAt.signIn]

/-- **What hangs off a notebook comes to the same end when it is taken up again.** -/
theorem setUp (r : Reconciler) (hnb : nb.IsAt ns name uid)
    (hrole : ∀ m, known m → (m.lookup (ObjectAt.role ns)).isSome = hasRole) :
    Resumes (ObjectAt.hanging ns name) known (setUp r nb) := by
  obtain ⟨-, hrest, hpolicies⟩ := List.nodup_append.mp (ObjectAt.hanging_nodup ns name)
  obtain ⟨-, -, hbinding⟩ := List.nodup_append.mp hrest
  refine seq (fun s t hst => hknown s t (hst.mono fun a => List.mem_append_left _))
    (fun a ha ha' => hpolicies a ha a ha' rfl) (policies hknown hnb _)
    (seq (fun s t hst => hknown s t (hst.mono fun a ha => ?_))
      (fun a ha ha' => hbinding a ha a ha' rfl) (grantPipelines r hnb hrole)
      (openWayIn hknown r hnb))
  exact List.mem_append_right _ (List.mem_append_left _ ha)

end SetUp

end Action.Resumes

end Workbench
