import Workbench.Proofs.Reconcile.Continues
import Workbench.Proofs.Reconcile.Drift
import Workbench.Proofs.TrustBundle.Mount
import Workbench.Reconcile

/-!
# What the steps of a reconcile do

Each step works at one address.

* `steps_eq`, `policies_eq`, `roleBinding_eq` and the like: the run of a reconcile as a sequence of
  such steps;
* `bindAccount_local`: a role binding is brought into its wanted state; one with another role goes
  first;
* `dropBundle_cases`, `dropBundle_direct`: a bundle that is not there any more is taken out of the
  notebook;
* `awaitPullSecret_safe`, `release_direct`: the wait for the pull secret leaves everything as it is,
  and the hold is dropped.
-/

namespace Workbench

open Doc Memory Workbench.Action

namespace Reconcile

variable {a : Address} {nb : Notebook} {ns name : String} {uid : Doc}

/-! ## Role bindings -/

/-- What is left of a role binding when one with another role is removed. -/
def withoutStale : Option Doc → Except Trouble Unit × Option Doc
  | none => (.ok (), none)
  | some found =>
    match found.read "roleRef" with
    | .error f => (.error (.fault f), some found)
    | .ok role =>
      if role.equivalent Resource.pipelineRoleRef then (.ok (), some found) else (.ok (), none)

theorem removeStaleBinding_direct (ha : a.IsPlain) :
    Direct a withoutStale (removeStaleBinding a) := by
  intro rely guar m hrely hguar hlets
  unfold removeStaleBinding
  refine Safe.find?_seq ha hguar fun t ht hmt => ?_
  have hlookup := hrely m t hmt
  rw [hlookup]
  unfold Memory.view at hlets ⊢
  cases hfound : m.lookup a with
  | none => exact .pure fun _ => by rw [hlookup, hfound]; rfl
  | some found =>
    rw [hfound] at hlookup hlets
    have hd := hasMetadata_of_addressOf (ht.addressOf_eq ha hlookup)
    simp only [Option.map_some, withoutStale, hd.sameBut.read (k := "roleRef") (by decide)]
      at hlets ⊢
    cases hread : found.read "roleRef" with
    | error f => exact .throw fun _ => by rw [hlookup]; rfl
    | ok role =>
      rw [liftM_ok_seq]
      cases hsame : role.equivalent Resource.pipelineRoleRef with
      | true =>
        rw [if_pos rfl]
        exact .pure fun _ => by simp [hlookup, hsame]
      | false =>
        rw [if_neg Bool.false_ne_true]
        rw [hread] at hlets
        refine Safe.delete ha hguar ?_ ?_
        · intro t' u _ _ _ _ _ hremoved
          refine ⟨hlets _ _ hremoved.elsewhere ?_, ?_⟩ <;> simp [Memory.view, hremoved.lookup, hsame]
        · intro t' _ htt' hnone
          rw [hrely t t' htt', hlookup] at hnone
          cases hnone

/-- The role binding brought into its wanted state. -/
def bindAccount (desired : Doc) : Action Unit := do
  removeStaleBinding (← desired.address)
  discard (converge .binding desired)

theorem bindAccount_local (o : Owner) (hns : o.ns = .str ns) (hname : o.name = .str name) :
    Local (ObjectAt.roleBinding ns name)
      (andThen withoutStale fun _ => andThen
        (Aspect.binding.outcome (ObjectAt.roleBinding ns name) (Resource.roleBinding o))
        fun _ kept => (.ok (), kept))
      (bindAccount (Resource.roleBinding o)) := by
  have hsettles := Aspect.binding_settles hns hname
  unfold bindAccount
  rw [address_of_addressOf hsettles.belongs, liftM_ok_seq]
  exact (removeStaleBinding_direct hsettles.plain).local.seq fun _ =>
    (converge_local hsettles).discard

/-! ## The trusted bundle -/

/-- The bundle is taken out of a notebook that mounts it by one patch, if it can be taken out. -/
theorem dropBundle_cases (hnb : nb.IsAt ns name uid)
    (huses : nb.usesConfigMap bundleConfigMap = .ok true) :
    (∃ e, dropBundle nb = throw e) ∨ ∃ ms ms', nb = .obj ms ∧
      TrustBundle.unmount nb = .ok (true, .obj ms') ∧
      dropBundle nb = Action.patch (ObjectAt.notebook ns name) (.obj (mergePatch ms ms')) := by
  unfold dropBundle
  rw [hnb.address, liftM_ok_seq]
  cases hunmount : TrustBundle.unmount nb with
  | error e => exact .inl ⟨e, rfl⟩
  | ok result =>
    obtain ⟨changed, without⟩ := result
    obtain ⟨rfl, _, _, _, _, ⟨ms, _, _, rfl, -, -, -, rfl⟩, -⟩ :=
      TrustBundle.unmount_eq_ok huses hunmount
    exact .inr ⟨ms, _, rfl, rfl, rfl⟩

/-- The bundle is taken out of a notebook that mounts it, by a patch of its specification. -/
theorem dropBundle_direct (hnb : nb.IsAt ns name uid) (hproper : nb.isProper = true)
    (huses : nb.usesConfigMap bundleConfigMap = .ok true) :
    ∃ out, Direct (ObjectAt.notebook ns name) out (dropBundle nb) ∧
      ∀ kept, out (some nb.unversioned) = (.ok (), kept) →
        ∃ d, kept = some d ∧ SameBut "spec" nb.unversioned d ∧
          Notebook.usesConfigMap d bundleConfigMap = .ok false := by
  have ha := ObjectAt.notebook_plain ns name
  have hmeta := hnb.hasMetadata
  rcases dropBundle_cases hnb huses with ⟨e, hdrop⟩ | ⟨ms, ms', rfl, hunmount, hdrop⟩
  · refine ⟨fun kept => (.error e, kept), ?_, fun kept h => by cases h⟩
    intro rely guar m _ _ _
    rw [hdrop]
    exact .throw fun _ => rfl
  · obtain ⟨_, md, hms, hmd⟩ := id hmeta
    cases hms
    obtain ⟨-, houtside, -, hgone⟩ := TrustBundle.patched_unmount hproper huses hunmount
    have hkeeps := TrustBundle.keepsIdentity_withdrawal hproper huses hunmount
    refine ⟨_, hdrop ▸ patch_direct ha hkeeps, fun kept h => ?_⟩
    have hunversioned := hkeeps.unversioned hmeta
    rw [Except.map, Except.ok.injEq] at hunversioned
    have hmerged := (hkeeps.same hmeta rfl).hasMetadata
    cases h
    refine ⟨_, rfl, ?_, ?_⟩
    · rw [unversioned_obj hmd]
      exact ⟨_, _, rfl, rfl, fun k hk => lookup_mergeMembers_of_none (houtside k hk)⟩
    · rw [hunversioned, Notebook.usesConfigMap_of_sameBut hmerged.sameBut]
      exact hgone

/-! ## The wait for the pull secret -/

section Wait

variable {rely guar : Change} {m : Memory}

theorem retrying_safe {α : Type} {post : Except Trouble α → Memory → Prop} {inv : Memory → Prop}
    {again : Trouble → Bool} {body : Action α}
    (hbody : ∀ t, t.Sound → inv t → Safe rely guar post body t)
    (hagain : ∀ e t, post (.error e) t → again e = true → inv t) :
    ∀ (waits : List Nat) {m : Memory}, inv m → Safe rely guar post (retrying again body waits) m
  | [], _, hm => Safe.assume fun hsound => hbody _ hsound hm
  | ms :: waits, _, hm => by
    refine Safe.assume fun hsound => (hbody _ hsound hm).rescue (fun _ _ _ => id) fun e t _ he => ?_
    split
    · next hagain' => exact retrying_safe hbody hagain waits (hagain e t he hagain')
    · exact .throw fun _ => he

theorem checkPullSecret_safe (hrely : rely.Fixes a) (hguar : ∀ t, guar t t) {kept : Option Doc}
    (hm : m.lookup a = kept) :
    Safe rely guar (fun x t => (x = .ok () ∨ ∃ e, x = .error e ∧ isPassing e = true) ∧
      t.lookup a = kept) (checkPullSecret (ObjectAt.notebook ns name)) m := by
  have hplain : (⟨"ServiceAccount", ns, name⟩ : Address).IsPlain := ⟨_, _, _, rfl⟩
  unfold checkPullSecret
  refine Safe.get_seq hplain hguar ?_ ?_
  · intro t d ht hmt hlookup
    have hkept := (hrely m t hmt).trans hm
    obtain ⟨ms, -, rfl, -⟩ := ht.kept hplain hlookup
    rw [read_obj, liftM_ok_seq]
    split
    · exact .pure fun _ => ⟨.inl rfl, hkept⟩
    · exact .throw fun _ => ⟨.inr ⟨_, rfl, rfl⟩, hkept⟩
  · intro t _ hmt _
    exact ⟨.inr ⟨_, rfl, rfl⟩, (hrely m t hmt).trans hm⟩

/-- The wait ends, and leaves everything as it is. -/
theorem awaitPullSecret_safe (hrely : rely.Fixes a) (hguar : ∀ t, guar t t) :
    Safe rely guar (fun x t => x = .ok () ∧ t.lookup a = m.lookup a)
      (awaitPullSecret (ObjectAt.notebook ns name)) m := by
  have hcheck : ∀ t, t.Sound → t.lookup a = m.lookup a → Safe rely guar _
      (checkPullSecret (ObjectAt.notebook ns name)) t :=
    fun t _ ht => checkPullSecret_safe hrely hguar ht
  refine (retrying_safe hcheck (fun _ _ he _ => he.2) pullSecretWaits rfl).rescue ?_ ?_
  · rintro ⟨⟩ t _ ⟨-, ht⟩
    exact ⟨rfl, ht⟩
  · rintro e t _ ⟨hx | ⟨e', he', hpassing⟩, ht⟩
    · cases hx
    · cases he'
      rw [if_pos hpassing]
      exact .pure fun _ => ⟨rfl, ht⟩

end Wait

/-- The hold is dropped. -/
theorem release_direct (hnb : nb.IsAt ns name uid) :
    Direct (ObjectAt.notebook ns name) (patched (ObjectAt.notebook ns name) releasePatch)
      (release nb) := by
  have hpatch := patch_direct (ObjectAt.notebook_plain ns name) keepsIdentity_releasePatch
  unfold release
  rw [hnb.address, liftM_ok_seq]
  intro rely guar m hrely hguar hlets
  refine Safe.seq ?_ ?_ (awaitPullSecret_safe hrely hguar)
  · rintro ⟨⟩ t _ ⟨-, ht⟩
    rw [← view_congr ht] at hlets ⊢
    exact hpatch hrely hguar hlets
  · rintro e t _ ⟨hx, -⟩
    cases hx

theorem release_local (hnb : nb.IsAt ns name uid) :
    Local (ObjectAt.notebook ns name) (patched (ObjectAt.notebook ns name) releasePatch)
      (release nb) := (release_direct hnb).local

/-! ## The sequence of the steps -/

/-- A notebook that mounts a bundle that is not there any more goes on without. -/
def withdrawBundle (nb : Notebook) : Action Unit := do
  if ← bundleIsGone nb then dropBundle nb

/-- The right to run pipelines, if the operator is to set it up. -/
def grantPipelines (r : Reconciler) (nb : Notebook) : Action Unit := do
  if r.settings.pipelineAccess then roleBinding nb

/-- A notebook that is held is let go. -/
def endHold (nb : Notebook) : Action Unit := do
  if ← nb.isLocked then release nb

theorem steps_eq (r : Reconciler) (nb : Notebook) : r.steps nb = (do
    TrustBundle.publish nb
    withdrawBundle nb
    policies nb r.settings.ns
    grantPipelines r nb
    r.openWayIn nb
    endHold nb) := by
  unfold Reconciler.steps withdrawBundle grantPipelines endHold
  simp only [LawfulMonad.bind_assoc]
  refine bind_congr fun _ => bind_congr fun isGone => ?_
  cases isGone <;> cases r.settings.pipelineAccess <;> rfl

theorem policies_eq (hnb : nb.IsAt ns name uid) (operatorNamespace : String) :
    policies nb operatorNamespace = (do
      discard (converge .policy (Resource.notebookPolicy ⟨name, ns, uid⟩ operatorNamespace))
      if !(← nb.meshEnabled) then
        discard (converge .policy (Resource.oauthPolicy ⟨name, ns, uid⟩))) := by
  unfold policies
  rw [hnb.address, hnb.owner]
  rfl

theorem roleBinding_eq (hnb : nb.IsAt ns name uid) : roleBinding nb = (do
    if ← exists? (ObjectAt.role ns) then
      bindAccount (Resource.roleBinding ⟨name, ns, uid⟩)) := by
  unfold roleBinding bindAccount
  rw [hnb.ns_eq, hnb.owner, liftM_ok_seq, liftM_ok_seq]
  refine bind_congr fun isThere => ?_
  cases isThere <;> rfl

theorem addressOf_oauthObjects (ns name : String) (uid : Doc) (cookieKey : List UInt8) :
    (oauthObjects ⟨name, ns, uid⟩ cookieKey).map addressOf =
      (ObjectAt.signIn ns name).map .ok := rfl

theorem oauth_eq (hnb : nb.IsAt ns name uid) (cookieKey : Owner → List UInt8) :
    oauth nb cookieKey =
      createMissing (oauthObjects ⟨name, ns, uid⟩ (cookieKey ⟨name, ns, uid⟩)) := by
  unfold oauth
  rw [hnb.owner]
  rfl

theorem plainRoute_eq (hnb : nb.IsAt ns name uid) :
    plainRoute nb = discard (converge .route (Resource.plainRoute ⟨name, ns, uid⟩)) := by
  unfold plainRoute
  rw [hnb.owner]
  rfl

theorem bundleIsGone_eq (hnb : nb.IsAt ns name uid) : bundleIsGone nb = (do
    if ← exists? (ObjectAt.bundle ns) then return false
    nb.usesConfigMap bundleConfigMap) := by
  unfold bundleIsGone
  rw [hnb.ns_eq, hnb.name_eq, liftM_ok_seq]
  refine bind_congr fun isThere => ?_
  cases isThere
  · cases nb.usesConfigMap bundleConfigMap with
    | error f => rfl
    | ok isUsed => cases isUsed <;> rfl
  · rfl

theorem withdrawBundle_eq (hnb : nb.IsAt ns name uid) : withdrawBundle nb = (do
    if ← exists? (ObjectAt.bundle ns) then return
    if ← nb.usesConfigMap bundleConfigMap then dropBundle nb) := by
  unfold withdrawBundle
  rw [bundleIsGone_eq hnb, LawfulMonad.bind_assoc]
  refine bind_congr fun isThere => ?_
  cases isThere <;> rfl

end Reconcile

end Workbench
