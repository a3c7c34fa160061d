import Workbench.Proofs.Cluster.Growth
import Workbench.Proofs.Reconcile.Resumes
import Workbench.Proofs.Reconcile.Settled

/-!
# A notebook is let go behind its guards

A new notebook is held back until its policies, its way in and its rights are there. It is not let go
before, whatever goes wrong on the way.

* `Upholds.converge`, `Upholds.createMissing` and the like: what is there after each step that ended
  well;
* `Reconcile.Guarded`: what has to be there when a notebook is let go;
* `Reconcile.prepare`, `Reconcile.prepare_upholds`: everything before the hold is dropped;
* **`Reconciler.reconcile_guards`**: the hold is dropped last, when all guards are there.
-/

namespace Workbench

open Doc Memory Workbench.Action Reconcile

/-! ## Steps -/

namespace Action.Upholds

variable {a shut : Address} {gone : List Address} {d : Doc} {aspect : Aspect} {m : Memory}

theorem restore : Upholds (Call.Grows gone shut) (fun _ _ => True) (restore aspect a d) m :=
  (perform (c := .get a) trivial).seq fun _ _ _ =>
    (liftM_any _).seq fun _ _ _ => (perform (c := .update _) trivial).discard

/-- An object that is brought into its wanted state is there. -/
theorem converge (ha : a.IsPlain) (hd : addressOf d = .ok a) (hne : a ≠ shut) (hgone : a ∉ gone) :
    Upholds (Call.Grows gone shut) (fun _ t => (t.lookup a).isSome) (converge aspect d) m := by
  unfold Workbench.converge
  rw [address_of_addressOf hd, liftM_ok_seq]
  refine find?_seq ha trivial fun found hfound => ?_
  cases found with
  | none => exact createUnlessThere ha hd ⟨a, ha, hd, hne⟩
  | some found =>
    have hthere : (m.lookup a).isSome := by rw [hfound, Option.isSome_some]
    have hsame : Upholds (Call.Grows gone shut) (fun _ t => t = m)
        (liftM (aspect.agrees found d) : Action Bool) m := liftM_fault fun _ _ => rfl
    refine hsame.seq fun isSame t ht => ?_
    subst ht
    split
    · exact pure hthere
    · exact (retrying (fun _ => restore) conflictWaits).grows.seq fun _ u hu =>
        pure (hu.2.stays a hgone hthere)

theorem makeIfMissing (ha : a.IsPlain) (hd : addressOf d = .ok a) (hne : a ≠ shut) :
    Upholds (Call.Grows gone shut) (fun _ t => (t.lookup a).isSome) (makeIfMissing d) m := by
  unfold Workbench.makeIfMissing
  rw [address_of_addressOf hd, liftM_ok_seq]
  refine exists?_seq ha trivial ?_
  split
  · exact pure ‹_›
  · exact createUnlessThere ha hd ⟨a, ha, hd, hne⟩

theorem createMissing : ∀ {ds : List Doc} {as : List Address} {m : Memory},
    ds.map addressOf = as.map .ok → (∀ a ∈ as, a.IsPlain ∧ a ≠ shut) →
      Upholds (Call.Grows [] shut) (fun _ t => ∀ a ∈ as, (t.lookup a).isSome) (createMissing ds) m
  | [], [], _, _, _ => pure fun _ h => absurd h List.not_mem_nil
  | d :: ds, a :: as, m, h, has => by
    obtain ⟨hd, hds⟩ := List.cons.inj h
    obtain ⟨ha, hrest⟩ := List.forall_mem_cons.mp has
    refine (makeIfMissing ha.1 hd ha.2).discard.seq fun _ t ht => ?_
    refine (createMissing hds hrest).grows.weaken fun _ u hu => ?_
    exact List.forall_mem_cons.mpr ⟨hu.2.stays a List.not_mem_nil ht, hu.1⟩

theorem removeStaleBinding (ha : a.IsPlain) (hgone : a ∈ gone) :
    Upholds (Call.Grows gone shut) (fun _ _ => True) (removeStaleBinding a) m := by
  refine find?_seq ha trivial fun found _ => ?_
  cases found with
  | none => trivial
  | some found =>
    refine (liftM_any _).seq fun role _ _ => ?_
    split
    · trivial
    · exact (perform (c := .delete a) ⟨ha, hgone⟩).discard

end Action.Upholds

namespace Reconcile

variable {ns name : String} {nb : Notebook} {uid : Doc} {m : Memory}

/-- The call removes at most what is at the addresses `gone`, and makes no role. -/
abbrev Adds (ns : String) (gone : List Address) : Call → Prop := Call.Grows gone (ObjectAt.role ns)

theorem refresh_upholds (a : Address) (data : Doc) :
    Upholds (Adds ns []) (fun _ _ => True) (TrustBundle.refresh a data) m := by
  refine (Upholds.perform (c := .get a) trivial).seq fun found _ _ => ?_
  refine (Upholds.liftM_any (found.read "data")).seq fun kept _ _ => ?_
  cases kept.equivalent data with
  | true => trivial
  | false =>
    exact (Upholds.liftM_any _).seq fun _ _ _ => (Upholds.perform (c := .update _) trivial).discard

theorem publish_upholds (hnb : nb.IsAt ns name uid) :
    Upholds (Adds ns []) (fun _ _ => True) (TrustBundle.publish nb) m := by
  have ha := ObjectAt.bundle_plain ns
  have hne : ObjectAt.bundle ns ≠ ObjectAt.role ns := fun h => absurd (congrArg Address.kind h) (by simp)
  unfold TrustBundle.publish
  rw [hnb.ns_eq, liftM_ok_seq]
  refine (Upholds.of_gets (fun _ => trivial) TrustBundle.collect_gets).seq fun collected _ _ => ?_
  rcases collected with _ | _ | ⟨c, cs⟩
  · trivial
  · trivial
  · refine Upholds.find?_seq ha trivial fun found _ => ?_
    cases found with
    | none =>
      exact (Upholds.createUnlessThere ha rfl ⟨_, ha, rfl, hne⟩).weaken (fun _ _ _ => trivial) |>.discard
    | some _ =>
      exact Upholds.retrying (fun _ => refresh_upholds _ _) _

theorem withdrawBundle_upholds (hnb : nb.IsAt ns name uid) (hproper : nb.isProper = true) :
    Upholds (Adds ns []) (fun _ _ => True) (withdrawBundle nb) m := by
  rw [withdrawBundle_eq hnb]
  refine Upholds.exists?_seq (ObjectAt.bundle_plain ns) trivial ?_
  split
  · trivial
  cases huses : nb.usesConfigMap bundleConfigMap with
  | error f => trivial
  | ok isUsed =>
    rw [liftM_ok_seq]
    cases isUsed with
    | false => trivial
    | true =>
      rw [if_pos rfl]
      rcases dropBundle_cases hnb huses with ⟨e, hdrop⟩ | ⟨ms, ms', rfl, hunmount, hdrop⟩
      · exact hdrop ▸ Upholds.throw e
      · obtain ⟨-, houtside, -, -⟩ := TrustBundle.patched_unmount hproper huses hunmount
        exact hdrop ▸ (Upholds.perform (c := .patch _ _)
          ⟨_, rfl, houtside "metadata" (by decide), houtside "kind" (by decide)⟩).discard

/-- What has to be there when the notebook `nb` is let go. -/
structure Guarded (r : Reconciler) (ns name : String) (nb : Notebook) (m : Memory) : Prop where
  notebookPolicy : (m.lookup (ObjectAt.notebookPolicy ns name)).isSome
  /-- Unless the notebook is behind the mesh, the port of the sign-in proxy has a policy, too. -/
  oauthPolicy : nb.meshEnabled ≠ .ok true → (m.lookup (ObjectAt.oauthPolicy ns name)).isSome
  /-- Then it has a way in: the sign-in proxy with everything that it works with, or a route. -/
  signIn : nb.meshEnabled ≠ .ok true → nb.oauthEnabled = .ok true →
    ∀ a ∈ ObjectAt.signIn ns name, (m.lookup a).isSome
  plainRoute : nb.meshEnabled ≠ .ok true → nb.oauthEnabled ≠ .ok true →
    (m.lookup (ObjectAt.route ns name)).isSome
  /-- Its account is bound to the role for pipelines, if that is there. -/
  roleBinding : r.settings.pipelineAccess = true → (m.lookup (ObjectAt.role ns)).isSome →
    (m.lookup (ObjectAt.roleBinding ns name)).isSome

theorem ne_role {a : Address} (h : a.kind ≠ "Role") : a ≠ ObjectAt.role ns :=
  fun heq => h (congrArg Address.kind heq)

theorem policies_upholds (hnb : nb.IsAt ns name uid) (operatorNamespace : String) :
    Upholds (Adds ns []) (fun _ t => (t.lookup (ObjectAt.notebookPolicy ns name)).isSome ∧
      (nb.meshEnabled ≠ .ok true → (t.lookup (ObjectAt.oauthPolicy ns name)).isSome))
      (policies nb operatorNamespace) m := by
  rw [policies_eq hnb]
  refine (Upholds.converge ⟨_, _, _, rfl⟩ rfl (ne_role (by simp)) List.not_mem_nil).discard.seq
    fun _ t ht => ?_
  cases hmesh : nb.meshEnabled with
  | error f => trivial
  | ok isMesh =>
    rw [liftM_ok_seq]
    cases isMesh with
    | true => exact ⟨ht, fun h => absurd rfl h⟩
    | false =>
      refine (Upholds.converge ⟨_, _, _, rfl⟩ rfl (ne_role (by simp))
        List.not_mem_nil).grows.discard.weaken fun _ u hu => ?_
      exact ⟨hu.2.stays _ List.not_mem_nil ht, fun _ => hu.1⟩

theorem grantPipelines_upholds (hnb : nb.IsAt ns name uid) (r : Reconciler) :
    Upholds (Adds ns [ObjectAt.roleBinding ns name])
      (fun _ t => r.settings.pipelineAccess = true → (t.lookup (ObjectAt.role ns)).isSome →
        (t.lookup (ObjectAt.roleBinding ns name)).isSome) (grantPipelines r nb) m := by
  have ha : (ObjectAt.roleBinding ns name).IsPlain := ⟨_, _, _, rfl⟩
  unfold grantPipelines
  rw [roleBinding_eq hnb]
  split
  · refine Upholds.exists?_seq (ObjectAt.role_plain ns) trivial ?_
    cases hrole : (m.lookup (ObjectAt.role ns)).isSome with
    | false => exact Upholds.pure fun _ h => absurd (hrole.symm.trans h) (by decide)
    | true =>
      rw [if_pos rfl, bindAccount, address_of_addressOf (a := ObjectAt.roleBinding ns name) rfl,
        liftM_ok_seq]
      refine (Upholds.removeStaleBinding ha (List.mem_singleton_self _)).seq fun _ t _ => ?_
      have hbound : Upholds (Adds ns []) (fun _ t => (t.lookup (ObjectAt.roleBinding ns name)).isSome)
          (converge .binding (Resource.roleBinding ⟨name, ns, uid⟩)) t :=
        Upholds.converge ha rfl (ne_role (by simp)) List.not_mem_nil
      exact (hbound.mono (Call.Grows.mono (List.nil_subset _)) fun _ _ => id).discard.weaken
        fun _ _ ht _ _ => ht
  · next hoff => exact Upholds.pure fun h => absurd h hoff

theorem openWayIn_upholds (hnb : nb.IsAt ns name uid) (r : Reconciler) :
    Upholds (Adds ns []) (fun _ t =>
      (nb.meshEnabled ≠ .ok true → nb.oauthEnabled = .ok true →
        ∀ a ∈ ObjectAt.signIn ns name, (t.lookup a).isSome) ∧
      (nb.meshEnabled ≠ .ok true → nb.oauthEnabled ≠ .ok true →
        (t.lookup (ObjectAt.route ns name)).isSome)) (r.openWayIn nb) m := by
  unfold Reconciler.openWayIn
  rw [oauth_eq hnb, plainRoute_eq hnb]
  cases hmesh : nb.meshEnabled with
  | error f => trivial
  | ok isMesh =>
    rw [liftM_ok_seq]
    cases isMesh with
    | true => exact Upholds.pure ⟨fun h => absurd rfl h, fun h => absurd rfl h⟩
    | false =>
      rw [if_neg Bool.false_ne_true]
      cases hoauth : nb.oauthEnabled with
      | error f => trivial
      | ok isOAuth =>
        rw [liftM_ok_seq]
        cases isOAuth with
        | true =>
          have hplain : ∀ a ∈ ObjectAt.signIn ns name, a.IsPlain ∧ a ≠ ObjectAt.role ns :=
            fun a ha => ⟨ObjectAt.signIn_plain ns name a ha, fun h =>
              ObjectAt.role_not_mem_own (h ▸ List.mem_append_right _ ha)⟩
          exact (Upholds.createMissing (addressOf_oauthObjects ns name uid _) hplain).weaken
            fun _ t ht => ⟨fun _ _ => ht, fun _ h => absurd rfl h⟩
        | false =>
          exact (Upholds.converge ⟨_, _, _, rfl⟩ rfl (ne_role (by simp))
            List.not_mem_nil).discard.weaken fun _ t ht => ⟨fun _ h => (by cases h), fun _ _ => ht⟩

/-! ## Everything before the hold is dropped -/

/-- A wait for the pull secret of a notebook that is held. Says where it is kept. -/
def awaitHeld (nb : Notebook) : Action (Option Address) := do
  if ← nb.isLocked then
    let address ← nb.address
    awaitPullSecret address
    return some address
  else return none

/-- The steps for a notebook up to its hold. Says where the notebook is kept if that is to be
dropped. -/
def prepare (r : Reconciler) (nb : Notebook) : Action (Option Address) := do
  TrustBundle.publish nb
  withdrawBundle nb
  policies nb r.settings.ns
  grantPipelines r nb
  r.openWayIn nb
  awaitHeld nb

/-- The hold dropped where a notebook is kept that was held. -/
def dropHold : Option Address → Action Unit
  | none => return
  | some address => Action.patch address releasePatch

theorem steps_eq_prepare (r : Reconciler) (nb : Notebook) :
    r.steps nb = prepare r nb >>= dropHold := by
  have hend : endHold nb = awaitHeld nb >>= dropHold := by
    unfold endHold awaitHeld release
    rw [LawfulMonad.bind_assoc]
    refine bind_congr fun isLocked => ?_
    cases isLocked
    · rfl
    · simp only [if_true, LawfulMonad.bind_assoc]
      rfl
  rw [steps_eq, prepare, hend]
  simp only [LawfulMonad.bind_assoc]

theorem awaitHeld_upholds (hnb : nb.IsAt ns name uid) :
    Upholds (Adds ns []) (fun _ _ => True) (awaitHeld nb) m := by
  unfold awaitHeld
  rw [hnb.address]
  refine (Upholds.liftM_any _).seq fun isLocked t _ => ?_
  split
  · rw [liftM_ok_seq]
    have hcheck : ∀ t, Upholds (Adds ns []) (fun _ _ => True)
        (checkPullSecret (ObjectAt.notebook ns name)) t :=
      fun t => Upholds.of_gets (fun _ => trivial) checkPullSecret_gets
    have hwait : Upholds (Adds ns []) (fun _ _ => True)
        (awaitPullSecret (ObjectAt.notebook ns name)) t :=
      (Upholds.retrying hcheck pullSecretWaits).except fun _ => Upholds.pure trivial
    exact hwait.seq fun _ _ _ => Upholds.pure trivial
  · trivial

/-- **Everything is there before the hold is dropped.** -/
theorem prepare_upholds (hm : m.Sound) (hnb : nb.IsAt ns name uid) (hproper : nb.isProper = true)
    (r : Reconciler) : Upholds (Adds ns [ObjectAt.roleBinding ns name])
      (fun _ t => Guarded r ns name nb t) (prepare r nb) m := by
  have hsub : [] ⊆ [ObjectAt.roleBinding ns name] := List.nil_subset _
  have hstays : ∀ a : Address, a.kind ≠ "RoleBinding" → a ∉ [ObjectAt.roleBinding ns name] := fun a ha =>
    ObjectAt.not_mem_of_kind (by simpa using ha)
  unfold prepare
  refine (publish_upholds hnb).andThen hsub fun _ m₁ _ h₁ => ?_
  refine (withdrawBundle_upholds hnb hproper).andThen hsub fun _ m₂ _ h₂ => ?_
  refine (policies_upholds hnb r.settings.ns).andThen hsub fun _ m₃ hpolicies h₃ => ?_
  refine (grantPipelines_upholds hnb r).andThen (List.Subset.refl _) fun _ m₄ hbound h₄ => ?_
  refine (openWayIn_upholds hnb r).andThen hsub fun _ m₅ hway h₅ => ?_
  refine ((awaitHeld_upholds hnb).grows.mono (Call.Grows.mono hsub) fun _ t ht => ?_)
  -- What each step has made is still there at the end.
  have hrest := (grows_closed [] (ObjectAt.role ns)).trans h₅ ht.2
  have hpolicy : ∀ a : Address, a.kind ≠ "RoleBinding" → (m₃.lookup a).isSome → (t.lookup a).isSome :=
    fun a ha hthere => hrest.stays a List.not_mem_nil (h₄.stays a (hstays a ha) hthere)
  refine ⟨hpolicy _ (by simp) hpolicies.1, fun hmesh => hpolicy _ (by simp) (hpolicies.2 hmesh),
    fun hmesh hoauth a ha => ht.2.stays a List.not_mem_nil (hway.1 hmesh hoauth a ha),
    fun hmesh hoauth => ht.2.stays _ List.not_mem_nil (hway.2 hmesh hoauth), fun hon hrole => ?_⟩
  have hsound := h₄.sound (h₃.sound (h₂.sound (h₁.sound hm)))
  exact hrest.stays _ List.not_mem_nil (hbound hon (hrest.shut hsound hrole))

theorem not_adds_releasePatch {a : Address} {gone : List Address} :
    ¬Adds ns gone (.patch a releasePatch) := by
  rintro ⟨ps, hps, hmeta, -⟩
  cases hps
  cases hmeta

end Reconcile

/-! ## Runs -/

namespace Reconciler

variable {ns name : String} {m : Memory} {mishaps : Nat → Mishap} {x : Except Trouble Unit} {t : Shared}

/-- A run up to the hold of its notebook. Says where the notebook is kept if that is to be dropped. -/
def prepareAt (r : Reconciler) (ns name : Doc) : Action (Option Address) := do
  match ← Action.find? ⟨notebookKind, ns, name⟩ with
  | none => return none
  | some nb => prepare r nb

theorem reconcile_eq_prepareAt (r : Reconciler) (ns name : Doc) :
    r.reconcile ns name = r.prepareAt ns name >>= dropHold := by
  unfold reconcile prepareAt
  rw [LawfulMonad.bind_assoc]
  refine bind_congr fun found => ?_
  cases found with
  | none => rfl
  | some nb => exact steps_eq_prepare r nb

theorem prepareAt_upholds (r : Reconciler) (hm : m.Sound)
    (hproper : ∀ nb, m.lookup (ObjectAt.notebook ns name) = some nb → nb.isProper = true) :
    Upholds (Adds ns [ObjectAt.roleBinding ns name])
      (fun held t => ∀ a, held = some a → ∃ nb, m.lookup (ObjectAt.notebook ns name) = some nb ∧
        Guarded r ns name nb t) (r.prepareAt ns name) m := by
  refine Upholds.find?_seq (ObjectAt.notebook_plain ns name) trivial fun found hfound => ?_
  cases found with
  | none => exact Upholds.pure fun _ h => by cases h
  | some nb =>
    obtain ⟨uid, hnb⟩ := Notebook.isAt_of_lookup hm hfound
    exact (prepare_upholds hm hnb (hproper nb hfound) r).weaken fun _ t ht _ _ => ⟨nb, hfound, ht⟩

theorem eq_last_of_append {α : Type} {l before after : List α} {a b : α}
    (h : l ++ [a] = before ++ b :: after) (hb : b ∉ l) : after = [] ∧ b = a := by
  rcases List.eq_nil_or_concat after with rfl | ⟨init, c, rfl⟩
  · obtain ⟨-, hab⟩ := List.append_inj' h rfl
    exact ⟨rfl, (List.singleton_inj.mp hab).symm⟩
  · rw [List.concat_eq_append, ← List.cons_append, ← List.append_assoc] at h
    obtain ⟨rfl, -⟩ := List.append_inj' h rfl
    exact absurd (List.mem_append_right _ List.mem_cons_self) hb

/-- **A notebook is let go behind its guards.** Whatever goes wrong at the calls and the waits of a
run, when the hold is dropped, the policies, the way in and the role binding of the notebook are there.
No call of the run comes after that. -/
theorem reconcile_guards (r : Reconciler) (hm : m.Sound)
    (hproper : ∀ nb, m.lookup (ObjectAt.notebook ns name) = some nb → nb.isProper = true)
    (hrun : (r.reconcile ns name).run (Shared.alone mishaps) ⟨m, []⟩ = (x, t))
    (hhonest : ∀ w ∈ t.log, w.IsHonest) {before after : List Served} {w : Served}
    (hlog : t.log = before ++ w :: after)
    (hrelease : w.call = .patch (ObjectAt.notebook ns name) releasePatch) :
    (∃ nb, m.lookup (ObjectAt.notebook ns name) = some nb ∧ Guarded r ns name nb w.before) ∧
      after = [] := by
  rw [reconcile_eq_prepareAt, run_seq] at hrun
  rcases hprepare : (r.prepareAt ns name).run (Shared.alone mishaps) ⟨m, []⟩ with ⟨y, u⟩
  rw [hprepare] at hrun
  have hend : u = t ∨ ∃ a, y = .ok (some a) ∧
      t = u.note (u.nextAlone mishaps (.patch a releasePatch)) := by
    rcases y with e | _ | a
    · exact .inl (congrArg Prod.snd hrun)
    · exact .inl (congrArg Prod.snd hrun)
    · exact .inr ⟨a, rfl, (congrArg Prod.snd (Shared.run_discard_alone.symm.trans hrun)).symm⟩
  have hearlier : u.log <+: t.log := by
    rcases hend with rfl | ⟨a, -, rfl⟩
    · exact List.prefix_rfl
    · exact List.prefix_append _ _
  obtain ⟨hguarded, l, hl, hsteps⟩ := (prepareAt_upholds r hm hproper).run (s := ⟨m, []⟩) hprepare
    fun w hw => hhonest w (hearlier.subset hw)
  rw [List.nil_append] at hl
  subst hl
  have hnew : w ∉ u.log := fun hw => not_adds_releasePatch (hrelease ▸ hsteps w hw)
  rcases hend with rfl | ⟨a, rfl, rfl⟩
  · exact absurd (hlog ▸ List.mem_append_right _ List.mem_cons_self) hnew
  · obtain ⟨rfl, rfl⟩ := eq_last_of_append hlog hnew
    rw [Shared.nextAlone_before]
    exact ⟨hguarded _ rfl a rfl, rfl⟩

/-- The first look for a pull secret meets an error. -/
def slowAccount : Nat → Mishap := fun n =>
  if n = 10 then { trouble := some (.failure (.unexpected "server unavailable" 503)) } else {}

/-- A held notebook is let go behind its guards, although the wait for its pull secret goes wrong. -/
theorem heldNotebook_guarded :
    ∃ (t : Shared) (before : List Served) (w : Served),
      ((plainOperator.reconcile "ns" "wb").run (Shared.alone slowAccount) ⟨driftedCluster, []⟩).2 = t ∧
      t.log = before ++ [w] ∧ w.call = .patch (ObjectAt.notebook "ns" "wb") releasePatch ∧
      Guarded plainOperator "ns" "wb" heldNotebook w.before := by
  have hlast : ((plainOperator.reconcile "ns" "wb").run (Shared.alone slowAccount)
      ⟨driftedCluster, []⟩).2.log.getLast?.map Served.call =
        some (.patch (ObjectAt.notebook "ns" "wb") releasePatch) := by decide +kernel
  rcases hrun : (plainOperator.reconcile "ns" "wb").run (Shared.alone slowAccount)
    ⟨driftedCluster, []⟩ with ⟨x, t⟩
  rw [hrun] at hlast
  obtain ⟨w, hw, hcall⟩ := Option.map_eq_some_iff.mp hlast
  obtain ⟨before, hlog⟩ := List.getLast?_eq_some_iff.mp hw
  have htroubles : ∀ n e, (slowAccount n).trouble = some e →
      e.isNotFound = false ∧ e.isConflict = false := by
    intro n e he
    unfold slowAccount at he
    split at he <;> cases he
    exact ⟨rfl, rfl⟩
  have hlookup : driftedCluster.lookup (ObjectAt.notebook "ns" "wb") = some heldNotebook := rfl
  have hhonest := Shared.isHonest_alone htroubles hrun fun _ h => absurd h List.not_mem_nil
  obtain ⟨⟨nb, hnb, hguarded⟩, -⟩ := reconcile_guards plainOperator driftedCluster_sound
    driftedCluster_proper hrun hhonest hlog hcall
  cases hlookup.symm.trans hnb
  exact ⟨t, before, w, rfl, hlog, hcall, hguarded⟩

end Reconciler

end Workbench
