import Workbench.Proofs.Admission.Closed
import Workbench.Proofs.Others
import Workbench.Proofs.Within

/-!
# The operator changes only what it owns

The containers and the volumes of a notebook are rebuilt by three edits, and put back when the edits
wait. Whatever a user has put there stays.

* `Admission.ownMembers`, `Admission.ownContainers`, `Admission.ownVolumes`: what the operator edits
  in a pod template;
* `Admission.KeepsForeign`: an edit of a pod template that leaves everything else;
* `Admission.PodEdit`, `Admission.PodEdits`: the edits that the operator makes; `PodEdit.keepsForeign`
  says that each leaves everything else;
* `Admission.Touches`: a notebook that is left alone, or whose pod template is edited;
* `Admission.edit_podEdits`, `Admission.settle_cases`: the edits, and the guard that may put the
  template back;
* `Admission.ChangesOwn`: all that may have changed in a notebook;
* **`Admission.handle_changes_own`**: nothing else has.
-/

namespace Workbench

open Doc Notebook Entries

/-! ## Containers -/

namespace Doc

variable {c c' name reference selection : Doc} {cs : List Doc} {k : String} {i : Nat}

theorem nameOf?_of_sameBut (h : SameBut k c c') (hk : k ≠ "name") : nameOf? c' = nameOf? c := by
  obtain ⟨ms, ns, rfl, rfl, hns⟩ := h
  rw [nameOf?, at?_member, hns _ hk.symm, nameOf?, at?_member]

theorem nameOf?_putImage (h : Image.putImage reference selection c = .ok c') :
    nameOf? c' = nameOf? c := by
  obtain ⟨c₁, hput, h⟩ := bind_eq_ok_iff.mp h
  rw [← nameOf?_of_sameBut (sameBut_put hput) (by decide)]
  obtain ⟨env, -, h⟩ := bind_eq_ok_iff.mp h
  split at h
  · obtain ⟨_, -, h⟩ := bind_eq_ok_iff.mp h
    obtain ⟨_, -, h⟩ := bind_eq_ok_iff.mp h
    exact nameOf?_of_sameBut (sameBut_put h) (by decide)
  · cases h
    rfl

theorem nameOf?_mountInContainer (h : TrustBundle.mountInContainer c = .ok c') :
    nameOf? c' = nameOf? c := by
  obtain ⟨c₁, h₁, h₂⟩ := bind_eq_ok_iff.mp h
  rw [nameOf?_of_sameBut (TrustBundle.sameBut_putEntries h₂) (by decide),
    nameOf?_of_sameBut (TrustBundle.sameBut_putEntries h₁) (by decide)]

theorem loosen_eq_null_iff : name.loosen = .null ↔ name = .null := by
  cases name with
  | real r => cases hr : r.integer? <;> simp [loosen, fold, hr]
  | arr ds => simp [loosen_arr]
  | obj ms => simp [loosen]
  | _ => simp [loosen, fold, Fold.rebuild]

theorem hasNameIn_of_indexOfName? {names : List Doc} (hname : name ≠ .null) (hmem : name ∈ names) :
    ∀ {cs : List Doc} {i : Nat}, indexOfName? name cs = .ok (some i) → cs[i]? = some c →
      hasNameIn names c = true
  | [], _, h, _ => by cases h
  | d :: cs, i, h, hc => by
    obtain ⟨found, hfound, -⟩ := bind_eq_ok_iff.mp h
    rw [indexOfName?_cons hfound] at h
    split at h
    · next hsame =>
      cases h
      cases hc
      have heq : found.looseEq name = true := ((Bool.and_eq_true _ _).mp hsame).1
      obtain ⟨ms, rfl, hms⟩ := read_eq_ok_iff.mp hfound
      have hthere : ms.lookup "name" = some found := by
        refine eq_some_of_getD hms ?_
        rintro rfl
        exact hname (loosen_eq_null_iff.mp (looseEq_iff.mp heq).symm)
      rw [hasNameIn, nameOf?, at?_member, hthere, Option.any_some, List.any_eq_true]
      exact ⟨name, hmem, heq⟩
    · obtain ⟨j?, hj, hi⟩ := map_eq_ok_iff.mp h
      obtain ⟨j, rfl, rfl⟩ := Option.map_eq_some_iff.mp hi
      exact hasNameIn_of_indexOfName? hname hmem hj hc

end Doc

namespace Admission

variable {settings : Settings} {operation ns name : Doc}
  {nb nb' nb'' nb₀ start edited raw : Notebook} {ps ps' ps'' : List Member} {signsIn : Prop}
  {k : String}

/-! ## Pod templates -/

/-- The members of the specification of a pod template that the operator edits. -/
def ownMembers : List String := ["containers", "volumes", "serviceAccountName"]

/-- The names of the containers that the operator edits. -/
def ownContainers (name : Doc) : List Doc := [name, .str Sidecar.containerName]

/-- The names of the volumes that the operator puts in. -/
def ownVolumes : List Doc := [
  .str TrustBundle.volumeName,
  .str Sidecar.configVolume,
  .str Sidecar.certificateVolume]

/-- An edit of the pod template of the notebook `name` that leaves what is not the operator's. The
account is the operator's when it puts in the sign-in proxy. -/
structure KeepsForeign (name : Doc) (signsIn : Prop) (ps ps' : List Member) : Prop where
  members : ∀ k, k ∉ ownMembers → ps'.lookup k = ps.lookup k
  containers : KeepsOthers (ownContainers name) (ps.lookup "containers") (ps'.lookup "containers")
  volumes : KeepsOthers ownVolumes (ps.lookup "volumes") (ps'.lookup "volumes")
  account : ¬signsIn → ps'.lookup "serviceAccountName" = ps.lookup "serviceAccountName"

namespace KeepsForeign

theorem refl (name : Doc) (signsIn : Prop) (ps : List Member) : KeepsForeign name signsIn ps ps :=
  ⟨fun _ _ => rfl, .refl _ _, .refl _ _, fun _ => rfl⟩

theorem trans (h : KeepsForeign name signsIn ps ps') (h' : KeepsForeign name signsIn ps' ps'') :
    KeepsForeign name signsIn ps ps'' where
  members k hk := (h'.members k hk).trans (h.members k hk)
  containers := h.containers.trans h'.containers
  volumes := h.volumes.trans h'.volumes
  account hnot := (h'.account hnot).trans (h.account hnot)

theorem setMember_other (hk : k ∈ ownMembers) (v : Doc) : ∀ j, j ∉ ownMembers →
    (setMember k v ps).lookup j = ps.lookup j := by
  intro j hj
  rw [lookup_setMember, if_neg]
  rintro rfl
  exact hj hk

theorem of_editsPrimary {edit : Doc → Doc → Prop} (hname : name ≠ .null)
    (hedit : ∀ c c', edit c c' → nameOf? c' = nameOf? c) (h : EditsPrimary name edit ps ps') :
    KeepsForeign name signsIn ps ps' := by
  obtain ⟨cs, i, c, c', hprimary, hc, rfl⟩ := h
  have hnamed : hasNameIn (ownContainers name) c = true :=
    hasNameIn_of_indexOfName? hname List.mem_cons_self hprimary.index hprimary.there
  refine ⟨setMember_other (by decide) _, ?_, ?_, fun _ => ?_⟩
  · rw [lookup_setMember_self, hprimary.containers]
    exact keepsOthers_set hprimary.there (hedit c c' hc) hnamed
  · rw [lookup_setMember, if_neg (by decide)]
    exact .refl _ _
  · rw [lookup_setMember, if_neg (by decide)]

theorem of_volumes {more : List Doc} {names : List String} {volumes : Entries}
    (h : Gains ((ps.lookup "volumes").getD .null) more volumes) (hmore : AreNamed more names)
    (hnames : ∀ s ∈ names, .str s ∈ ownVolumes) :
    KeepsForeign name signsIn ps (setMember "volumes" (.arr volumes.toList) ps) := by
  refine ⟨setMember_other (by decide) _, ?_, ?_, fun _ => ?_⟩
  · rw [lookup_setMember, if_neg (by decide)]
    exact .refl _ _
  · rw [lookup_setMember_self]
    exact h.keepsOthers hmore hnames
  · rw [lookup_setMember, if_neg (by decide)]

theorem of_withSidecar {c : Doc} {containers volumes : Entries} (hsigns : signsIn)
    (hc : c.require "name" = .ok (.str Sidecar.containerName))
    (hcontainers : Gains ((ps.lookup "containers").getD .null) [c] containers)
    (hvolumes : Gains ((ps.lookup "volumes").getD .null) (Sidecar.volumes name) volumes) :
    KeepsForeign name signsIn ps (Plan.withSidecar name containers volumes ps) := by
  have hmembers : ∀ j, j ∉ ownMembers →
      (Plan.withSidecar name containers volumes ps).lookup j = ps.lookup j := fun j hj => by
    rw [Plan.withSidecar, setMember_other (by decide) _ j hj, setMember_other (by decide) _ j hj,
      setMember_other (by decide) _ j hj]
  refine ⟨hmembers, ?_, ?_, fun hnot => absurd hsigns hnot⟩
  · rw [Plan.lookup_withSidecar_containers]
    exact hcontainers.keepsOthers (.cons hc .nil) (by simp [ownContainers])
  · rw [Plan.lookup_withSidecar_volumes]
    exact hvolumes.keepsOthers (Plan.areNamed_volumes name) (by simp [ownVolumes])

end KeepsForeign

/-! ## Edits -/

/-- One edit of the pod template of the notebook `name`. The sign-in proxy is put in when sign-in is
asked for. -/
inductive PodEdit (name : Doc) (signsIn : Prop) (ps : List Member) : List Member → Prop where
  | image {reference selection : Doc} {ps' : List Member}
    (h : EditsPrimary name (fun c c' => Image.putImage reference selection c = .ok c') ps ps') :
    PodEdit name signsIn ps ps'
  | volume {volumes : Entries}
    (h : Gains ((ps.lookup "volumes").getD .null) [TrustBundle.volume] volumes) :
    PodEdit name signsIn ps (setMember "volumes" (.arr volumes.toList) ps)
  | mount {ps' : List Member}
    (h : EditsPrimary name (fun c c' => TrustBundle.mountInContainer c = .ok c') ps ps') :
    PodEdit name signsIn ps ps'
  | sidecar {c : Doc} {containers volumes : Entries} (hsigns : signsIn)
    (hc : c.require "name" = .ok (.str Sidecar.containerName))
    (hcontainers : Gains ((ps.lookup "containers").getD .null) [c] containers)
    (hvolumes : Gains ((ps.lookup "volumes").getD .null) (Sidecar.volumes name) volumes) :
    PodEdit name signsIn ps (Plan.withSidecar name containers volumes ps)

/-- Edits one after the other. -/
abbrev PodEdits (name : Doc) (signsIn : Prop) : List Member → List Member → Prop :=
  Relation.ReflTransGen (PodEdit name signsIn)

/-- **An edit leaves what is not the operator's.** -/
theorem PodEdit.keepsForeign (hname : name ≠ .null) (h : PodEdit name signsIn ps ps') :
    KeepsForeign name signsIn ps ps' := by
  cases h with
  | image h => exact .of_editsPrimary hname (fun _ _ => nameOf?_putImage) h
  | volume h => exact .of_volumes h Plan.areNamed_volume (by simp [ownVolumes])
  | mount h => exact .of_editsPrimary hname (fun _ _ => nameOf?_mountInContainer) h
  | sidecar hsigns hc hcontainers hvolumes => exact .of_withSidecar hsigns hc hcontainers hvolumes

theorem PodEdits.keepsForeign (hname : name ≠ .null) (h : PodEdits name signsIn ps ps') :
    KeepsForeign name signsIn ps ps' := by
  induction h with
  | refl => exact .refl _ _ _
  | tail _ hedit ih => exact ih.trans (hedit.keepsForeign hname)

/-- The notebook is left alone, or its pod template is edited. -/
inductive Touches (edits : List Member → List Member → Prop) (nb : Notebook) : Notebook → Prop where
  | left : Touches edits nb nb
  | edited {nb₀ nb' : Notebook} {ps ps' : List Member} (hopens : nb.Opens nb₀ ps)
    (hedits : edits ps ps') (hreplaced : PodSpecReplaced nb₀ nb' (.obj ps) (.obj ps')) :
    Touches edits nb nb'

namespace Touches

variable {edits edits' : List Member → List Member → Prop}

theorem mono (hedits : ∀ {ps ps'}, edits ps ps' → edits' ps ps') (h : Touches edits nb nb') :
    Touches edits' nb nb' := by
  cases h with
  | left => exact .left
  | edited hopens hfirst hreplaced => exact .edited hopens (hedits hfirst) hreplaced

theorem sameBut (hnb : nb.isObj) (h : Touches edits nb nb') : SameBut "spec" nb nb' := by
  cases h with
  | left => exact .refl hnb
  | edited hopens _ hreplaced => exact hopens.sameBut.trans hreplaced.sameBut

theorem trans (hedits : ∀ {ps ps' ps''}, edits ps ps' → edits ps' ps'' → edits ps ps'')
    (h : Touches edits nb nb') (h' : Touches edits nb' nb'') : Touches edits nb nb'' := by
  cases h with
  | left => exact h'
  | edited hopens hfirst hreplaced =>
    cases h' with
    | left => exact .edited hopens hfirst hreplaced
    | edited hopens' hsecond hreplaced' =>
      -- The pod template is there when the second edit is made.
      have hagain := hreplaced.hasPodSpec.opens
      cases hagain.ensure.symm.trans hopens'.ensure
      cases hagain.hasPodSpec.podSpecOf.symm.trans hopens'.hasPodSpec.podSpecOf
      exact .edited hopens (hedits hfirst hsecond) (hreplaced.trans hreplaced')

theorem member {P : Option Doc → Option Doc → Prop} (hrefl : ∀ x, P x x)
    (hedits : ∀ ps ps', edits ps ps' → P (ps.lookup k) (ps'.lookup k)) (h : Touches edits nb nb') :
    P (nb.at? (podSpecPlace k)) (nb'.at? (podSpecPlace k)) := by
  cases h with
  | left => exact hrefl _
  | edited hopens hfirst hreplaced =>
    rw [hopens.at?, hreplaced.hasPodSpec.opens.at?]
    exact hedits _ _ hfirst

theorem changedWithin (h : Touches (KeepsForeign name signsIn) nb nb') :
    ChangedWithin (ownMembers.map podSpecPlace) nb nb' := by
  cases h with
  | left => exact .refl _ _
  | edited hopens hkeeps hreplaced =>
    have hmembers := changedWithin_members (by decide) hkeeps.members
    exact hopens.changedWithin (by decide) hmembers hreplaced

end Touches

theorem resolve_touches (operatorNamespace : String) (hname : nb.name = .ok name) :
    (Image.resolve operatorNamespace nb).Yields (Touches (PodEdits name signsIn) nb) := by
  unfold Image.resolve
  refine (Action.Yields.any _).seq fun selection _ => ?_
  split
  · exact .pure .left
  refine (Action.Yields.liftM_fault fun _ => id).seq fun primary? hprimary? => ?_
  obtain ⟨nb₀, ps, hopens⟩ := opens_of_primaryIndex? hprimary?
  rw [hopens.primaryIndex? hname] at hprimary?
  refine (Action.Yields.liftM_fault fun _ => id).seq fun nb₁ hensure => ?_
  cases hopens.ensure.symm.trans hensure
  have hself : Touches (PodEdits name signsIn) nb nb₀ :=
    .edited hopens .refl (podSpecReplaced_self hopens.hasPodSpec)
  cases primary? with
  | none => exact .pure hself
  | some i =>
    obtain ⟨cs, c, hprimary⟩ := primary_of_primaryIn? hprimary?
    refine (Action.Yields.any _).seq fun container _ => ?_
    refine (Action.Yields.any _).seq fun image _ => ?_
    refine (Action.Yields.any _).seq fun isFinal _ => ?_
    split
    · exact .pure hself
    refine (Action.Yields.any _).seq fun reference? _ => ?_
    cases reference? with
    | none => exact .pure hself
    | some reference =>
      refine .liftM_fault fun nb' hmodify => ?_
      obtain ⟨c', hput, hreplaced⟩ :=
        (modifyContainer_eq_ok_iff hopens.hasPodSpec hprimary).mp hmodify
      exact .edited hopens (.single (.image ⟨cs, i, c, c', hprimary, hput, rfl⟩)) hreplaced

theorem mountBundle_touches (hname : nb.name = .ok name) :
    (mountBundle nb).Yields (Touches (PodEdits name signsIn) nb) := by
  unfold mountBundle
  refine (Action.Yields.any _).seq fun ns _ => ?_
  refine (Action.Yields.any _).seq fun isProvided _ => ?_
  split
  · exact .pure .left
  refine (Action.Yields.any _).seq fun isMerged _ => ?_
  split
  · exact .pure .left
  refine .liftM_trouble fun nb' hmount => ?_
  obtain ⟨i, hindex, -⟩ := bind_eq_ok_iff.mp hmount
  obtain ⟨nb₀, ps, hopens⟩ := opens_of_primaryIndex? (primaryIndex_eq_ok_iff.mp hindex)
  obtain ⟨volumes, ps', hvolumes, hedit, hreplaced⟩ := (mount_eq_ok_iff hname hopens).mp hmount
  exact .edited hopens ((Relation.ReflTransGen.single (.volume hvolumes)).tail (.mount hedit))
    hreplaced

theorem isObj_of_name (hname : nb.name = .ok name) : nb.isObj = true := by
  obtain ⟨_, hmetadata, -⟩ := bind_eq_ok_iff.mp hname
  obtain ⟨ms, rfl, -⟩ := require_eq_ok_iff.mp hmetadata
  rfl

theorem editPod_touches (hname : nb.name = .ok name) :
    (editPod settings operation nb).Yields (Touches (PodEdits name signsIn) nb) := by
  unfold editPod
  split
  · have hresolve : (Image.resolve settings.ns nb).Yields
        (Touches (PodEdits name signsIn) nb) := resolve_touches settings.ns hname
    refine hresolve.seq fun nb₁ h₁ => ?_
    have hname₁ := (name_of_sameBut (h₁.sameBut (isObj_of_name hname))).trans hname
    exact (mountBundle_touches hname₁).mono fun _ h₂ => h₁.trans .trans h₂
  · exact .pure .left

theorem addSidecar_touches (hname : nb.name = .ok name)
    (h : addSidecar settings nb = .ok (some nb')) :
    Touches (PodEdits name (nb.oauthEnabled = .ok true)) nb nb' := by
  obtain ⟨asksForSignIn, hsignIn, h⟩ := bind_eq_ok_iff.mp h
  cases asksForSignIn with
  | false =>
    cases h
    exact .left
  | true =>
    obtain ⟨asksForMesh, -, h⟩ := bind_eq_ok_iff.mp h
    cases asksForMesh with
    | true => cases h
    | false =>
      obtain ⟨_, hinject, h⟩ := bind_eq_ok_iff.mp h
      cases h
      obtain ⟨nb₀, ps, hopens⟩ := opens_of_inject hinject
      obtain ⟨c, containers, volumes, hc, hcontainers, hvolumes, hreplaced⟩ :=
        (inject_eq_ok_iff hname hopens).mp hinject
      exact .edited hopens
        (.single (.sidecar hsignIn (require_container hc) hcontainers hvolumes)) hreplaced

/-- **All edits of a notebook**, after it was prepared, are edits of its pod template. -/
theorem edit_podEdits {σ : Type} {h : Host σ} {s s' : σ} (hplaced : nb.Placed name ns)
    (hrun : (edit settings operation nb).run h s = (.ok (some edited), s')) :
    ∃ start, prepare operation nb = .ok start ∧
      Touches (PodEdits name (nb.oauthEnabled = .ok true)) start edited := by
  rw [edit_eq_editPod] at hrun
  obtain ⟨start, _, hlift, hrun⟩ := Action.run_seq_eq_ok_iff.mp hrun
  obtain ⟨hprepare, rfl⟩ := Action.run_liftM_fault_eq_ok_iff.mp hlift
  obtain ⟨nb₁, _, hpod, hlift'⟩ := Action.run_seq_eq_ok_iff.mp hrun
  obtain ⟨hadd, -⟩ := Action.run_liftM_fault_eq_ok_iff.mp hlift'
  have hname : start.name = .ok name := name_of_placed (placed_prepare hplaced hprepare)
  have htouched : Touches (PodEdits name (nb.oauthEnabled = .ok true)) start nb₁ :=
    (editPod_touches hname).of_run hpod
  have hspec := htouched.sameBut (isObj_of_name hname)
  have hoauth : nb₁.oauthEnabled = nb.oauthEnabled := by
    rw [oauthEnabled, annotationValue_of_sameBut hspec,
      annotationValue_prepare hprepare (by decide), oauthEnabled]
  have hadded := addSidecar_touches ((name_of_sameBut hspec).trans hname) hadd
  rw [hoauth] at hadded
  exact ⟨start, hprepare, htouched.trans .trans hadded⟩

theorem edit_touches {σ : Type} {h : Host σ} {s s' : σ} (hplaced : nb.Placed name ns)
    (hnull : name ≠ .null) (hrun : (edit settings operation nb).run h s = (.ok (some edited), s')) :
    ∃ start, prepare operation nb = .ok start ∧
      Touches (KeepsForeign name (nb.oauthEnabled = .ok true)) start edited := by
  obtain ⟨start, hprepare, htouched⟩ := edit_podEdits hplaced hrun
  exact ⟨start, hprepare, htouched.mono (PodEdits.keepsForeign hnull)⟩

/-! ## The guard -/

/-- The guard lets the edits through, or puts the template back and notes them. -/
theorem settle_cases {edits : List Member → List Member → Prop} {old mutated : Notebook}
    {m : List Member} (hmeta : SameBut "metadata" raw start)
    (hm : start.require "metadata" = .ok (.obj m)) (h : Touches edits start edited)
    (hsettle : settle operation old raw edited = .ok mutated) :
    mark .allow edited = .ok mutated ∨ ∃ reason held,
      Touches (fun ps ps' => ps' = ps) start held ∧ mark (.deferred reason) held = .ok mutated := by
  obtain ⟨decision, hdecide, hsettle⟩ := bind_eq_ok_iff.mp hsettle
  obtain ⟨settled, happly, hmark⟩ := bind_eq_ok_iff.mp hsettle
  cases decision with
  | allow =>
    cases happly
    exact .inl hmark
  | deferred reason =>
    refine .inr ⟨reason, settled, ?_, hmark⟩
    have hm' := ((h.sameBut hmeta.isObj).require (by decide)).trans hm
    obtain ⟨-, -, hcompare⟩ := (RestartGuard.decide_deferred_iff hm').mp hdecide
    obtain ⟨before, wanted, after, -, hwanted, hsame, hafter, hdiffer, -⟩ :=
      RestartGuard.compareTemplates_deferred_iff.mp hcompare
    have hstart : start.templateSpec = .ok wanted := (templateSpec_of_sameBut hmeta).trans hwanted
    cases h with
    | left =>
      -- A template that was left alone does not wait.
      cases hstart.symm.trans hafter
      cases hsame.symm.trans hdiffer
    | edited hopens _ hreplaced =>
      cases hstart.symm.trans hopens.templateSpec
      have hheld := (RestartGuard.hold_eq_ok_iff hwanted hreplaced.hasPodSpec).mp happly
      exact .edited hopens rfl (hreplaced.trans hheld)

theorem settle_touches {edits : List Member → List Member → Prop} {old mutated : Notebook}
    {m : List Member} (hrefl : ∀ ps, edits ps ps) (hmeta : SameBut "metadata" raw start)
    (hm : start.require "metadata" = .ok (.obj m)) (h : Touches edits start edited)
    (hsettle : settle operation old raw edited = .ok mutated) :
    ∃ decision settled, Touches edits start settled ∧ mark decision settled = .ok mutated := by
  rcases settle_cases hmeta hm h hsettle with hmark | ⟨reason, held, hheld, hmark⟩
  · exact ⟨.allow, edited, h, hmark⟩
  · refine ⟨.deferred reason, held, hheld.mono ?_, hmark⟩
    rintro ps _ rfl
    exact hrefl _

theorem mark_changedWithin {decision : RestartGuard.Decision} {m : List Member}
    (hm : nb.require "metadata" = .ok (.obj m)) (h : mark decision nb = .ok nb') :
    ChangedWithin [annotationPlace AnnotationKey.updatePending] nb nb' := by
  cases decision with
  | deferred reason => exact (changedWithin_annotate hm h).1
  | allow =>
    obtain ⟨isPending, -, h⟩ := bind_eq_ok_iff.mp h
    cases isPending with
    | true => exact changedWithin_dropAnnotation h
    | false =>
      cases h
      exact .refl _ _

/-! ## Requests -/

/-- The places of a notebook that the operator edits. -/
def ownPlaces : List Place :=
  namespacePlace :: annotationPlace AnnotationKey.stopped ::
    annotationPlace AnnotationKey.updatePending :: ownMembers.map podSpecPlace

/-- All that an operation, requested in a namespace, may have changed in the notebook `raw` of a
name. -/
structure ChangesOwn (operation ns name : Doc) (raw mutated : Notebook) : Prop where
  /-- The operator's places, and the objects around them where they are missing. -/
  within : ChangedWithin ownPlaces raw mutated
  /-- The namespace is filled in when there is none. -/
  placed : mutated.at? namespacePlace = if ((raw.at? namespacePlace).getD .null).truthy then
    raw.at? namespacePlace else some ns
  /-- A new notebook is held back. -/
  stopped : mutated.at? (annotationPlace AnnotationKey.stopped) =
    if operation = RestartGuard.createOperation then some (.str AnnotationKey.lockValue)
    else raw.at? (annotationPlace AnnotationKey.stopped)
  /-- The containers of other names are kept, and their order. -/
  containers : others (ownContainers name) (entriesOf (mutated.at? (podSpecPlace "containers"))) =
    others (ownContainers name) (entriesOf (raw.at? (podSpecPlace "containers")))
  /-- So are the volumes. -/
  volumes : others ownVolumes (entriesOf (mutated.at? (podSpecPlace "volumes"))) =
    others ownVolumes (entriesOf (raw.at? (podSpecPlace "volumes")))
  /-- The account is another one only if sign-in is asked for. -/
  account : raw.oauthEnabled ≠ .ok true →
    mutated.at? (podSpecPlace "serviceAccountName") = raw.at? (podSpecPlace "serviceAccountName")

theorem allApart_ownPlaces : Place.AllApart ownPlaces := by decide

theorem prepare_changedWithin {m : List Member} (hm : nb.require "metadata" = .ok (.obj m))
    (h : prepare operation nb = .ok start) :
    ChangedWithin [annotationPlace AnnotationKey.stopped] nb start ∧
      start.at? (annotationPlace AnnotationKey.stopped) =
        if operation = RestartGuard.createOperation then some (.str AnnotationKey.lockValue)
        else nb.at? (annotationPlace AnnotationKey.stopped) := by
  unfold prepare at h
  split at h
  · next hcreate =>
    rw [if_pos hcreate]
    exact changedWithin_annotate hm h
  · next hcreate =>
    cases h
    rw [if_neg hcreate]
    exact ⟨.refl _ _, rfl⟩

theorem fillNamespace_changedWithin {filled : Notebook} (h : fillNamespace ns raw = .ok filled) :
    ChangedWithin [namespacePlace] raw filled ∧ filled.at? namespacePlace =
      if ((raw.at? namespacePlace).getD .null).truthy then raw.at? namespacePlace else some ns := by
  obtain ⟨m, hm⟩ := require_of_fillNamespace h
  have hreplaced := (fillNamespace_eq_ok_iff hm).mp h
  have hmeta : SameBut "namespace" (.obj m) (.obj (withNamespace ns m)) :=
    ⟨m, _, rfl, rfl, fun k hk => lookup_withNamespace hk⟩
  refine ⟨hreplaced.changedWithin (by simp) hmeta.changedWithin, ?_⟩
  rw [namespacePlace, at?_metadata hreplaced.require, at?_metadata hm, withNamespace]
  split
  · rfl
  · exact lookup_setMember_self _ _ _

theorem at?_podSpecPlace {p : Place} (h : ChangedWithin [.member "metadata" :: p] nb nb')
    (k : String) : nb'.at? (podSpecPlace k) = nb.at? (podSpecPlace k) :=
  h.outside _ (List.forall_mem_singleton.mpr (Place.apart_of_ne (by decide)))

theorem changesOwn_of_steps {filled settled mutated : Notebook}
    (hcontainers : NamesDiffer (entriesOf (raw.at? (podSpecPlace "containers"))))
    (hvolumes : NamesDiffer (entriesOf (raw.at? (podSpecPlace "volumes"))))
    (hfilled : fillNamespace ns raw = .ok filled) (hprepare : prepare operation filled = .ok start)
    (htouched : Touches (KeepsForeign name (raw.oauthEnabled = .ok true)) start settled)
    (hmark : ChangedWithin [annotationPlace AnnotationKey.updatePending] settled mutated) :
    ChangesOwn operation ns name raw mutated := by
  obtain ⟨m, hm⟩ := require_of_fillNamespace hfilled
  obtain ⟨hfill, hplaced⟩ := fillNamespace_changedWithin hfilled
  obtain ⟨hhold, hstopped⟩ :=
    prepare_changedWithin ((fillNamespace_eq_ok_iff hm).mp hfilled).require hprepare
  have hpod := htouched.changedWithin
  have hbefore : ∀ k, start.at? (podSpecPlace k) = raw.at? (podSpecPlace k) := fun k =>
    (at?_podSpecPlace hhold k).trans (at?_podSpecPlace hfill k)
  have hafter := at?_podSpecPlace hmark
  constructor
  case within =>
    have hfill' : ChangedWithin ownPlaces raw filled := hfill.mono (by decide) allApart_ownPlaces
    have hhold' : ChangedWithin ownPlaces filled start := hhold.mono (by decide) allApart_ownPlaces
    have hpod' : ChangedWithin ownPlaces start settled := hpod.mono (by decide) allApart_ownPlaces
    have hmark' : ChangedWithin ownPlaces settled mutated :=
      hmark.mono (by decide) allApart_ownPlaces
    exact hfill'.trans (hhold'.trans (hpod'.trans hmark'))
  case placed =>
    rw [hmark.outside _ (by decide), hpod.outside _ (by decide), hhold.outside _ (by decide),
      hplaced]
  case stopped =>
    rw [hmark.outside _ (by decide), hpod.outside _ (by decide), hstopped,
      hfill.outside _ (by decide)]
  case containers =>
    have hkeeps := htouched.member (k := "containers") (.refl _) fun _ _ h => h.containers
    rw [hbefore] at hkeeps
    rw [hafter]
    exact (hkeeps hcontainers).2
  case volumes =>
    have hkeeps := htouched.member (k := "volumes") (.refl _) fun _ _ h => h.volumes
    rw [hbefore] at hkeeps
    rw [hafter]
    exact (hkeeps hvolumes).2
  case account =>
    intro hnot
    have hkeeps : settled.at? (podSpecPlace "serviceAccountName") = _ :=
      htouched.member (P := fun x y => y = x) (fun _ => rfl) fun _ _ h => h.account hnot
    rw [hafter, hkeeps, hbefore]

/-- **The operator changes only what it owns.** When a request is answered with a notebook that is
let in, and no name of a container or of a volume repeats in the submitted one, the two differ in
the places of the operator alone. -/
theorem handle_changes_own {σ : Type} {h : Host σ} {s s' : σ} {request : Doc} {answer : Answer}
    (hobject : request.read "object" = .ok raw)
    (hcontainers : NamesDiffer (entriesOf (raw.at? (podSpecPlace "containers"))))
    (hvolumes : NamesDiffer (entriesOf (raw.at? (podSpecPlace "volumes"))))
    (hrun : (handle settings request).run h s = (.ok answer, s'))
    (hallowed : answer.response.allowed = true) :
    ∃ operation ns name mutated, request.read "operation" = .ok operation ∧
      request.read "namespace" = .ok ns ∧ raw.name = .ok name ∧
      answer.verdict = .admitted mutated ∧ answer.patch = Patch.between raw mutated ∧
      answer.response = .admitted answer.uid answer.patch ∧
      ChangesOwn operation ns name raw mutated := by
  obtain ⟨mutated, hanswer⟩ := Answer.allowed_iff.mp hallowed
  have hverdict := run_verdict hobject hrun
  rw [hanswer] at hverdict
  obtain ⟨operation, old, ns, filled, edited, hoperation, hnamed, -, -, hns, hfilled, hedit,
    hsettle⟩ := verdict_admitted_iff.mp hverdict
  obtain ⟨name, ns', hplaced, hname, htruthy, -⟩ := placed_of_fillNamespace hnamed hfilled
  have hnull : name ≠ .null := by
    rintro rfl
    cases htruthy
  obtain ⟨start, hprepare, htouched⟩ := edit_touches hplaced hnull hedit
  have hoauth : filled.oauthEnabled = raw.oauthEnabled := by
    rw [oauthEnabled, annotationValue, annotations_fillNamespace hfilled, oauthEnabled,
      annotationValue]
  rw [hoauth] at htouched
  obtain ⟨m, hm, -⟩ := placed_prepare hplaced hprepare
  have hmeta := (sameBut_fillNamespace hfilled).trans
    (sameBut_prepare (sameBut_fillNamespace hfilled).isObj hprepare)
  obtain ⟨decision, settled, htouched', hmark⟩ :=
    settle_touches (.refl _ _) hmeta hm htouched hsettle
  have hm' := ((htouched'.sameBut hmeta.isObj).require (by decide)).trans hm
  have hsubmitted : answer.submitted = raw := by
    obtain ⟨-, -, -, -, -, -, hread, -⟩ := handle_admitted hrun hanswer
    exact Except.ok.inj (hread.symm.trans hobject)
  have hchanges := changesOwn_of_steps hcontainers hvolumes hfilled hprepare htouched'
    (mark_changedWithin hm' hmark)
  refine ⟨operation, ns, name, mutated, hoperation, hns, hname, hanswer, ?_,
    Answer.response_of_admitted hanswer, hchanges⟩
  rw [Answer.patch_of_admitted hanswer, hsubmitted]

/-- A container of a user, which comes before the one of the notebook. -/
def databaseContainer : Doc := .obj [("name", "database"), ("image", "db-1")]

/-- A volume of a user. -/
def dataVolume : Doc := .obj [("name", "data"), ("emptyDir", .obj [])]

/-- A notebook with a container and a volume of its user, who asks for sign-in. -/
def furnishedNotebook : Notebook :=
  .obj [
    ("metadata", .obj [
      ("name", "wb"),
      ("namespace", "ns"),
      ("annotations", .obj [(AnnotationKey.injectOAuth, "true")])]),
    ("spec", .obj [("template", .obj [("spec", .obj [
      ("containers", .arr [databaseContainer, .obj [("name", "wb"), ("image", "lab-1")]]),
      ("volumes", .arr [dataVolume])])])])]

/-- The notebook is made with its container and its volume, and held back. -/
theorem handle_furnished_keeps : ∃ answer s ns mutated,
    (handle {} (creationOf furnishedNotebook)).run Memory.host {} = (.ok answer, s) ∧
    answer.verdict = .admitted mutated ∧
    ChangesOwn RestartGuard.createOperation ns (.str "wb") furnishedNotebook mutated ∧
    others (ownContainers (.str "wb")) (entriesOf (mutated.at? (podSpecPlace "containers"))) =
      [databaseContainer] ∧
    others ownVolumes (entriesOf (mutated.at? (podSpecPlace "volumes"))) = [dataVolume] := by
  have hallowed : ((handle {} (creationOf furnishedNotebook)).run Memory.host {}).1.map
      (fun answer => answer.response.allowed) = .ok true := by decide +kernel
  rcases hrun : (handle {} (creationOf furnishedNotebook)).run Memory.host {} with ⟨t | answer, s⟩
  · rw [hrun] at hallowed
    cases hallowed
  rw [hrun] at hallowed
  have hcontainers :
      NamesDiffer (entriesOf (furnishedNotebook.at? (podSpecPlace "containers"))) := by
    refine List.pairwise_pair.mpr ?_
    rintro _ _ ⟨⟩ ⟨⟩
    decide
  have hvolumes : NamesDiffer (entriesOf (furnishedNotebook.at? (podSpecPlace "volumes"))) :=
    List.pairwise_singleton _ _
  obtain ⟨operation, ns, name, mutated, hoperation, -, hname, hanswer, -, -, hchanges⟩ :=
    handle_changes_own rfl hcontainers hvolumes hrun (Except.ok.inj hallowed)
  cases hoperation
  cases hname
  refine ⟨answer, s, ns, mutated, rfl, hanswer, hchanges, ?_, ?_⟩
  · rw [hchanges.containers]
    decide +kernel
  · rw [hchanges.volumes]
    decide +kernel

end Admission

end Workbench
