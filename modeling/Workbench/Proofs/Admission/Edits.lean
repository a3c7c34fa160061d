import Workbench.Proofs.Admission.Handler
import Workbench.Proofs.Admission.Template
import Workbench.Proofs.Annotations
import Workbench.Proofs.Cluster.Reads
import Workbench.Proofs.PodTemplate

/-!
# What the edits of a notebook come to

Each edit of a notebook leaves it alone, or creates its pod template and edits the specification
there. What the edits rest on besides is in other parts of the notebook, or in the cluster.

* `Admission.Plan.Fits`, `Admission.Plan.Holds`: a notebook and a cluster that have what a plan says;
* `Admission.Reaches`: a notebook and an edited one; `Admission.comp_iff` composes edits;
* `Admission.run_resolve_iff`, `Admission.run_mountBundle_iff`, `Admission.addSidecar_iff`: the three
  edits;
* **`Admission.run_editTemplate_iff`**: all of them; `Admission.exists_plan` says that edits that were
  made followed a plan.
-/

namespace Workbench

open Doc Notebook Entries

/-! ## Edits that may leave a notebook alone -/

namespace Admission

/-- The notebook is left alone, or its pod template is edited. -/
inductive Reaches (idle : Prop) (edits : List Member → List Member → Prop) (nb : Notebook) :
    Notebook → Prop where
  | left (h : idle) : Reaches idle edits nb nb
  | edited {nb₀ nb' : Notebook} {ps ps' : List Member} (h : ¬idle) (hopens : nb.Opens nb₀ ps)
    (hedits : edits ps ps') (hreplaced : PodSpecReplaced nb₀ nb' (.obj ps) (.obj ps')) :
    Reaches idle edits nb nb'

section Comp

variable {idle idle' : Prop} {R R' : List Member → List Member → Prop} {nb nb' nb₀ : Notebook}
  {ps : List Member}

theorem Reaches.sameBut (hnb : nb.isObj) (h : Reaches idle R nb nb') : SameBut "spec" nb nb' := by
  cases h with
  | left _ => exact .refl hnb
  | edited _ hopens _ hreplaced => exact hopens.sameBut.trans hreplaced.sameBut

/-- Edits made one after the other are edits by the composed relation. -/
theorem comp_iff (hidle : idle → ∀ ps ps', R ps ps' ↔ ps' = ps)
    (hidle' : idle' → ∀ ps ps', R' ps ps' ↔ ps' = ps) :
    (∃ nb₁, Reaches idle R nb nb₁ ∧ Reaches idle' R' nb₁ nb') ↔
      Reaches (idle ∧ idle') (Relation.Comp R R') nb nb' := by
  constructor
  · rintro ⟨nb₁, h₁ | ⟨h₁, hopens, hR, hreplaced⟩, h₂ | ⟨h₂, hopens', hR', hreplaced'⟩⟩
    · exact .left ⟨h₁, h₂⟩
    · exact .edited (fun h => h₂ h.2) hopens' ⟨_, (hidle h₁ _ _).mpr rfl, hR'⟩ hreplaced'
    · exact .edited (fun h => h₁ h.1) hopens ⟨_, hR, (hidle' h₂ _ _).mpr rfl⟩ hreplaced
    · -- The pod template is there when the second edit is made.
      have hagain := hreplaced.hasPodSpec.opens
      cases hagain.ensure.symm.trans hopens'.ensure
      cases hagain.hasPodSpec.podSpecOf.symm.trans hopens'.hasPodSpec.podSpecOf
      exact .edited (fun h => h₁ h.1) hopens ⟨_, hR, hR'⟩ (hreplaced.trans hreplaced')
  · rintro (⟨h₁, h₂⟩ | ⟨h, hopens, ⟨ps₁, hR, hR'⟩, hreplaced⟩)
    · exact ⟨nb, .left h₁, .left h₂⟩
    by_cases h₁ : idle
    · cases (hidle h₁ _ _).mp hR
      exact ⟨nb, .left h₁, .edited (fun h₂ => h ⟨h₁, h₂⟩) hopens hR' hreplaced⟩
    obtain ⟨nb₁, hreplaced₁⟩ := hopens.hasPodSpec.replace (.obj ps₁)
    by_cases h₂ : idle'
    · cases (hidle' h₂ _ _).mp hR'
      exact ⟨nb', .edited h₁ hopens hR hreplaced, .left h₂⟩
    · obtain ⟨nb₂, hreplaced₂⟩ := hreplaced₁.hasPodSpec.replace (.obj _)
      cases hreplaced.unique (hreplaced₁.trans hreplaced₂)
      exact ⟨nb₁, .edited h₁ hopens hR hreplaced₁,
        .edited h₂ hreplaced₁.hasPodSpec.opens hR' hreplaced₂⟩

end Comp

/-! ## Notebooks and clusters -/

/-- The namespace has the merged bundle, and the platform still provides certificates. -/
def bundleIsThere (ns : Doc) : Action Bool := do
  if !(← Action.exists? (TrustBundle.configMapAt ns TrustBundle.platformConfigMap)) then return false
  Action.exists? (TrustBundle.configMapAt ns bundleConfigMap)

namespace Plan

variable {plan : Plan} {settings : Settings} {ns : Doc} {nb nb' : Notebook} {key : String}
  {σ : Type} {h : Host σ} {s t : σ}

/-- The notebook has what the plan says. -/
structure Fits (plan : Plan) (settings : Settings) (ns : Doc) (nb : Notebook) : Prop where
  placed : nb.Placed plan.name ns
  selection : nb.annotationValue AnnotationKey.imageSelection = .ok plan.selection
  oauth : nb.oauthEnabled = .ok plan.sidecar?.isSome
  mesh : plan.sidecar?.isSome = true → nb.meshEnabled = .ok false
  container : ∀ c ∈ plan.sidecar?, Sidecar.container nb settings.proxyImage = .ok c

/-- The cluster answers what the plan says, and stays as it is. -/
structure Holds (plan : Plan) (settings : Settings) (ns : Doc) (h : Host σ) (s : σ) : Prop where
  found : (Image.lookUp settings.ns plan.selection).run h s = (plan.found, s)
  mounts : (bundleIsThere ns).run h s = (.ok plan.mounts, s)

theorem container_congr {nb nb' : Notebook} {name : Doc} (hname : nb.name = .ok name)
    (hname' : nb'.name = .ok name) (hvalue : nb'.annotationValue AnnotationKey.logoutUrl =
      nb.annotationValue AnnotationKey.logoutUrl) (image : String) :
    Sidecar.container nb' image = Sidecar.container nb image := by
  rw [Sidecar.container, Sidecar.container, hname, hname', hvalue]

/-- The annotations that a plan rests on. -/
def annotationKeys : List String := [
  AnnotationKey.imageSelection,
  AnnotationKey.injectOAuth,
  AnnotationKey.serviceMesh,
  AnnotationKey.logoutUrl]

theorem Fits.congr (hfits : plan.Fits settings ns nb) (hplaced : nb'.Placed plan.name ns)
    (hvalue : ∀ key ∈ annotationKeys, nb'.annotationValue key = nb.annotationValue key) :
    plan.Fits settings ns nb' := by
  refine ⟨hplaced, ?_, ?_, fun hmesh => ?_, fun c hc => ?_⟩
  · rw [hvalue _ (by decide), hfits.selection]
  · rw [oauthEnabled, hvalue _ (by decide), ← hfits.oauth, oauthEnabled]
  · rw [meshEnabled, hvalue _ (by decide), ← hfits.mesh hmesh, meshEnabled]
  · rw [container_congr (name_of_placed hfits.placed) (name_of_placed hplaced)
      (hvalue _ (by decide)), hfits.container c hc]

theorem Fits.of_sameBut (hfits : plan.Fits settings ns nb) (hsame : SameBut "spec" nb nb') :
    plan.Fits settings ns nb' :=
  hfits.congr (hfits.placed.of_sameBut hsame) fun key _ => annotationValue_of_sameBut hsame key

theorem Fits.of_note (hfits : plan.Fits settings ns nb) (hkey : key ∉ annotationKeys)
    (hsame : SameButAnnotation key nb nb') : plan.Fits settings ns nb' :=
  hfits.congr (hsame.placed hfits.placed) fun _ hk =>
    hsame.annotationValue fun heq => hkey (heq ▸ hk)

end Plan

/-! ## The image -/

section Steps

variable {plan : Plan} {settings : Settings} {ns : Doc} {nb nb' nb₀ : Notebook} {name c : Doc}
  {ps : List Member} {cs : List Doc} {i : Nat} {σ : Type} {h : Host σ} {s t : σ}

/-- The image that was picked, put into the container named like the notebook. -/
def pickImage (operatorNamespace : String) (selection : Doc) (i : Nat) (nb : Notebook) :
    Action Notebook := do
  let image := (← (← nb.container i).read "image").orElse ""
  if ← image.contains Image.clusterRegistry then return nb
  match ← Image.lookUp operatorNamespace selection with
  | none => return nb
  | some reference => nb.modifyContainer i (Image.putImage reference selection)

theorem pickImage_eq {operatorNamespace : String} {selection : Doc}
    (hcontainer : nb.container i = .ok c) : pickImage operatorNamespace selection i nb = (do
      if ← Image.isFinal c then return nb
      match ← Image.lookUp operatorNamespace selection with
      | none => return nb
      | some reference => nb.modifyContainer i (Image.putImage reference selection)) := by
  unfold pickImage Image.isFinal
  rw [hcontainer, Action.liftM_ok_seq, Action.liftM_fault_seq]
  exact (bind_assoc _ _ _).symm

theorem run_pickImage_iff {operatorNamespace : String} {selection : Doc}
    {found : Except Trouble (Option Doc)}
    (hfound : (Image.lookUp operatorNamespace selection).run h s = (found, s))
    (hspec : nb.HasPodSpec (.obj ps)) (hprimary : Primary name ps cs i c) :
    (pickImage operatorNamespace selection i nb).run h s = (.ok nb', t) ↔
      t = s ∧ ∃ c', Image.Chosen selection found c c' ∧ PodSpecReplaced nb nb' (.obj ps)
        (.obj (setMember "containers" (.arr (cs.set i c')) ps)) := by
  have hself : PodSpecReplaced nb nb (.obj ps)
      (.obj (setMember "containers" (.arr (cs.set i c)) ps)) := by
    rw [hprimary.replace_self]
    exact podSpecReplaced_self hspec
  rw [pickImage_eq (container_eq hspec hprimary)]
  simp only [Action.run_seq_eq_ok_iff, Action.run_liftM_fault_eq_ok_iff]
  constructor
  · rintro ⟨isFinal, _, ⟨hfinal, rfl⟩, hrun⟩
    cases isFinal with
    | true =>
      cases hrun
      exact ⟨rfl, c, .final hfinal, hself⟩
    | false =>
      obtain ⟨reference?, u, hlookUp, hrun⟩ := Action.run_seq_eq_ok_iff.mp hrun
      cases hfound.symm.trans hlookUp
      cases reference? with
      | none =>
        cases hrun
        exact ⟨rfl, c, .unknown hfinal rfl, hself⟩
      | some reference =>
        obtain ⟨hmodify, rfl⟩ := Action.run_liftM_fault_eq_ok_iff.mp hrun
        obtain ⟨c', hput, hreplaced⟩ := (modifyContainer_eq_ok_iff hspec hprimary).mp hmodify
        exact ⟨rfl, c', .picked hfinal rfl hput, hreplaced⟩
  · rintro ⟨rfl, c', hchosen, hreplaced⟩
    cases hchosen with
    | final hfinal =>
      cases hreplaced.unique hself
      exact ⟨true, t, ⟨hfinal, rfl⟩, rfl⟩
    | unknown hfinal hnone =>
      cases hreplaced.unique hself
      refine ⟨false, t, ⟨hfinal, rfl⟩, ?_⟩
      exact Action.run_seq_eq_ok_iff.mpr ⟨none, t, by rw [hfound, hnone], rfl⟩
    | picked hfinal hsome hput =>
      refine ⟨false, t, ⟨hfinal, rfl⟩, ?_⟩
      refine Action.run_seq_eq_ok_iff.mpr ⟨_, t, by rw [hfound, hsome], ?_⟩
      refine Action.run_liftM_fault_eq_ok_iff.mpr ⟨?_, rfl⟩
      exact (modifyContainer_eq_ok_iff hspec hprimary).mpr ⟨c', hput, hreplaced⟩

/-- The image goes into the container named like the notebook, if one was picked. -/
theorem run_resolve_iff (hfits : plan.Fits settings ns nb) (hholds : plan.Holds settings ns h s) :
    (Image.resolve settings.ns nb).run h s = (.ok nb', t) ↔
      t = s ∧ Reaches (plan.selection = .null) plan.Resolves nb nb' := by
  have hname := name_of_placed hfits.placed
  unfold Image.resolve
  rw [hfits.selection, Action.liftM_ok_seq]
  by_cases hnull : plan.selection = .null
  · rw [if_pos hnull]
    constructor
    · rintro ⟨⟩
      exact ⟨rfl, .left hnull⟩
    · rintro ⟨rfl, _ | ⟨hpicked, -, -, -⟩⟩
      · rfl
      · exact absurd hnull hpicked
  rw [if_neg hnull]
  simp only [Action.run_seq_eq_ok_iff, Action.run_liftM_fault_eq_ok_iff]
  constructor
  · rintro ⟨primary?, _, ⟨hindex, rfl⟩, nb₁, _, ⟨hensure, rfl⟩, hrun⟩
    obtain ⟨nb₀, ps, hopens⟩ := opens_of_primaryIndex? hindex
    cases hopens.ensure.symm.trans hensure
    rw [hopens.primaryIndex? hname] at hindex
    cases primary? with
    | none =>
      cases hrun
      exact ⟨rfl, .edited hnull hopens (.nameless hnull hindex) (podSpecReplaced_self hopens.hasPodSpec)⟩
    | some i =>
      obtain ⟨cs, c, hprimary⟩ := primary_of_primaryIn? hindex
      obtain ⟨rfl, c', hchosen, hreplaced⟩ :=
        (run_pickImage_iff hholds.found hopens.hasPodSpec hprimary).mp hrun
      exact ⟨rfl, .edited hnull hopens (.chosen hnull ⟨cs, i, c, c', hprimary, hchosen, rfl⟩) hreplaced⟩
  · rintro ⟨rfl, hnull' | ⟨-, hopens, hresolves, hreplaced⟩⟩
    · exact absurd hnull' hnull
    have hindex := hopens.primaryIndex? hname
    cases hresolves with
    | unpicked hnull' => exact absurd hnull' hnull
    | nameless _ hnone =>
      cases hreplaced.unique (podSpecReplaced_self hopens.hasPodSpec)
      exact ⟨none, t, ⟨hindex.trans hnone, rfl⟩, _, t, ⟨hopens.ensure, rfl⟩, rfl⟩
    | chosen _ hedit =>
      obtain ⟨cs, i, c, c', hprimary, hchosen, rfl⟩ := hedit
      refine ⟨some i, t, ⟨hindex.trans hprimary.primaryIn?, rfl⟩, _, t, ⟨hopens.ensure, rfl⟩, ?_⟩
      exact (run_pickImage_iff hholds.found hopens.hasPodSpec hprimary).mpr
        ⟨rfl, c', hchosen, hreplaced⟩

/-! ## The bundle -/

theorem mountBundle_eq (nb : Notebook) : mountBundle nb = do
    let ns ← nb.namespace'
    if ← bundleIsThere ns then TrustBundle.mount nb else return nb := by
  unfold mountBundle bundleIsThere
  refine bind_congr fun ns => ?_
  rw [bind_assoc]
  refine bind_congr fun isProvided => ?_
  cases isProvided with
  | false => rfl
  | true =>
    refine bind_congr fun isMerged => ?_
    cases isMerged <;> rfl

theorem addVolume_eq_ok_iff {spec : Doc} : TrustBundle.addVolume (.obj ps) = .ok spec ↔
    ∃ volumes, Gains ((ps.lookup "volumes").getD .null) [TrustBundle.volume] volumes ∧
      spec = .obj (setMember "volumes" (.arr volumes.toList) ps) := by
  simp only [TrustBundle.addVolume, Gains, read_obj, ok_bind, bind_eq_ok_iff, put_eq_ok_iff,
    List.foldlM_cons, List.foldlM_nil, pure_eq_ok, Except.ok.injEq, Doc.obj.injEq]
  constructor
  · rintro ⟨E, hE, F, hF, _, rfl, rfl⟩
    exact ⟨F, ⟨E, hE, F, hF, rfl⟩, rfl⟩
  · rintro ⟨F, ⟨E, hE, _, hF, rfl⟩, rfl⟩
    exact ⟨E, hE, _, hF, ps, rfl, rfl⟩

theorem mount_eq_ok_iff (hname : nb.name = .ok name) (hopens : nb.Opens nb₀ ps) :
    TrustBundle.mount nb = .ok nb' ↔ ∃ volumes ps',
      Gains ((ps.lookup "volumes").getD .null) [TrustBundle.volume] volumes ∧
      EditsPrimary name (fun c c' => TrustBundle.mountInContainer c = .ok c')
        (setMember "volumes" (.arr volumes.toList) ps) ps' ∧
      PodSpecReplaced nb₀ nb' (.obj ps) (.obj ps') := by
  have hcontainers : ∀ volumes : Entries,
      (setMember "volumes" (.arr volumes.toList) ps).lookup "containers" =
        ps.lookup "containers" := fun volumes => by
    rw [lookup_setMember, if_neg (by decide)]
  simp only [TrustBundle.mount, bind_eq_ok_iff, primaryIndex_eq_ok_iff, liftM_fault_eq_ok_iff,
    hopens.primaryIndex? hname]
  constructor
  · rintro ⟨i, hindex, _, hensure, nb₂, hvolume, hmount⟩
    cases hopens.ensure.symm.trans hensure
    obtain ⟨_, hadd, hreplaced⟩ := (modifyPodSpec_eq_ok_iff hopens.hasPodSpec).mp hvolume
    obtain ⟨volumes, hvolumes, rfl⟩ := addVolume_eq_ok_iff.mp hadd
    obtain ⟨cs, c, hprimary⟩ := primary_of_primaryIn? hindex
    have hprimary' := hprimary.of_lookup (hcontainers volumes)
    obtain ⟨c', hc, hreplaced'⟩ :=
      (modifyContainer_eq_ok_iff hreplaced.hasPodSpec hprimary').mp hmount
    exact ⟨volumes, _, hvolumes, ⟨cs, i, c, c', hprimary', hc, rfl⟩, hreplaced.trans hreplaced'⟩
  · rintro ⟨volumes, _, hvolumes, ⟨cs, i, c, c', hprimary', hc, rfl⟩, hreplaced⟩
    have hprimary := hprimary'.of_lookup (hcontainers volumes).symm
    obtain ⟨nb₂, hreplaced₂⟩ := hopens.hasPodSpec.replace
      (.obj (setMember "volumes" (.arr volumes.toList) ps))
    obtain ⟨nb₃, hreplaced₃⟩ := hreplaced₂.hasPodSpec.replace (.obj (setMember "containers"
      (.arr (cs.set i c')) (setMember "volumes" (.arr volumes.toList) ps)))
    cases hreplaced.unique (hreplaced₂.trans hreplaced₃)
    refine ⟨i, hprimary.primaryIn?, nb₀, hopens.ensure, nb₂, ?_, ?_⟩
    · exact (modifyPodSpec_eq_ok_iff hopens.hasPodSpec).mpr
        ⟨_, addVolume_eq_ok_iff.mpr ⟨volumes, hvolumes, rfl⟩, hreplaced₂⟩
    · exact (modifyContainer_eq_ok_iff hreplaced₂.hasPodSpec hprimary').mpr ⟨c', hc, hreplaced₃⟩

/-- The bundle is mounted when it is there. -/
theorem run_mountBundle_iff (hfits : plan.Fits settings ns nb)
    (hholds : plan.Holds settings ns h s) : (mountBundle nb).run h s = (.ok nb', t) ↔
      t = s ∧ Reaches (plan.mounts = false) plan.Mounts nb nb' := by
  have hname := name_of_placed hfits.placed
  rw [mountBundle_eq, namespace_of_placed hfits.placed, Action.liftM_ok_seq, Action.run_seq,
    hholds.mounts]
  cases hmounts : plan.mounts with
  | false =>
    constructor
    · rintro ⟨⟩
      exact ⟨rfl, .left rfl⟩
    · rintro ⟨rfl, _ | ⟨hthere, -, -, -⟩⟩
      · rfl
      · exact absurd rfl hthere
  | true =>
    have hrun : (liftM (TrustBundle.mount nb) : Action Notebook).run h s = (.ok nb', t) ↔
        t = s ∧ TrustBundle.mount nb = .ok nb' := by
      rw [Action.run_liftM_trouble, Prod.mk.injEq, and_comm, eq_comm (a := s)]
    refine hrun.trans (and_congr_right fun _ => ?_)
    constructor
    · intro hmount
      obtain ⟨i, hindex, -⟩ := bind_eq_ok_iff.mp hmount
      obtain ⟨nb₀, ps, hopens⟩ := opens_of_primaryIndex? (primaryIndex_eq_ok_iff.mp hindex)
      obtain ⟨volumes, ps', hvolumes, hedit, hreplaced⟩ :=
        (mount_eq_ok_iff hname hopens).mp hmount
      exact .edited (by simp) hopens (.mounted hmounts hvolumes hedit) hreplaced
    · rintro (hleft | ⟨-, hopens, hedits, hreplaced⟩)
      · cases hleft
      cases hedits with
      | absent habsent => cases hmounts.symm.trans habsent
      | mounted _ hvolumes hedit =>
        exact (mount_eq_ok_iff hname hopens).mpr ⟨_, _, hvolumes, hedit, hreplaced⟩

/-! ## The sign-in proxy -/

theorem inject_eq_ok_iff {image : String} (hname : nb.name = .ok name) (hopens : nb.Opens nb₀ ps) :
    Sidecar.inject image nb = .ok nb' ↔ ∃ c containers volumes,
      Sidecar.container nb₀ image = .ok c ∧
      Gains ((ps.lookup "containers").getD .null) [c] containers ∧
      Gains ((ps.lookup "volumes").getD .null) (Sidecar.volumes name) volumes ∧
      PodSpecReplaced nb₀ nb' (.obj ps)
        (.obj (Plan.withSidecar name containers volumes ps)) := by
  simp only [Sidecar.inject, hname, hopens.ensure, hopens.hasPodSpec.podSpecOf, ok_bind, read_obj,
    modifyPodSpec_eq_ok_iff hopens.hasPodSpec, Sidecar.volumes, Gains, List.foldlM_cons,
    List.foldlM_nil, bind_eq_ok_iff, put_eq_ok_iff, pure_eq_ok, Except.ok.injEq]
  constructor
  · rintro ⟨E, hE, c, hc, F, hF, V, hV, V₁, hV₁, V₂, hV₂, _, ⟨_, ⟨_, hps, rfl⟩, _, ⟨_, h₂, rfl⟩, _, h₃, rfl⟩,
      hreplaced⟩
    cases hps
    cases h₂
    cases h₃
    exact ⟨c, F, V₂, hc, ⟨E, hE, F, hF, rfl⟩, ⟨V, hV, V₁, hV₁, V₂, hV₂, rfl⟩, hreplaced⟩
  · rintro ⟨c, F, V₂, hc, ⟨E, hE, _, hF, rfl⟩, ⟨V, hV, V₁, hV₁, _, hV₂, rfl⟩, hreplaced⟩
    exact ⟨E, hE, c, hc, _, hF, V, hV, V₁, hV₁, _, hV₂, _,
      ⟨_, ⟨ps, rfl, rfl⟩, _, ⟨_, rfl, rfl⟩, _, rfl, rfl⟩, hreplaced⟩

theorem opens_of_inject {image : String} (h : Sidecar.inject image nb = .ok nb') :
    ∃ nb₀ ps, nb.Opens nb₀ ps := by
  obtain ⟨_, -, h⟩ := bind_eq_ok_iff.mp h
  obtain ⟨nb₀, hensure, h⟩ := bind_eq_ok_iff.mp h
  obtain ⟨_, hspec, h⟩ := bind_eq_ok_iff.mp h
  obtain ⟨_, hread, -⟩ := bind_eq_ok_iff.mp h
  obtain ⟨ps, rfl, -⟩ := read_eq_ok_iff.mp hread
  exact ⟨nb₀, ps, hensure, hasPodSpec_of_podSpecOf hspec⟩

/-- The sign-in proxy is put in when it is asked for. -/
theorem addSidecar_iff (hfits : plan.Fits settings ns nb) :
    addSidecar settings nb = .ok (some nb') ↔ Reaches (plan.sidecar? = none) plan.Injects nb nb' := by
  have hname := name_of_placed hfits.placed
  rw [addSidecar, hfits.oauth, ok_bind]
  cases hsidecar : plan.sidecar? with
  | none =>
    constructor
    · rintro ⟨⟩
      exact .left rfl
    · rintro (_ | ⟨hasked, -, -, -⟩)
      · rfl
      · exact absurd rfl hasked
  | some c =>
    have hmesh := hfits.mesh (by rw [hsidecar]; rfl)
    have hinject : (nb.meshEnabled >>= fun mesh => if mesh = true then pure none else
        Sidecar.inject settings.proxyImage nb >>= fun nb' => pure (some nb')) = .ok (some nb') ↔
          Sidecar.inject settings.proxyImage nb = .ok nb' := by
      rw [hmesh, ok_bind, if_neg (by decide), bind_eq_ok_iff]
      simp
    refine hinject.trans ⟨fun h => ?_, ?_⟩
    · obtain ⟨nb₀, ps, hopens⟩ := opens_of_inject h
      obtain ⟨c', containers, volumes, hc, hcontainers, hvolumes, hreplaced⟩ :=
        (inject_eq_ok_iff hname hopens).mp h
      cases ((hfits.of_sameBut hopens.sameBut).container c hsidecar).symm.trans hc
      exact .edited (by simp) hopens (.injected hsidecar hcontainers hvolumes) hreplaced
    · rintro (hleft | ⟨-, hopens, hedits, hreplaced⟩)
      · cases hleft
      cases hedits with
      | unasked hnone => cases hsidecar.symm.trans hnone
      | @injected c' containers volumes hsome hcontainers hvolumes =>
        cases hsidecar.symm.trans hsome
        exact (inject_eq_ok_iff hname hopens).mpr ⟨c, containers, volumes,
          (hfits.of_sameBut hopens.sameBut).container c hsidecar, hcontainers, hvolumes, hreplaced⟩

/-! ## All edits -/

/-- The edits of the pod template; none when the notebook asks for sign-in and for the mesh. -/
def editTemplate (settings : Settings) (nb : Notebook) : Action (Option Notebook) := do
  addSidecar settings (← editContainers settings nb)

/-- There is nothing to edit. -/
def Plan.Idle (plan : Plan) : Prop :=
  (plan.selection = .null ∧ plan.mounts = false) ∧ plan.sidecar? = none

theorem run_editContainers_iff (hfits : plan.Fits settings ns nb)
    (hholds : plan.Holds settings ns h s) :
    (editContainers settings nb).run h s = (.ok nb', t) ↔
      t = s ∧ Reaches (plan.selection = .null ∧ plan.mounts = false)
        (Relation.Comp plan.Resolves plan.Mounts) nb nb' := by
  rw [← comp_iff (fun hnull _ _ => plan.resolves_iff_of_unpicked hnull)
    (fun habsent _ _ => plan.mounts_iff_of_absent habsent)]
  simp only [editContainers, Action.run_seq_eq_ok_iff, run_resolve_iff hfits hholds]
  constructor
  · rintro ⟨nb₁, _, ⟨rfl, h₁⟩, hmount⟩
    have hfits₁ := hfits.of_sameBut (h₁.sameBut hfits.placed.isObj)
    obtain ⟨rfl, h₂⟩ := (run_mountBundle_iff hfits₁ hholds).mp hmount
    exact ⟨rfl, nb₁, h₁, h₂⟩
  · rintro ⟨rfl, nb₁, h₁, h₂⟩
    have hfits₁ := hfits.of_sameBut (h₁.sameBut hfits.placed.isObj)
    exact ⟨nb₁, t, ⟨rfl, h₁⟩, (run_mountBundle_iff hfits₁ hholds).mpr ⟨rfl, h₂⟩⟩

/-- **The edits of a notebook create its pod template and edit the specification there**, unless there
is nothing to edit. -/
theorem run_editTemplate_iff (hfits : plan.Fits settings ns nb)
    (hholds : plan.Holds settings ns h s) :
    (editTemplate settings nb).run h s = (.ok (some nb'), t) ↔
      t = s ∧ Reaches plan.Idle plan.Edits nb nb' := by
  have hidle : plan.selection = .null ∧ plan.mounts = false → ∀ ps ps',
      Relation.Comp plan.Resolves plan.Mounts ps ps' ↔ ps' = ps := by
    rintro ⟨hnull, habsent⟩ ps ps'
    simp only [Relation.Comp, plan.resolves_iff_of_unpicked hnull, plan.mounts_iff_of_absent habsent,
      exists_eq_left]
  rw [Plan.Idle, Plan.Edits, ← comp_iff hidle fun hnone _ _ => plan.injects_iff_of_unasked hnone]
  simp only [editTemplate, Action.run_seq_eq_ok_iff, run_editContainers_iff hfits hholds,
    Action.run_liftM_fault_eq_ok_iff]
  constructor
  · rintro ⟨nb₂, _, ⟨rfl, h₂⟩, hsidecar, rfl⟩
    have hfits₂ := hfits.of_sameBut (h₂.sameBut hfits.placed.isObj)
    exact ⟨rfl, nb₂, h₂, (addSidecar_iff hfits₂).mp hsidecar⟩
  · rintro ⟨rfl, nb₂, h₂, h₃⟩
    have hfits₂ := hfits.of_sameBut (h₂.sameBut hfits.placed.isObj)
    exact ⟨nb₂, t, ⟨rfl, h₂⟩, (addSidecar_iff hfits₂).mpr h₃, rfl⟩

end Steps

/-! ## Plans -/

section Asks

theorem asks_lookUp (ns : String) (selection : Doc) : (Image.lookUp ns selection).Asks := by
  unfold Image.lookUp
  refine .seq (fun text => ?_) (.liftM_fault _)
  refine .seq (fun selection => ?_) (.ofExcept _)
  refine .seq (fun streams => ?_) (.list _ _)
  exact .seq (fun _ => .liftM_fault _) (.liftM_fault _)

theorem asks_resolve (ns : String) (nb : Notebook) : (Image.resolve ns nb).Asks := by
  unfold Image.resolve
  refine .seq (fun selection => ?_) (.liftM_fault _)
  split
  · trivial
  refine .seq (fun primary? => .seq (fun nb => ?_) (.liftM_fault _)) (.liftM_fault _)
  cases primary? with
  | none => trivial
  | some i =>
    refine .seq (fun c => .seq (fun image => .seq (fun isFinal => ?_) ?_) ?_) ?_ <;>
      try exact .liftM_fault _
    split
    · trivial
    refine .seq (fun reference? => ?_) (asks_lookUp _ _)
    cases reference? with
    | none => trivial
    | some reference => exact .liftM_fault _

theorem asks_bundleIsThere (ns : Doc) : (bundleIsThere ns).Asks := by
  unfold bundleIsThere
  refine .seq (fun isProvided => ?_) (.exists? _)
  cases isProvided with
  | false => trivial
  | true => exact .exists? _

end Asks

theorem require_container {nb : Notebook} {image : String} {c : Doc}
    (h : Sidecar.container nb image = .ok c) : c.require "name" = .ok (.str Sidecar.containerName) := by
  obtain ⟨_, -, h⟩ := bind_eq_ok_iff.mp h
  obtain ⟨_, -, h⟩ := bind_eq_ok_iff.mp h
  cases h
  rfl

variable {settings : Settings} {name ns : Doc} {nb nb' : Notebook} {σ : Type} {h : Host σ} {s t : σ}

theorem exists_sidecar (hplaced : nb.Placed name ns)
    (h : addSidecar settings nb = .ok (some nb')) : ∃ sidecar? : Option Doc,
      nb.oauthEnabled = .ok sidecar?.isSome ∧
      (sidecar?.isSome = true → nb.meshEnabled = .ok false) ∧
      ∀ c ∈ sidecar?, Sidecar.container nb settings.proxyImage = .ok c := by
  obtain ⟨asksForSignIn, hsignIn, h⟩ := bind_eq_ok_iff.mp h
  cases asksForSignIn with
  | false => exact ⟨none, hsignIn, by simp, by simp⟩
  | true =>
    obtain ⟨asksForMesh, hmesh, h⟩ := bind_eq_ok_iff.mp h
    cases asksForMesh with
    | true => cases h
    | false =>
      obtain ⟨nb₁, hinject, -⟩ := bind_eq_ok_iff.mp h
      obtain ⟨nb₀, ps, hopens⟩ := opens_of_inject hinject
      obtain ⟨c, -, -, hc, -⟩ := (inject_eq_ok_iff (name_of_placed hplaced) hopens).mp hinject
      have hplaced₀ := hplaced.of_sameBut hopens.sameBut
      have hvalue := annotationValue_of_sameBut hopens.sameBut AnnotationKey.logoutUrl
      refine ⟨some c, hsignIn, fun _ => hmesh, fun d hd => ?_⟩
      cases hd
      rw [← hc, Plan.container_congr (name_of_placed hplaced) (name_of_placed hplaced₀) hvalue]

/-- Edits that were made followed a plan. -/
theorem exists_plan (hplaced : nb.Placed name ns) (hsteady : h.Steady s)
    (hrun : (editTemplate settings nb).run h s = (.ok (some nb'), t)) :
    ∃ plan : Plan, plan.name = name ∧ plan.Fits settings ns nb ∧ plan.Holds settings ns h s := by
  obtain ⟨nb₂, u, hcontainers, hadd⟩ := Action.run_seq_eq_ok_iff.mp hrun
  obtain ⟨nb₁, u₁, hresolve, hmount⟩ := Action.run_seq_eq_ok_iff.mp hcontainers
  obtain ⟨hsidecar, -⟩ := Action.run_liftM_fault_eq_ok_iff.mp hadd
  have hsame₁ : SameBut "spec" nb nb₁ := (Image.resolve_yields hplaced.isObj _).of_run hresolve
  have hsame₂ : SameBut "spec" nb₁ nb₂ := (mountBundle_yields hsame₁.isObj).of_run hmount
  have hsame := hsame₁.trans hsame₂
  -- The image was looked up in the same state in which the bundle is looked for.
  obtain rfl : s = u₁ := by
    rw [(asks_resolve _ _).run_eq hsteady] at hresolve
    exact congrArg Prod.snd hresolve
  obtain ⟨selection, _, hselection, -⟩ := Action.run_seq_eq_ok_iff.mp hresolve
  obtain ⟨hselection, -⟩ := Action.run_liftM_fault_eq_ok_iff.mp hselection
  rw [mountBundle_eq, namespace_of_placed (hplaced.of_sameBut hsame₁), Action.liftM_ok_seq] at hmount
  obtain ⟨mounts, u₂, hthere, -⟩ := Action.run_seq_eq_ok_iff.mp hmount
  rw [(asks_bundleIsThere ns).run_eq hsteady] at hthere
  obtain ⟨sidecar?, hoauth, hmesh, hcontainer⟩ := exists_sidecar (hplaced.of_sameBut hsame) hsidecar
  let plan : Plan := {
    name
    selection
    found := ((Image.lookUp settings.ns selection).run h s).1
    mounts
    sidecar?
    sidecar_named := fun c hc => require_container (hcontainer c hc) }
  have hvalue := annotationValue_of_sameBut hsame
  have hfits : plan.Fits settings ns nb₂ :=
    ⟨hplaced.of_sameBut hsame, (hvalue _).trans hselection, hoauth, hmesh, hcontainer⟩
  refine ⟨plan, rfl, hfits.congr hplaced fun key _ => (hvalue key).symm, ?_, ?_⟩
  · exact (asks_lookUp _ _).run_eq hsteady
  · rw [(asks_bundleIsThere ns).run_eq hsteady]
    exact congrArg (·, s) (congrArg Prod.fst hthere)

end Admission

end Workbench
