import Workbench.Proofs.Cluster.Version
import Workbench.Proofs.PodTemplate

/-!
# A notebook without the bundle

The bundle is taken out of a notebook by a merge patch, which says nothing about what stays as it is.

* `anyEntry_keepUnless`, `length_keepUnless`: none of the entries are left, and there are fewer;
* `TrustBundle.unmount_eq_ok_iff`: what a notebook without the bundle is;
* **`TrustBundle.patched_unmount`**: a notebook that mounts the bundle does not do so after the patch
  that takes it out, and nothing outside its specification has changed;
* `TrustBundle.keepsIdentity_withdrawal`: the patch lets the notebook stay where it is.
-/

namespace Workbench

open Doc

/-! ## Entries that are left -/

section Entries

variable {drops : Doc → Except Fault Bool}

theorem anyEntry_keepUnless : ∀ {entries kept : List Doc}, keepUnless drops entries = .ok kept →
    Notebook.anyEntry drops kept = .ok false
  | [], _, h => by
    cases h
    rfl
  | e :: es, kept, h => by
    obtain ⟨drop, hdrop, h⟩ := bind_eq_ok_iff.mp h
    obtain ⟨rest, hrest, h⟩ := bind_eq_ok_iff.mp h
    have ih := anyEntry_keepUnless hrest
    cases h
    cases drop with
    | true => exact ih
    | false => simpa [Notebook.anyEntry, hdrop] using ih

theorem length_keepUnless_le : ∀ {entries kept : List Doc}, keepUnless drops entries = .ok kept →
    kept.length ≤ entries.length
  | [], _, h => by
    cases h
    exact Nat.le_refl _
  | e :: es, kept, h => by
    obtain ⟨drop, -, h⟩ := bind_eq_ok_iff.mp h
    obtain ⟨rest, hrest, h⟩ := bind_eq_ok_iff.mp h
    have ih := length_keepUnless_le hrest
    cases h
    cases drop with
    | true => exact Nat.le_succ_of_le ih
    | false => exact Nat.succ_le_succ ih

/-- There are fewer entries when one is taken away. -/
theorem length_keepUnless : ∀ {entries kept : List Doc}, keepUnless drops entries = .ok kept →
    Notebook.anyEntry drops entries = .ok true → kept.length < entries.length
  | [], _, _, hany => by cases hany
  | e :: es, kept, h, hany => by
    obtain ⟨drop, hdrop, h⟩ := bind_eq_ok_iff.mp h
    obtain ⟨rest, hrest, h⟩ := bind_eq_ok_iff.mp h
    cases h
    cases drop with
    | true => exact Nat.lt_succ_of_le (length_keepUnless_le hrest)
    | false =>
      have hrestAny : Notebook.anyEntry drops es = .ok true := by
        simpa [Notebook.anyEntry, hdrop] using hany
      exact Nat.succ_lt_succ (length_keepUnless hrest hrestAny)

end Entries

/-! ## The bundle taken out -/

namespace TrustBundle

variable {nb without : Notebook} {c' d e : Doc} {k : String} {changed : Bool}

theorem sameBut_dropEntries {drops : Doc → Except Fault Bool}
    (h : dropEntries k drops d = .ok (changed, e)) : SameBut k d e := by
  obtain ⟨found, hfound, h⟩ := bind_eq_ok_iff.mp h
  split at h
  · obtain ⟨⟨dropped, kept⟩, -, h⟩ := bind_eq_ok_iff.mp h
    obtain ⟨_, hput, h⟩ := bind_eq_ok_iff.mp h
    cases h
    exact sameBut_put hput
  · cases h
    obtain ⟨ms, rfl, -⟩ := read_eq_ok_iff.mp hfound
    exact SameBut.refl rfl

/-- A notebook without the bundle has another primary container and other volumes. -/
theorem unmount_eq_ok_iff {nb nb₀ without : Notebook} {name : Doc} {ps : List Member}
    (hname : nb.name = .ok name) (hopens : nb.Opens nb₀ ps) :
    unmount nb = .ok (changed, without) ↔ ∃ cs i c c' ps' inContainer inVolumes,
      Notebook.Primary name ps cs i c ∧ unmountInContainer c = .ok (inContainer, c') ∧
      dropEntries "volumes" (Notebook.isBackedBy bundleConfigMap) (.obj ps) =
        .ok (inVolumes, .obj ps') ∧
      changed = (inContainer || inVolumes) ∧ Notebook.PodSpecReplaced nb₀ without (.obj ps)
        (.obj (setMember "containers" (.arr (cs.set i c')) ps')) := by
  have hspec := hopens.hasPodSpec
  have hcontainers : ∀ {inVolumes ps'}, dropEntries "volumes"
      (Notebook.isBackedBy bundleConfigMap) (.obj ps) = .ok (inVolumes, .obj ps') →
        ps'.lookup "containers" = ps.lookup "containers" := fun h => by
    obtain ⟨_, _, hps, hps', hothers⟩ := sameBut_dropEntries h
    cases hps
    cases hps'
    exact hothers _ (by decide)
  simp only [unmount, bind_eq_ok_iff, Notebook.primaryIndex_eq_ok_iff, liftM_fault_eq_ok_iff,
    hopens.primaryIndex? hname]
  constructor
  · rintro ⟨i, hindex, _, hensure, _, hc, ⟨inContainer, c'⟩, hunmount, _, hpodSpec,
      ⟨inVolumes, spec⟩, hvolumes, nb₁, hput, nb₂, hmodify, h⟩
    cases h
    cases hopens.ensure.symm.trans hensure
    obtain ⟨cs, c, hprimary⟩ := Notebook.primary_of_primaryIn? hindex
    cases (Notebook.container_eq hspec hprimary).symm.trans hc
    cases hspec.podSpecOf.symm.trans hpodSpec
    obtain ⟨_, hspec₁, hreplaced⟩ := Notebook.podSpecReplaced_of_modifyPodSpec hspec hput
    cases hspec₁
    obtain ⟨_, ps', hps, rfl, -⟩ := sameBut_dropEntries hvolumes
    obtain ⟨_, hc', hreplaced'⟩ := (Notebook.modifyContainer_eq_ok_iff hreplaced.hasPodSpec
      (hprimary.of_lookup (hcontainers hvolumes))).mp hmodify
    cases hc'
    exact ⟨cs, i, _, c', ps', inContainer, inVolumes, hprimary, hunmount, hvolumes, rfl,
      hreplaced.trans hreplaced'⟩
  · rintro ⟨cs, i, c, c', ps', inContainer, inVolumes, hprimary, hunmount, hvolumes, rfl,
      hreplaced⟩
    obtain ⟨nb₁, hreplaced₁⟩ := hspec.replace (.obj ps')
    obtain ⟨nb₂, hreplaced₂⟩ := hreplaced₁.hasPodSpec.replace
      (.obj (setMember "containers" (.arr (cs.set i c')) ps'))
    cases hreplaced.unique (hreplaced₁.trans hreplaced₂)
    have hmodify : nb₁.modifyContainer i (fun _ => .ok c') = .ok without :=
      (Notebook.modifyContainer_eq_ok_iff hreplaced₁.hasPodSpec
        (hprimary.of_lookup (hcontainers hvolumes))).mpr ⟨c', rfl, hreplaced₂⟩
    refine ⟨i, hprimary.primaryIn?, nb₀, hopens.ensure, c, Notebook.container_eq hspec hprimary, _,
      hunmount, _, hspec.podSpecOf, _, hvolumes, nb₁, ?_, without, hmodify, rfl⟩
    exact (Notebook.modifyPodSpec_eq_ok_iff hspec).mpr ⟨_, rfl, hreplaced₁⟩

theorem dropEntries_volumes {ps : List Member} {l : List Doc} {spec : Doc}
    (hl : ps.lookup "volumes" = some (.arr l))
    (hany : Notebook.anyEntry (Notebook.isBackedBy bundleConfigMap) l = .ok true)
    (h : dropEntries "volumes" (Notebook.isBackedBy bundleConfigMap) (.obj ps) =
      .ok (changed, spec)) :
    changed = true ∧ ∃ kept, spec = .obj (setMember "volumes" (.arr kept) ps) ∧
      kept.length < l.length ∧
      Notebook.anyEntry (Notebook.isBackedBy bundleConfigMap) kept = .ok false := by
  have htruthy : (arr l).truthy = true := by
    cases l with
    | nil => cases hany
    | cons e es => rfl
  unfold dropEntries at h
  rw [read_obj, hl, Option.getD_some, ok_bind, if_pos htruthy] at h
  obtain ⟨⟨dropped, volumes⟩, hdropped, h⟩ := bind_eq_ok_iff.mp h
  obtain ⟨_, hput, h⟩ := bind_eq_ok_iff.mp h
  cases h
  obtain ⟨entries, hentries, hdropped⟩ := bind_eq_ok_iff.mp hdropped
  cases hentries
  obtain ⟨kept, hkept, hdropped⟩ := bind_eq_ok_iff.mp hdropped
  have hlength := length_keepUnless hkept hany
  rw [if_neg (Nat.ne_of_lt hlength)] at hdropped
  cases hdropped
  obtain ⟨_, hps, rfl⟩ := put_eq_ok_iff.mp hput
  cases hps
  exact ⟨rfl, kept, rfl, hlength, anyEntry_keepUnless hkept⟩

theorem unmount_eq_ok (huses : nb.usesConfigMap bundleConfigMap = .ok true)
    (h : unmount nb = .ok (changed, without)) :
    changed = true ∧ ∃ ps l kept cs, Notebook.PodSpecReplaced nb without (.obj ps)
        (.obj (setMember "containers" (.arr cs) (setMember "volumes" (.arr kept) ps))) ∧
      ps.lookup "volumes" = some (.arr l) ∧ kept.length < l.length ∧
      Notebook.anyEntry (Notebook.isBackedBy bundleConfigMap) kept = .ok false := by
  obtain ⟨ps, l, hspec, hl, hany⟩ := Notebook.volumes_of_usesConfigMap huses
  obtain ⟨i, hi, -⟩ := bind_eq_ok_iff.mp h
  obtain ⟨name, hname, -⟩ := bind_eq_ok_iff.mp (Notebook.primaryIndex_eq_ok_iff.mp hi)
  obtain ⟨cs, i, c, c', ps', inContainer, inVolumes, -, -, hvolumes, rfl, hreplaced⟩ :=
    (unmount_eq_ok_iff hname hspec.opens).mp h
  obtain ⟨rfl, kept, hps', hlength, hkept⟩ := dropEntries_volumes hl hany hvolumes
  cases hps'
  exact ⟨Bool.or_true _, ps, l, kept, _, hreplaced, hl, hlength, hkept⟩

/-- **The patch takes the bundle out of the notebook**, and says nothing about what is outside its
specification. -/
theorem patched_unmount {ms ms' : List Member} (hproper : (Doc.obj ms).isProper = true)
    (huses : Notebook.usesConfigMap (.obj ms) bundleConfigMap = .ok true)
    (h : unmount (.obj ms) = .ok (changed, .obj ms')) :
    changed = true ∧ (∀ k, k ≠ "spec" → (mergePatch ms ms').lookup k = none) ∧
      Distinct (mergePatch ms ms') ∧
      Notebook.usesConfigMap (.obj (mergeMembers ms (mergePatch ms ms'))) bundleConfigMap =
        .ok false := by
  obtain ⟨hchanged, ps, l, kept, cs, hreplaced, hl, hlength, hany⟩ := unmount_eq_ok huses h
  obtain ⟨hspec, houtside, hpatch, hps⟩ := hreplaced.patched hproper
  refine ⟨hchanged, houtside, hpatch, ?_⟩
  have hdistinct := distinct_setMember (k := "containers") (.arr cs)
    (distinct_setMember (k := "volumes") (.arr kept) hps)
  have hkept : (setMember "containers" (.arr cs) (setMember "volumes" (.arr kept) ps)).lookup
      "volumes" = some (.arr kept) := by
    rw [lookup_setMember, if_neg (by decide), lookup_setMember_self]
  have hvolumes := lookup_merge_of_arr hps hdistinct hl hkept (Nat.ne_of_gt hlength)
  have helements : ((arr kept).orElse (arr [])).elements = .ok kept := by
    cases kept <;> rfl
  rw [Notebook.usesConfigMap, hspec.podSpec (by simp), ok_bind, read_obj, hvolumes, ok_bind,
    Option.getD_some]
  dsimp only
  rw [helements, ok_bind, hany]

/-- The patch lets the notebook stay where it is. -/
theorem keepsIdentity_withdrawal {ms ms' : List Member} (hproper : (Doc.obj ms).isProper = true)
    (huses : Notebook.usesConfigMap (.obj ms) bundleConfigMap = .ok true)
    (h : unmount (.obj ms) = .ok (changed, .obj ms')) :
    KeepsIdentity fun d => .ok (d.merge (.obj (mergePatch ms ms'))) := by
  obtain ⟨-, houtside, -⟩ := patched_unmount hproper huses h
  exact keepsIdentity_merge (houtside "metadata" (by decide)) (houtside "kind" (by decide))

end TrustBundle

end Workbench
