import Workbench.Proofs.Doc.Within
import Workbench.Proofs.TrustBundle.Mount

/-!
# The patch that takes the bundle out

The patch is made from the notebook that was read, and holds whole lists: the volumes without those of
the bundle, and the containers if there was something to take out of them.

* `TrustBundle.volumesPlace`, `TrustBundle.containersPlace`: the two lists;
* `Notebook.PodSpecReplaced.focuses`: the patch between notebooks that differ in their pod templates;
* `TrustBundle.Withdrawal`, **`TrustBundle.withdrawal`**: what the patch says about the two lists, and
  that it says nothing about the rest of a notebook;
* `Withdrawal.changedWithin`: what it changes of a notebook;
* **`TrustBundle.containers_unmount`**: the containers that were read and those without the bundle
  differ in the variables and the mounts of one.
-/

namespace Workbench

open Doc

/-- The patch between two notebooks that differ in their pod templates speaks of these alone. -/
theorem Notebook.PodSpecReplaced.focuses {ms ms' ps qs : List Member}
    (h : PodSpecReplaced (.obj ms) (.obj ms') (.obj ps) (.obj qs))
    (hproper : (Doc.obj ms).isProper = true) (hne : mergePatch ps qs ≠ []) :
    (obj ps).isProper = true ∧
      (obj (mergePatch ms ms')).Focuses podSpecPath (.obj (mergePatch ps qs)) := by
  obtain ⟨_, s, t, hms, hs, ht, hps, hms'⟩ := h
  cases hms
  cases hms'
  have hproper₁ := (isProper_obj.mp hproper).2 _ (mem_of_lookup hs)
  have hproper₂ := (isProper_obj.mp hproper₁).2 _ (mem_of_lookup ht)
  have hwhole : (obj (mergePatch ps qs)).Focuses [] (.obj (mergePatch ps qs)) := rfl
  have hfocus₂ := focuses_mergePatch hproper₂ hps hne hwhole
  have hfocus₁ := focuses_mergePatch hproper₁ ht hfocus₂.ne_nil hfocus₂
  exact ⟨(isProper_obj.mp hproper₂).2 _ (mem_of_lookup hps),
    focuses_mergePatch hproper hs hfocus₁.ne_nil hfocus₁⟩

theorem Notebook.HasPodSpec.at? {nb : Notebook} {ps : List Member} (h : nb.HasPodSpec (.obj ps))
    (k : String) : nb.at? (Place.ofNames (podSpecPath ++ [k])) = ps.lookup k := by
  obtain ⟨ms, s, t, rfl, hs, ht, hps⟩ := h
  simp only [podSpecPath, List.cons_append, List.nil_append, at?_cons, membersOrNone, hs, ht, hps,
    Option.bind_some]
  cases ps.lookup k <;> rfl

namespace TrustBundle

/-- The volumes of a notebook. -/
def volumesPlace : List String := Notebook.podSpecPath ++ ["volumes"]

/-- The containers of a notebook. -/
def containersPlace : List String := Notebook.podSpecPath ++ ["containers"]

/-- The patch holds the volumes of a notebook without the bundle, and its containers if it speaks of
them at all. It says nothing about the rest. -/
structure Withdrawal (patch : Doc) (without : Notebook) (patched : List Member)
    (kept cs : List Doc) : Prop where
  focuses : patch.Focuses Notebook.podSpecPath (.obj patched)
  distinct : Distinct patched
  volumes : patched.lookup "volumes" = some (.arr kept)
  containers : patched.lookup "containers" = none ∨ patched.lookup "containers" = some (.arr cs)
  others : ∀ j, j ∉ ["containers", "volumes"] → patched.lookup j = none
  volumes_eq : without.at? (Place.ofNames volumesPlace) = some (.arr kept)
  containers_eq : without.at? (Place.ofNames containersPlace) = some (.arr cs)

/-- **The bundle is taken out by such a patch.** -/
theorem withdrawal {ms ms' : List Member} {changed : Bool}
    (hproper : (Doc.obj ms).isProper = true)
    (huses : Notebook.usesConfigMap (.obj ms) bundleConfigMap = .ok true)
    (h : unmount (.obj ms) = .ok (changed, .obj ms')) :
    ∃ patched kept cs, Withdrawal (.obj (mergePatch ms ms')) (.obj ms') patched kept cs := by
  obtain ⟨-, ps, l, kept, cs, hreplaced, hl, hlength, -⟩ := unmount_eq_ok huses h
  obtain ⟨qs, hqs⟩ :
      ∃ qs, qs = setMember "containers" (.arr cs) (setMember "volumes" (.arr kept) ps) := ⟨_, rfl⟩
  rw [← hqs] at hreplaced
  have hcontainers : qs.lookup "containers" = some (.arr cs) := by
    rw [hqs, lookup_setMember_self]
  have hvolumes : qs.lookup "volumes" = some (.arr kept) := by
    rw [hqs, lookup_setMember, if_neg (by decide), lookup_setMember_self]
  obtain ⟨-, -, -, hps⟩ := hreplaced.patched hproper
  have hdistinct : Distinct qs := by
    rw [hqs]
    exact distinct_setMember _ (distinct_setMember _ hps)
  have hsaid := lookup_mergePatch_of_arr hdistinct hl hvolumes (Nat.ne_of_gt hlength)
  have hne : mergePatch ps qs ≠ [] := by
    intro hnil
    rw [hnil] at hsaid
    cases hsaid
  obtain ⟨hproper', hfocus⟩ := hreplaced.focuses hproper hne
  refine ⟨mergePatch ps qs, kept, cs, hfocus, distinct_mergePatch hps hdistinct, hsaid,
    lookup_mergePatch_arr hdistinct hcontainers, fun j hj => ?_, ?_, ?_⟩
  · obtain ⟨hcs, hvs⟩ := not_or.mp (List.mem_cons.not.mp hj)
    refine lookup_mergePatch_of_eq hdistinct ?_ (isProper_obj.mp hproper').2
    rw [hqs, lookup_setMember, if_neg hcs, lookup_setMember,
      if_neg (List.mem_singleton.not.mp hvs)]
  · rw [volumesPlace, hreplaced.hasPodSpec.at?, hvolumes]
  · rw [containersPlace, hreplaced.hasPodSpec.at?, hcontainers]

namespace Withdrawal

variable {patch : Doc} {without : Notebook} {patched : List Member} {kept cs : List Doc}
  (h : Withdrawal patch without patched kept cs)

include h

theorem at?_volumes (d : Doc) :
    (d.merge patch).at? (Place.ofNames volumesPlace) = without.at? (Place.ofNames volumesPlace) := by
  rw [h.volumes_eq]
  exact at?_merge_of_tells rfl (h.focuses.tells (tells_member h.distinct h.volumes))

theorem at?_containers (d : Doc) :
    (d.merge patch).at? (Place.ofNames containersPlace) = d.at? (Place.ofNames containersPlace) ∨
      (d.merge patch).at? (Place.ofNames containersPlace) =
        without.at? (Place.ofNames containersPlace) := by
  rw [h.containers_eq]
  rcases h.containers with hnone | hsome
  · exact .inl (at?_merge_of_isSilent (h.focuses.isSilent (isSilent_member h.distinct hnone)))
  · exact .inr (at?_merge_of_tells rfl (h.focuses.tells (tells_member h.distinct hsome)))

theorem isSilent {names : List String} (hnames : ∀ q ∈ [volumesPlace, containersPlace],
    Place.Apart (Place.ofNames q) (Place.ofNames names)) : patch.IsSilent names := by
  refine h.focuses.isSilent_of_apart (List.cons_ne_nil _ _) h.distinct h.others fun k hk => ?_
  rcases List.mem_cons.mp hk with rfl | hk
  · exact hnames containersPlace (by simp)
  · rw [List.mem_singleton.mp hk]
    exact hnames volumesPlace List.mem_cons_self

/-- The patch changes the two lists of a notebook that has a pod template. -/
theorem changedWithin {ms : List Member} (hopen : ∀ names,
    names <+: Notebook.podSpecPath → IsOpen ((obj ms).at? (Place.ofNames names))) :
    ChangedWithin [Place.ofNames containersPlace, Place.ofNames volumesPlace] (.obj ms)
      ((obj ms).merge patch) :=
  h.focuses.changedWithin (List.cons_ne_nil _ _) h.others hopen

end Withdrawal

/-! ## The container -/

variable {c c' : Doc} {changed : Bool}

theorem changedWithin_unmountInContainer (h : unmountInContainer c = .ok (changed, c')) :
    ChangedWithin [[.member "env"], [.member "volumeMounts"]] c c' := by
  obtain ⟨⟨_, c₁⟩, h₁, h⟩ := bind_eq_ok_iff.mp h
  obtain ⟨⟨_, c₂⟩, h₂, h⟩ := bind_eq_ok_iff.mp h
  cases h
  have hapart : Place.AllApart [[.member "env"], [.member "volumeMounts"]] := by decide
  have henv := (sameBut_dropEntries h₁).changedWithin.mono (by simp) hapart
  have hmounts := (sameBut_dropEntries h₂).changedWithin.mono (by simp) hapart
  exact henv.trans hmounts

/-- **The containers stay as they are, but for the one named like the notebook.** -/
theorem containers_unmount {nb without : Notebook} {ps : List Member}
    (hspec : nb.HasPodSpec (.obj ps)) (h : unmount nb = .ok (changed, without)) :
    ∃ i cs c c', nb.primaryIndex? = .ok (some i) ∧ ps.lookup "containers" = some (.arr cs) ∧
      cs[i]? = some c ∧ ChangedWithin [[.member "env"], [.member "volumeMounts"]] c c' ∧
      without.at? (Place.ofNames containersPlace) = some (.arr (cs.set i c')) := by
  obtain ⟨i, hi, -⟩ := bind_eq_ok_iff.mp h
  obtain ⟨name, hname, -⟩ := bind_eq_ok_iff.mp (Notebook.primaryIndex_eq_ok_iff.mp hi)
  obtain ⟨cs, i, c, c', ps', _, _, hprimary, hunmount, -, -, hreplaced⟩ :=
    (unmount_eq_ok_iff hname hspec.opens).mp h
  refine ⟨i, cs, c, c', ?_, hprimary.containers, hprimary.there,
    changedWithin_unmountInContainer hunmount, ?_⟩
  · rw [hspec.opens.primaryIndex? hname, hprimary.primaryIn?]
  · rw [containersPlace, hreplaced.hasPodSpec.at?, lookup_setMember_self]

end TrustBundle

end Workbench
