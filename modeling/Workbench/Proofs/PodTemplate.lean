import Workbench.Proofs.Admission.Containers
import Workbench.Proofs.Cluster.Run
import Workbench.Proofs.Doc.MergePatch
import Workbench.Proofs.Notebook

/-!
# Notebooks whose pod template is edited

An edit of a notebook creates the pod template first when it is missing, and then puts another
specification into it.

* `Notebook.PodSpecReplaced`: a notebook with another specification in its pod template;
  `Notebook.PodSpecReplaced.unique` and the like say that there is one;
* `Notebook.PodSpecReplaced.patched`: what the patch from one such notebook to the other does;
* `Notebook.Opens`: a notebook, the one with its pod template created, and the specification there;
* `Notebook.modifyPodSpec_eq_ok_iff`, `Notebook.modifyContainer_eq_ok_iff`: what the edits come to;
* `Notebook.primaryIndex_eq_ok_iff`: where the container of a notebook is found.
-/

namespace Workbench.Notebook

open Doc

variable {nb nb' nb'' nb₀ : Notebook} {name c : Doc} {ps : List Member}
  {spec spec' spec'' : Doc} {edit : Doc → Except Fault Doc}

/-! ## Another specification -/

/-- The second notebook is the first one with another specification in its pod template. -/
def PodSpecReplaced (nb nb' : Notebook) (spec spec' : Doc) : Prop :=
  ∃ ms s t, nb = .obj ms ∧ ms.lookup "spec" = some (.obj s) ∧
    s.lookup "template" = some (.obj t) ∧ t.lookup "spec" = some spec ∧
    nb' = .obj (setMember "spec"
      (.obj (setMember "template" (.obj (setMember "spec" spec' t)) s)) ms)

theorem HasPodSpec.modifyPodSpec_eq (h : nb.HasPodSpec spec) : ∃ put : Doc → Notebook,
    (∀ spec', PodSpecReplaced nb (put spec') spec spec') ∧
      ∀ edit, nb.modifyPodSpec edit = (edit spec).map put := by
  obtain ⟨ms, s, t, rfl, hs, ht, hspec⟩ := h
  refine ⟨fun spec' => .obj (setMember "spec"
    (.obj (setMember "template" (.obj (setMember "spec" spec' t)) s)) ms),
    fun spec' => ⟨ms, s, t, rfl, hs, ht, hspec, rfl⟩, fun edit => ?_⟩
  rw [modifyPodSpec, podSpecPath, modifyUnder, modify_obj hs, modifyUnder, modify_obj ht, modifyUnder,
    modify_obj hspec, modifyUnder]
  cases edit spec <;> rfl

theorem podSpecReplaced_of_modifyPodSpec {edit : Doc → Except Fault Doc} (h : nb.HasPodSpec spec)
    (hedit : nb.modifyPodSpec edit = .ok nb') :
    ∃ spec', edit spec = .ok spec' ∧ PodSpecReplaced nb nb' spec spec' := by
  obtain ⟨put, hput, hmodify⟩ := h.modifyPodSpec_eq
  rw [hmodify, map_eq_ok_iff] at hedit
  obtain ⟨spec', hspec', rfl⟩ := hedit
  exact ⟨spec', hspec', hput spec'⟩

theorem PodSpecReplaced.hasPodSpec (h : PodSpecReplaced nb nb' spec spec') :
    nb'.HasPodSpec spec' := by
  obtain ⟨ms, s, t, rfl, hs, ht, hspec, rfl⟩ := h
  exact ⟨_, _, _, rfl, lookup_setMember_self _ _ _, lookup_setMember_self _ _ _,
    lookup_setMember_self _ _ _⟩

theorem PodSpecReplaced.trans (h : PodSpecReplaced nb nb' spec spec')
    (h' : PodSpecReplaced nb' nb'' spec' spec'') : PodSpecReplaced nb nb'' spec spec'' := by
  obtain ⟨ms, s, t, rfl, hs, ht, hspec, rfl⟩ := h
  obtain ⟨_, s', t', hms, hs', ht', -, rfl⟩ := h'
  cases hms
  rw [lookup_setMember_self, Option.some.injEq] at hs'
  cases hs'
  rw [lookup_setMember_self, Option.some.injEq] at ht'
  cases ht'
  refine ⟨ms, s, t, rfl, hs, ht, hspec, ?_⟩
  rw [setMember_setMember, setMember_setMember, setMember_setMember]

/-- The patch from a notebook to one with another specification in its pod template patches that
specification, and says nothing about what is outside the specification of the notebook. -/
theorem PodSpecReplaced.patched {ms ms' ps qs : List Member}
    (hproper : (Doc.obj ms).isProper = true)
    (h : PodSpecReplaced (.obj ms) (.obj ms') (.obj ps) (.obj qs)) :
    HasPodSpec (.obj (mergeMembers ms (mergePatch ms ms')))
      (.obj (mergeMembers ps (mergePatch ps qs))) ∧
      (∀ k, k ≠ "spec" → (mergePatch ms ms').lookup k = none) ∧ Distinct (mergePatch ms ms') ∧
      Distinct ps := by
  obtain ⟨_, s, t, hms, hs, ht, hps, hms'⟩ := h
  cases hms
  cases hms'
  obtain ⟨hdms, hpms⟩ := isProper_obj.mp hproper
  obtain ⟨hds, hp⟩ := isProper_obj.mp (hpms _ (mem_of_lookup hs))
  obtain ⟨hdt, hpt⟩ := isProper_obj.mp (hp _ (mem_of_lookup ht))
  obtain ⟨hdps, -⟩ := isProper_obj.mp (hpt _ (mem_of_lookup hps))
  have hds' := distinct_setMember (k := "template") (.obj (setMember "spec" (.obj qs) t)) hds
  have hdms' := distinct_setMember (k := "spec")
    (.obj (setMember "template" (.obj (setMember "spec" (.obj qs) t)) s)) hdms
  refine ⟨⟨_, _, _, rfl, lookup_merge_of_obj hdms hdms' hs (lookup_setMember_self _ _ _),
    lookup_merge_of_obj hds hds' ht (lookup_setMember_self _ _ _),
    lookup_merge_of_obj hdt (distinct_setMember _ hdt) hps (lookup_setMember_self _ _ _)⟩,
    fun k hk => ?_, distinct_mergePatch hdms hdms', hdps⟩
  refine lookup_mergePatch_of_eq hdms' ?_ hpms
  rw [lookup_setMember, if_neg hk]

theorem hasPodSpec_of_podSpecOf (h : nb.podSpecOf = .ok spec) : nb.HasPodSpec spec := by
  simp only [podSpecOf, bind_eq_ok_iff, require_eq_ok_iff] at h
  obtain ⟨_, ⟨ms, rfl, hspec⟩, _, ⟨s, rfl, htemplate⟩, t, rfl, hpod⟩ := h
  exact ⟨ms, s, t, rfl, hspec, htemplate, hpod⟩

theorem HasPodSpec.of_sameBut (h : nb.HasPodSpec spec) (hmeta : SameBut "metadata" nb nb') :
    nb'.HasPodSpec spec :=
  hasPodSpec_of_podSpecOf ((podSpecOf_of_sameBut hmeta).trans h.podSpecOf)

theorem podSpecReplaced_self (h : nb.HasPodSpec spec) : PodSpecReplaced nb nb spec spec := by
  obtain ⟨ms, s, t, rfl, hs, ht, hspec⟩ := h
  refine ⟨ms, s, t, rfl, hs, ht, hspec, ?_⟩
  rw [setMember_of_lookup hspec, setMember_of_lookup ht, setMember_of_lookup hs]

theorem HasPodSpec.replace (h : nb.HasPodSpec spec) (spec' : Doc) :
    ∃ nb', PodSpecReplaced nb nb' spec spec' := by
  obtain ⟨ms, s, t, rfl, hs, ht, hspec⟩ := h
  exact ⟨_, ms, s, t, rfl, hs, ht, hspec, rfl⟩

theorem PodSpecReplaced.unique (h : PodSpecReplaced nb nb' spec spec')
    (h' : PodSpecReplaced nb nb'' spec'' spec') : nb'' = nb' := by
  obtain ⟨ms, s, t, rfl, hs, ht, -, rfl⟩ := h
  obtain ⟨_, s', t', hms, hs', ht', -, rfl⟩ := h'
  cases hms
  cases hs.symm.trans hs'
  cases ht.symm.trans ht'
  rfl

theorem PodSpecReplaced.hasPodSpec_left (h : PodSpecReplaced nb nb' spec spec') :
    nb.HasPodSpec spec := by
  obtain ⟨ms, s, t, rfl, hs, ht, hspec, -⟩ := h
  exact ⟨ms, s, t, rfl, hs, ht, hspec⟩

theorem PodSpecReplaced.symm (h : PodSpecReplaced nb nb' spec spec') :
    PodSpecReplaced nb' nb spec' spec := by
  obtain ⟨nb'', hback⟩ := h.hasPodSpec.replace spec
  cases (podSpecReplaced_self h.hasPodSpec_left).unique (h.trans hback)
  exact hback

theorem PodSpecReplaced.sameBut (h : PodSpecReplaced nb nb' spec spec') :
    SameBut "spec" nb nb' := by
  obtain ⟨ms, s, t, rfl, -, -, -, rfl⟩ := h
  exact ⟨ms, _, rfl, rfl, fun k hk => by rw [lookup_setMember, if_neg hk]⟩

/-- An edit of the specification puts another one in its place. -/
theorem modifyPodSpec_eq_ok_iff (h : nb.HasPodSpec spec) : nb.modifyPodSpec edit = .ok nb' ↔
    ∃ spec', edit spec = .ok spec' ∧ PodSpecReplaced nb nb' spec spec' := by
  refine ⟨podSpecReplaced_of_modifyPodSpec h, ?_⟩
  rintro ⟨spec', hedit, hreplaced⟩
  obtain ⟨put, hput, hmodify⟩ := h.modifyPodSpec_eq
  rw [hmodify, hedit, (hput spec').unique hreplaced]
  rfl

/-! ## A pod template that is created if need be -/

/-- The notebook with its pod template created is `nb₀`, and the specification there is an object. -/
structure Opens (nb nb₀ : Notebook) (ps : List Member) : Prop where
  ensure : nb.ensurePodSpec = .ok nb₀
  hasPodSpec : nb₀.HasPodSpec (.obj ps)

theorem HasPodSpec.opens (h : nb.HasPodSpec (.obj ps)) : nb.Opens nb ps :=
  ⟨h.ensurePodSpec (by simp), h⟩

theorem opens_of_podSpec (h : nb.podSpec = .ok (.obj ps)) : ∃ nb₀, nb.Opens nb₀ ps := by
  obtain ⟨nb₀, hensure, hspec⟩ := bind_eq_ok_iff.mp h
  exact ⟨nb₀, hensure, hasPodSpec_of_podSpecOf hspec⟩

theorem opens_of_primaryIndex? {found : Option Nat} (h : nb.primaryIndex? = .ok found) :
    ∃ nb₀ ps, nb.Opens nb₀ ps := by
  obtain ⟨_, -, h⟩ := bind_eq_ok_iff.mp h
  obtain ⟨_, hcontainers, -⟩ := bind_eq_ok_iff.mp h
  obtain ⟨spec, hspec, hcontainers⟩ := bind_eq_ok_iff.mp hcontainers
  obtain ⟨_, hread, -⟩ := bind_eq_ok_iff.mp hcontainers
  obtain ⟨ps, rfl, -⟩ := read_eq_ok_iff.mp hread
  obtain ⟨nb₀, hopens⟩ := opens_of_podSpec hspec
  exact ⟨nb₀, ps, hopens⟩

namespace Opens

theorem podSpec (h : nb.Opens nb₀ ps) : nb.podSpec = .ok (.obj ps) := by
  rw [Notebook.podSpec, h.ensure, ok_bind, h.hasPodSpec.podSpecOf]

theorem sameBut (h : nb.Opens nb₀ ps) : SameBut "spec" nb nb₀ := sameBut_ensurePodSpec h.ensure

theorem containers (h : nb.Opens nb₀ ps) : nb.containers = .ok (containersIn ps) := by
  rw [Notebook.containers, h.podSpec, ok_bind, read_obj]
  rfl

theorem primaryIndex? (h : nb.Opens nb₀ ps) (hname : nb.name = .ok name) :
    nb.primaryIndex? = primaryIn? name ps := by
  rw [Notebook.primaryIndex?, hname, ok_bind, h.containers]
  rfl

theorem templateSpec (h : nb.Opens nb₀ ps) : nb.templateSpec = .ok (.obj ps) :=
  templateSpec_of_podSpec h.podSpec

end Opens

/-! ## The primary container -/

variable {cs : List Doc} {i : Nat}

theorem primaryIndex_eq_ok_iff : nb.primaryIndex = .ok i ↔ nb.primaryIndex? = .ok (some i) := by
  simp only [primaryIndex, bind_eq_ok_iff, liftM_fault_eq_ok_iff]
  constructor
  · rintro ⟨found, hfound, h⟩
    cases found with
    | none =>
      obtain ⟨_, -, h⟩ := bind_eq_ok_iff.mp h
      cases h
    | some j =>
      cases h
      exact hfound
  · exact fun h => ⟨some i, h, rfl⟩

theorem container_eq (h : nb.HasPodSpec (.obj ps)) (hprimary : Primary name ps cs i c) :
    nb.container i = .ok c := by
  have hitem : cs.getD i .null = c := by
    rw [List.getD_eq_getElem?_getD, hprimary.there, Option.getD_some]
  rw [container, h.opens.containers, containersIn_arr hprimary.containers, ← hitem]
  rfl

theorem HasPodSpec.modifyContainer_eq (h : nb.HasPodSpec (.obj ps))
    (hprimary : Primary name ps cs i c) : ∃ put : Doc → Notebook,
    (∀ c', PodSpecReplaced nb (put c') (.obj ps)
      (.obj (setMember "containers" (.arr (cs.set i c')) ps))) ∧
    ∀ edit, nb.modifyContainer i edit = (edit c).map put := by
  obtain ⟨put, hput, hmodify⟩ := h.modifyPodSpec_eq
  refine ⟨fun c' => put (.obj (setMember "containers" (.arr (cs.set i c')) ps)),
    fun c' => hput _, fun edit => ?_⟩
  rw [modifyContainer, hmodify, modify_obj hprimary.containers, modifyItem, items, ok_bind,
    hprimary.there]
  dsimp only
  cases edit c <;> rfl

theorem modifyContainer_eq_ok_iff (h : nb.HasPodSpec (.obj ps)) (hprimary : Primary name ps cs i c) :
    nb.modifyContainer i edit = .ok nb' ↔ ∃ c', edit c = .ok c' ∧
      PodSpecReplaced nb nb' (.obj ps) (.obj (setMember "containers" (.arr (cs.set i c')) ps)) := by
  obtain ⟨put, hput, hmodify⟩ := h.modifyContainer_eq hprimary
  rw [hmodify, map_eq_ok_iff]
  refine exists_congr fun c' => and_congr_right fun _ => ⟨?_, fun h => h.unique (hput c')⟩
  rintro rfl
  exact hput c'

end Workbench.Notebook
