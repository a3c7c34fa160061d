import Workbench.Proofs.Annotations
import Workbench.Proofs.Doc.Order
import Workbench.Proofs.PodTemplate

/-!
# Notebooks with other metadata

The metadata and the pod template of a notebook are edited one after the other, in either order.

* `Notebook.MetadataReplaced`: a notebook and the one with other metadata; there is one such notebook
  (`MetadataReplaced.unique`), and it is the same up to the order of members when the metadata is
  (`MetadataReplaced.same`);
* `MetadataReplaced.opens`, `MetadataReplaced.podSpec`: what is done to a pod template is done to it
  under other metadata, too;
* `Notebook.AnnotationsAre`: the annotations in some metadata;
* `Notebook.annotate_eq_ok_iff`, `Notebook.dropAnnotation_eq_ok`: what the edits of an annotation come
  to.
-/

namespace Workbench.Notebook

open Doc

variable {nb nb' nb'' nb₀ nb₁ : Notebook} {m m' m'' as ps : List Member} {key value : String}
  {spec spec' : Doc}

/-! ## Other metadata -/

theorem ensured_setMember {α : Type} {name k : String} (hne : name ≠ k) (v d : α)
    {ms : List (String × α)} (h : (ms.lookup name).isSome) :
    (if ((setMember name v ms).lookup k).isSome then setMember name v ms
      else setMember name v ms ++ [(k, d)]) =
      setMember name v (if (ms.lookup k).isSome then ms else ms ++ [(k, d)]) := by
  have hlookup : (setMember name v ms).lookup k = ms.lookup k := by
    rw [lookup_setMember, if_neg hne.symm]
  cases hk : ms.lookup k with
  | some _ => simp [hlookup, hk]
  | none =>
    simp only [hlookup, hk, Option.isSome_none, Bool.false_eq_true, if_false]
    rw [← setMember_eq_append hk, ← setMember_eq_append (hlookup.trans hk), setMember_comm hne _ _ h]

/-- `nb'` is the notebook `nb`, whose metadata is `m`, with the metadata `m'`. -/
def MetadataReplaced (nb nb' : Notebook) (m m' : List Member) : Prop :=
  ∃ ms, nb = .obj ms ∧ ms.lookup "metadata" = some (.obj m) ∧
    nb' = .obj (setMember "metadata" (.obj m') ms)

theorem exists_metadataReplaced (h : nb.require "metadata" = .ok (.obj m)) (m' : List Member) :
    ∃ nb', MetadataReplaced nb nb' m m' := by
  obtain ⟨ms, rfl, hms⟩ := require_eq_ok_iff.mp h
  exact ⟨_, ms, rfl, hms, rfl⟩

namespace MetadataReplaced

theorem require (h : MetadataReplaced nb nb' m m') : nb'.require "metadata" = .ok (.obj m') := by
  obtain ⟨ms, rfl, -, rfl⟩ := h
  exact require_eq_ok_iff.mpr ⟨_, rfl, lookup_setMember_self _ _ _⟩

theorem unique (h : MetadataReplaced nb nb' m m') (h' : MetadataReplaced nb nb'' m m') :
    nb'' = nb' := by
  obtain ⟨ms, rfl, -, rfl⟩ := h
  obtain ⟨_, hms, -, rfl⟩ := h'
  cases hms
  rfl

theorem trans (h : MetadataReplaced nb nb' m m') (h' : MetadataReplaced nb' nb'' m' m'') :
    MetadataReplaced nb nb'' m m'' := by
  obtain ⟨ms, rfl, hms, rfl⟩ := h
  obtain ⟨_, hms', -, rfl⟩ := h'
  cases hms'
  exact ⟨ms, rfl, hms, by rw [setMember_setMember]⟩

theorem between (h : MetadataReplaced nb nb' m m') (h' : MetadataReplaced nb nb'' m m'') :
    MetadataReplaced nb' nb'' m' m'' := by
  obtain ⟨ms, rfl, -, rfl⟩ := h
  obtain ⟨_, hms, -, rfl⟩ := h'
  cases hms
  exact ⟨_, rfl, lookup_setMember_self _ _ _, by rw [setMember_setMember]⟩

theorem same (h : MetadataReplaced nb nb' m m') (h' : MetadataReplaced nb nb'' m m'')
    (hsame : (obj m').same (obj m'')) : nb'.same nb'' := by
  obtain ⟨ms, rfl, -, rfl⟩ := h
  obtain ⟨_, hms, -, rfl⟩ := h'
  cases hms
  exact same_setMember hsame ms

theorem sameBut (h : MetadataReplaced nb nb' m m') : SameBut "metadata" nb nb' := by
  obtain ⟨ms, rfl, -, rfl⟩ := h
  exact ⟨ms, _, rfl, rfl, fun k hk => by rw [lookup_setMember, if_neg hk]⟩

/-! ### The pod template -/

/-- Another specification is put into the pod template under other metadata. -/
theorem podSpec (h : MetadataReplaced nb nb' m m') (hspec : PodSpecReplaced nb nb₁ spec spec') :
    ∃ nb₁', MetadataReplaced nb₁ nb₁' m m' ∧ PodSpecReplaced nb' nb₁' spec spec' := by
  obtain ⟨ms, rfl, hms, rfl⟩ := h
  obtain ⟨_, s, t, hms', hs, ht, hpod, rfl⟩ := hspec
  cases hms'
  have hmetadata : ∀ d, (setMember "spec" d ms).lookup "metadata" = some (.obj m) := fun d => by
    rw [lookup_setMember, if_neg (by decide), hms]
  refine ⟨_, ⟨_, rfl, hmetadata _, rfl⟩, _, s, t, rfl, ?_, ht, hpod, ?_⟩
  · rw [lookup_setMember, if_neg (by decide), hs]
  · rw [setMember_comm (by decide) _ _ (by rw [hms, Option.isSome_some])]

/-- The pod template is created under other metadata. -/
theorem opens (h : MetadataReplaced nb nb' m m') (hopens : nb.Opens nb₀ ps) :
    ∃ nb₀', MetadataReplaced nb₀ nb₀' m m' ∧ nb'.Opens nb₀' ps := by
  obtain ⟨ms, rfl, hms, rfl⟩ := h
  obtain ⟨hensure, hpod⟩ := hopens
  obtain ⟨nb₁, h₁, h₂⟩ := bind_eq_ok_iff.mp hensure
  obtain ⟨_, hms₁, rfl⟩ := ensure_eq_ok_iff.mp h₁
  cases hms₁
  obtain ⟨ens, v, w, hens, hv, hw, rfl⟩ := modify_eq_ok_iff.mp h₂
  have hthere : ens.lookup "metadata" = some (.obj m) := by
    rw [← Doc.obj.inj hens, lookup_ensured, if_neg (by decide), hms]
  have hreplaced : MetadataReplaced (.obj (setMember "spec" w ens))
      (.obj (setMember "metadata" (.obj m') (setMember "spec" w ens))) m m' :=
    ⟨_, rfl, by rw [lookup_setMember, if_neg (by decide), hthere], rfl⟩
  have hensure' : (Doc.obj (setMember "metadata" (.obj m') ms)).ensure "spec" .empty =
      .ok (.obj (setMember "metadata" (.obj m') ens)) := by
    refine ensure_eq_ok_iff.mpr ⟨_, rfl, ?_⟩
    rw [ensured_setMember (by decide) _ _ (by rw [hms, Option.isSome_some]), Doc.obj.inj hens]
  refine ⟨_, hreplaced, ?_, hpod.of_sameBut hreplaced.sameBut⟩
  refine bind_eq_ok_iff.mpr ⟨_, hensure', modify_eq_ok_iff.mpr ⟨_, v, w, rfl, ?_, hw, ?_⟩⟩
  · rw [lookup_setMember, if_neg (by decide), hv]
  · rw [setMember_comm (by decide) _ _ (by rw [hthere, Option.isSome_some])]

end MetadataReplaced

/-! ## Annotations -/

/-- The annotations in the metadata are `as`; none are there when they are missing or null. -/
def AnnotationsAre (m as : List Member) : Prop :=
  m.lookup "annotations" = some (.obj as) ∨
    as = [] ∧ (m.lookup "annotations").getD .null = .null

theorem annotate_eq_ok_iff (hm : nb.require "metadata" = .ok (.obj m)) :
    nb.annotate key value = .ok nb' ↔ ∃ as, AnnotationsAre m as ∧
      MetadataReplaced nb nb' m (setMember "annotations" (.obj (setMember key (.str value) as)) m) := by
  obtain ⟨ms, rfl, hms⟩ := require_eq_ok_iff.mp hm
  have hreplaced : ∀ m', MetadataReplaced (.obj ms) nb' m m' ↔
      nb' = .obj (setMember "metadata" (.obj m') ms) := fun m' =>
    ⟨fun h => h.unique ⟨ms, rfl, hms, rfl⟩ ▸ rfl, fun h => ⟨ms, rfl, hms, h⟩⟩
  simp only [hreplaced, annotate, ensureAnnotations, ensure_obj hms, ok_bind, modify_obj hms, read_obj]
  by_cases hnull : (m.lookup "annotations").getD .null = .null
  · have hcreated : (setMember "annotations" Doc.empty m).lookup "annotations" = some (.obj []) :=
      lookup_setMember_self _ _ _
    simp only [hnull, if_true, Doc.put, members, ok_bind, pure_eq_ok, modifyUnder]
    rw [modify_obj (lookup_setMember_self _ _ _), modify_obj hcreated]
    simp only [ok_bind, setMember_setMember, Except.ok.injEq]
    constructor
    · rintro rfl
      exact ⟨[], .inr ⟨rfl, hnull⟩, rfl⟩
    · rintro ⟨as, hobj | ⟨rfl, -⟩, rfl⟩
      · rw [hobj] at hnull
        cases hnull
      · rfl
  · simp only [if_neg hnull, pure_eq_ok, ok_bind, setMember_of_lookup hms, modifyUnder,
      modify_obj hms]
    obtain ⟨d, hd⟩ : ∃ d, m.lookup "annotations" = some d := by
      cases h : m.lookup "annotations" with
      | none => simp [h] at hnull
      | some d => exact ⟨d, rfl⟩
    rw [modify_obj hd]
    simp only [bind_eq_ok_iff, put_eq_ok_iff, Except.ok.injEq]
    constructor
    · rintro ⟨_, ⟨_, ⟨as, rfl, rfl⟩, rfl⟩, rfl⟩
      exact ⟨as, .inl hd, rfl⟩
    · rintro ⟨as, hobj | ⟨-, hnull'⟩, rfl⟩
      · cases hd.symm.trans hobj
        exact ⟨_, ⟨_, ⟨as, rfl, rfl⟩, rfl⟩, rfl⟩
      · exact absurd hnull' hnull

theorem dropAnnotation_eq_ok (key : String) (hm : nb.require "metadata" = .ok (.obj m))
    (ha : m.lookup "annotations" = some (.obj as)) : ∃ nb', nb.dropAnnotation key = .ok nb' ∧
      MetadataReplaced nb nb' m (setMember "annotations" (.obj (dropMember key as)) m) := by
  obtain ⟨ms, rfl, hms⟩ := require_eq_ok_iff.mp hm
  refine ⟨_, ?_, ms, rfl, hms, rfl⟩
  rw [ dropAnnotation, modifyUnder, modify_obj hms, modifyUnder, modify_obj ha]
  rfl

end Workbench.Notebook
