import Workbench.Proofs.Doc.Within
import Workbench.Proofs.Metadata

/-!
# Where the edits of a notebook change it

* `Notebook.namespacePlace`, `Notebook.annotationPlace`, `Notebook.podSpecPlace`: places in a
  notebook;
* `Notebook.Opens.at?`: the specification of the pod template, created or not, is read at its place;
* **`Notebook.Opens.changedWithin`**: an edit of the specification changes the notebook there, and
  creates the pod template around it;
* **`Notebook.changedWithin_annotate`**, `Notebook.changedWithin_dropAnnotation`: an edit of an
  annotation changes it there, and creates the annotations around it.
-/

namespace Workbench

open Doc

namespace Doc

variable {d e v w : Doc} {k : String} {ms : List Member} {ps : List Place}
  {edit : Doc → Except Fault Doc}

/-! ## Edits of a member -/

theorem hasMember_of_ensured
    (h : (if (ms.lookup k).isSome then ms else ms ++ [(k, empty)]).lookup k = some v) :
    HasMember k v ms := by
  rw [lookup_ensured, if_pos rfl, Option.some.injEq] at h
  cases hk : ms.lookup k with
  | some w =>
    rw [hk, Option.getD_some] at h
    exact .inl (h ▸ hk)
  | none =>
    rw [hk, Option.getD_none] at h
    exact .inr ⟨h.symm, by rw [hk, Option.getD_none]⟩

theorem setMember_ensured :
    setMember k w (if (ms.lookup k).isSome then ms else ms ++ [(k, v)]) = setMember k w ms := by
  cases hk : ms.lookup k with
  | some _ => rfl
  | none =>
    rw [Option.isSome_none, if_neg (by decide), ← setMember_eq_append hk, setMember_setMember]

theorem exists_hasMember (hensure : d.ensure k empty = .ok v) (hmodify : v.modify k edit = .ok e) :
    ∃ ms v w, d = .obj ms ∧ HasMember k v ms ∧ edit v = .ok w ∧ e = .obj (setMember k w ms) := by
  obtain ⟨ms, rfl, rfl⟩ := ensure_eq_ok_iff.mp hensure
  obtain ⟨ens, v, w, hens, hv, hw, rfl⟩ := modify_eq_ok_iff.mp hmodify
  cases hens
  exact ⟨ms, v, w, rfl, hasMember_of_ensured hv, hw, by rw [setMember_ensured]⟩

end Doc

namespace Notebook

variable {nb nb' nb₀ : Notebook} {m m' ps ps' : List Member} {k key value : String}
  {qs : List Place}

/-! ## The metadata -/

/-- The namespace of a notebook. -/
def namespacePlace : Place := [.member "metadata", .member "namespace"]

/-- An annotation of a notebook. -/
def annotationPlace (key : String) : Place :=
  [.member "metadata", .member "annotations", .member key]

theorem MetadataReplaced.changedWithin (h : MetadataReplaced nb nb' m m') (hqs : qs ≠ [])
    (hm : ChangedWithin qs (.obj m) (.obj m')) :
    ChangedWithin (qs.map (.member "metadata" :: ·)) nb nb' := by
  obtain ⟨ms, rfl, hms, rfl⟩ := h
  exact changedWithin_setMember hqs (.inl hms) hm

theorem at?_metadata (h : nb.require "metadata" = .ok (.obj m)) (k : String) :
    nb.at? [.member "metadata", .member k] = m.lookup k := by
  obtain ⟨ms, rfl, hms⟩ := require_eq_ok_iff.mp h
  rw [at?, hms, Option.bind_some, at?_member]

/-- **An annotation that is set changes the notebook there.** -/
theorem changedWithin_annotate (hm : nb.require "metadata" = .ok (.obj m))
    (h : nb.annotate key value = .ok nb') :
    ChangedWithin [annotationPlace key] nb nb' ∧
      nb'.at? (annotationPlace key) = some (.str value) := by
  obtain ⟨as, has, hreplaced⟩ := (annotate_eq_ok_iff hm).mp h
  have has' : HasMember "annotations" (.obj as) m := by
    rcases has with has | ⟨rfl, has⟩
    · exact .inl has
    · exact .inr ⟨rfl, has⟩
  have hset : SameBut key (.obj as) (.obj (setMember key (.str value) as)) :=
    sameBut_put (v := .str value) rfl
  have hannotations := changedWithin_setMember (by simp) has' hset.changedWithin
  refine ⟨hreplaced.changedWithin (by simp) hannotations, ?_⟩
  obtain ⟨ms, -, -, rfl⟩ := hreplaced
  rw [annotationPlace, at?, lookup_setMember_self, Option.bind_some, at?, lookup_setMember_self,
    Option.bind_some, at?_member, lookup_setMember_self]

/-- So does one that is taken away. -/
theorem changedWithin_dropAnnotation (h : nb.dropAnnotation key = .ok nb') :
    ChangedWithin [annotationPlace key] nb nb' :=
  changedWithin_modify (List.cons_ne_nil ([.member "annotations", .member key] : Place) []) h
    fun _ _ h => changedWithin_modify (List.cons_ne_nil ([.member key] : Place) []) h
      fun _ _ h => (sameBut_remove h).changedWithin

/-! ## The pod template -/

/-- A member of the specification of the pod template. -/
def podSpecPlace (k : String) : Place :=
  [.member "spec", .member "template", .member "spec", .member k]

theorem Opens.exists_hasMember (h : nb.Opens nb₀ ps) : ∃ ms s t, nb = .obj ms ∧
    HasMember "spec" (.obj s) ms ∧ HasMember "template" (.obj t) s ∧ HasMember "spec" (.obj ps) t ∧
      ∀ nb' ps', PodSpecReplaced nb₀ nb' (.obj ps) (.obj ps') → nb' = .obj (setMember "spec"
        (.obj (setMember "template" (.obj (setMember "spec" (.obj ps') t)) s)) ms) := by
  obtain ⟨_, hensure, hmodify⟩ := bind_eq_ok_iff.mp h.ensure
  obtain ⟨ms, _, w, rfl, hs, hspec, rfl⟩ := Doc.exists_hasMember hensure hmodify
  obtain ⟨_, hensure', hmodify'⟩ := bind_eq_ok_iff.mp hspec
  obtain ⟨s, _, u, rfl, ht, htemplate, rfl⟩ := Doc.exists_hasMember hensure' hmodify'
  obtain ⟨found, hfound, htemplate⟩ := bind_eq_ok_iff.mp htemplate
  obtain ⟨t, rfl, rfl⟩ := read_eq_ok_iff.mp hfound
  -- The specification is the one that is there now.
  have hthere : ∀ {u : List Member}, HasPodSpec (.obj (setMember "spec" (.obj (setMember "template"
      (.obj u) s)) ms)) (.obj ps) → u.lookup "spec" = some (.obj ps) := by
    rintro u ⟨_, s', t', hms, hs', ht', hps⟩
    cases hms
    rw [lookup_setMember_self] at hs'
    cases hs'
    rw [lookup_setMember_self] at ht'
    cases ht'
    exact hps
  obtain ⟨hps, hu⟩ : HasMember "spec" (.obj ps) t ∧ u = .obj (setMember "spec" (.obj ps) t) := by
    split at htemplate
    · next hnull =>
      cases htemplate
      have hps := hthere h.hasPodSpec
      rw [lookup_setMember_self] at hps
      cases hps
      exact ⟨.inr ⟨rfl, hnull⟩, rfl⟩
    · cases htemplate
      have hps := hthere h.hasPodSpec
      exact ⟨.inl hps, by rw [setMember_of_lookup hps]⟩
  subst hu
  refine ⟨ms, s, t, rfl, hs, ht, hps, fun nb' ps' hreplaced => ?_⟩
  refine PodSpecReplaced.unique ⟨_, _, _, rfl, lookup_setMember_self _ _ _,
    lookup_setMember_self _ _ _, lookup_setMember_self _ _ _, ?_⟩ hreplaced
  simp only [setMember_setMember]

theorem opens_or_eq_of_ensurePodSpec (h : nb.ensurePodSpec = .ok nb₀) :
    (∃ ps, nb.Opens nb₀ ps) ∨ nb₀ = nb := by
  obtain ⟨_, hensure, hmodify⟩ := bind_eq_ok_iff.mp h
  obtain ⟨ms, _, w, rfl, hs, hspec, rfl⟩ := Doc.exists_hasMember hensure hmodify
  obtain ⟨_, hensure', hmodify'⟩ := bind_eq_ok_iff.mp hspec
  obtain ⟨s, _, u, rfl, ht, htemplate, rfl⟩ := Doc.exists_hasMember hensure' hmodify'
  obtain ⟨found, hfound, htemplate⟩ := bind_eq_ok_iff.mp htemplate
  obtain ⟨t, rfl, rfl⟩ := read_eq_ok_iff.mp hfound
  split at htemplate
  · cases htemplate
    exact .inl ⟨[], h, _, _, _, rfl, lookup_setMember_self _ _ _, lookup_setMember_self _ _ _,
      lookup_setMember_self _ _ _⟩
  · next hthere =>
    cases htemplate
    -- A template with a specification has not been created, nor has what it stands in.
    have ht' : s.lookup "template" = some (.obj t) := ht.resolve_right fun hempty => by
      cases hempty.1
      exact hthere rfl
    have hs' : ms.lookup "spec" = some (.obj s) := hs.resolve_right fun hempty => by
      cases hempty.1
      cases ht'
    exact .inr (by rw [setMember_of_lookup ht', setMember_of_lookup hs'])

/-- The specification is read at its place, whether it has to be created or not. -/
theorem Opens.at? (h : nb.Opens nb₀ ps) (k : String) : nb.at? (podSpecPlace k) = ps.lookup k := by
  obtain ⟨ms, s, t, rfl, hs, ht, hps, -⟩ := h.exists_hasMember
  rw [podSpecPlace, hs.at? (by simp), ht.at? (by simp), hps.at? (by simp), at?_member]

theorem opens_of_at? {d : Doc} (h : nb.at? (podSpecPlace k) = some d) : ∃ ps, nb.Opens nb ps := by
  obtain ⟨ms, _, rfl, hs, h⟩ := at?_member_eq_some h
  obtain ⟨s, _, rfl, ht, h⟩ := at?_member_eq_some h
  obtain ⟨t, _, rfl, hps, h⟩ := at?_member_eq_some h
  obtain ⟨ps, _, rfl, -, -⟩ := at?_member_eq_some h
  exact ⟨ps, HasPodSpec.opens ⟨ms, s, t, rfl, hs, ht, hps⟩⟩

/-- **An edit of the specification changes the notebook there.** -/
theorem Opens.changedWithin (h : nb.Opens nb₀ ps) (hqs : qs ≠ [])
    (hps : ChangedWithin qs (.obj ps) (.obj ps'))
    (hreplaced : PodSpecReplaced nb₀ nb' (.obj ps) (.obj ps')) : ChangedWithin
      (qs.map fun q => .member "spec" :: .member "template" :: .member "spec" :: q) nb nb' := by
  obtain ⟨ms, s, t, rfl, hs, ht, hspec, hall⟩ := h.exists_hasMember
  rw [hall _ _ hreplaced]
  have hchanged := changedWithin_setMember (by simpa using hqs) hs (changedWithin_setMember
    (by simpa using hqs) ht (changedWithin_setMember hqs hspec hps))
  simpa only [List.map_map, Function.comp_def] using hchanged

end Notebook

end Workbench
