import Workbench.Proofs.Entries
import Workbench.Proofs.Metadata

/-!
# The shape of notebooks

The cluster checks the shape of an object only after admission. What it would let pass is said here
by tests, which can be run on a document.

* `Doc.memberFits`, `Doc.orNull`, `Doc.isListOf`, `Doc.mayList`: tests of a member that may be
  missing, of what may be null, and of lists;
* `Doc.ItemsAre`: the items under a name, none when they are missing or null;
* `Shape.isNotebook`: a notebook whose annotations are texts, and whose containers and volumes have
  names; `Shape.hasTemplate` asks for the way to the specification of the pod template;
* `Shape.isStream`: an image stream;
* `Notebook.Described`, `Notebook.opens_of_hasTemplate`: what an edit relies on in such a notebook.
-/

namespace Workbench

/-! ## Tests -/

namespace Doc

/-- A text. -/
def isText : Doc → Bool
  | .str _ => true
  | _ => false

/-- An object whose member `k` is missing or fits. -/
def memberFits (k : String) (fits : Doc → Bool) : Doc → Bool
  | .obj ms => (ms.lookup k).all fits
  | _ => false

/-- Null, or what fits. -/
def orNull (fits : Doc → Bool) (d : Doc) : Bool := d = .null || fits d

/-- A list whose items fit. -/
def isListOf (fits : Doc → Bool) : Doc → Bool
  | .arr ds => ds.all fits
  | _ => false

/-- An object with a list of what fits under `k`, which may be missing or null. -/
def mayList (k : String) (fits : Doc → Bool) : Doc → Bool := memberFits k (orNull (isListOf fits))

/-- The items under `k` are `ds`; none are there when they are missing or null. -/
def ItemsAre (k : String) (ms : List Member) (ds : List Doc) : Prop :=
  ms.lookup k = some (.arr ds) ∨ ds = [] ∧ (ms.lookup k).getD .null = .null

variable {k j : String} {fits fits' : Doc → Bool} {d d' : Doc} {ms : List Member} {ds : List Doc}

theorem isObj_iff : d.isObj = true ↔ ∃ ms, d = .obj ms := by
  cases d <;> simp [isObj]

theorem isText_iff : d.isText = true ↔ ∃ s, d = .str s := by
  cases d <;> simp [isText]

theorem orNull_iff : orNull fits d = true ↔ d = .null ∨ fits d = true := by
  simp [orNull]

theorem isListOf_iff : isListOf fits d = true ↔ ∃ ds, d = .arr ds ∧ ∀ e ∈ ds, fits e = true := by
  cases d <;> simp [isListOf]

theorem memberFits_iff : memberFits k fits d = true ↔
    ∃ ms, d = .obj ms ∧ ∀ v, ms.lookup k = some v → fits v = true := by
  cases d <;> simp [memberFits, Option.all_eq_true]

theorem memberFits_obj : memberFits k fits (.obj ms) = true ↔
    ∀ v, ms.lookup k = some v → fits v = true := by
  simp [memberFits, Option.all_eq_true]

theorem getD_of_memberFits (h : memberFits k (memberFits j fits) (.obj ms) = true) :
    ∃ s, (ms.lookup k).getD .empty = .obj s ∧ memberFits j fits (.obj s) = true := by
  cases hfound : ms.lookup k with
  | none => exact ⟨[], rfl, rfl⟩
  | some v =>
    have hv := memberFits_obj.mp h v hfound
    obtain ⟨s, rfl, -⟩ := memberFits_iff.mp hv
    exact ⟨s, rfl, hv⟩

theorem orElse_of_memberFits (hempty : fits .empty = true)
    (hobj : ∀ d, fits d = true → d.isObj = true)
    (h : memberFits k (orNull fits) (.obj ms) = true) :
    ∃ m, ((ms.lookup k).getD .null).orElse .empty = .obj m ∧ fits (.obj m) = true := by
  cases hfound : ms.lookup k with
  | none => exact ⟨[], rfl, hempty⟩
  | some v =>
    rcases orNull_iff.mp (memberFits_obj.mp h v hfound) with rfl | hv
    · exact ⟨[], rfl, hempty⟩
    · obtain ⟨m, rfl⟩ := isObj_iff.mp (hobj v hv)
      exact ⟨m, orElse_empty_obj m, hv⟩

theorem memberFits_of_sameBut (h : SameBut j d d') (hk : k ≠ j) :
    memberFits k fits d' = memberFits k fits d := by
  obtain ⟨ms, ns, rfl, rfl, hns⟩ := h
  rw [memberFits, memberFits, hns k hk]

theorem mayList_obj : mayList k fits (.obj ms) = true ↔
    ∃ ds, ItemsAre k ms ds ∧ ∀ e ∈ ds, fits e = true := by
  simp only [mayList, memberFits_obj, orNull_iff, isListOf_iff, ItemsAre]
  cases ms.lookup k with
  | none => simp
  | some v => cases v <;> simp

theorem forall_of_mayList (h : mayList k fits (.obj ms) = true) (hk : ms.lookup k = some (.arr ds)) :
    ∀ e ∈ ds, fits e = true := by
  obtain ⟨ds', hds | ⟨-, hnull⟩, hall⟩ := mayList_obj.mp h
  · cases hk.symm.trans hds
    exact hall
  · rw [hk] at hnull
    cases hnull

theorem mayList_iff : mayList k fits d = true ↔
    ∃ ms ds, d = .obj ms ∧ ItemsAre k ms ds ∧ ∀ e ∈ ds, fits e = true := by
  cases d with
  | obj ms => simp [mayList_obj]
  | _ => simp [mayList, memberFits]

theorem mayList_mono (hfits : ∀ e, fits e = true → fits' e = true) (h : mayList k fits d = true) :
    mayList k fits' d = true := by
  obtain ⟨ms, ds, rfl, hds, hall⟩ := mayList_iff.mp h
  exact mayList_obj.mpr ⟨ds, hds, fun e he => hfits e (hall e he)⟩

theorem mayList_setMember (h : ∀ e ∈ ds, fits e = true) :
    mayList k fits (.obj (setMember k (.arr ds) ms)) = true :=
  mayList_obj.mpr ⟨ds, .inl (lookup_setMember_self _ _ _), h⟩

theorem mayList_setMember_ne {v : Doc} (hk : k ≠ j) :
    mayList k fits (.obj (setMember j v ms)) = mayList k fits (.obj ms) := by
  rw [mayList, memberFits, memberFits, lookup_setMember, if_neg hk]

theorem ItemsAre.elements (h : ItemsAre k ms ds) :
    (((ms.lookup k).getD .null).orElse (.arr [])).elements = .ok ds := by
  rcases h with h | ⟨rfl, h⟩
  · rw [h]
    cases ds <;> rfl
  · rw [h]
    rfl

theorem ItemsAre.ofDoc (h : ItemsAre k ms ds) :
    Entries.ofDoc ((ms.lookup k).getD .null) = Entries.ofList ds := by
  rcases h with h | ⟨rfl, h⟩
  · rw [h]
    cases ds <;> rfl
  · rw [h]
    rfl

end Doc

open Doc

namespace Shape

/-! ## Notebooks -/

/-- An object with a text for a name. -/
def isEntry (d : Doc) : Bool :=
  match d.require "name" with
  | .ok name => name.isText
  | .error _ => false

/-- A container, apart from its image. -/
def isContainer (d : Doc) : Bool :=
  isEntry d && mayList "env" isObj d && mayList "volumeMounts" isObj d

/-- A container with a text for an image, if it has one. -/
def isContainerWithImage (d : Doc) : Bool :=
  isContainer d && memberFits "image" (orNull isText) d

/-- The specification of a pod template whose containers pass a test. -/
def isPodSpec (container : Doc → Bool) (d : Doc) : Bool :=
  mayList "containers" container d && mayList "volumes" isEntry d

/-- The way to the specification of the pod template is there as far as it goes, and the
specification passes a test. -/
def hasTemplate (spec : Doc → Bool) : Doc → Bool :=
  memberFits "spec" (memberFits "template" (memberFits "spec" (orNull spec)))

/-- An object whose members are texts. -/
def isTexts : Doc → Bool
  | .obj ms => ms.all fun m => m.2.isText
  | _ => false

/-- The metadata are an object, and the annotations in them texts. -/
def hasMetadata : Doc → Bool :=
  memberFits "metadata" (orNull (memberFits "annotations" (orNull isTexts)))

/-- A notebook. -/
def isNotebook (d : Doc) : Bool := hasMetadata d && hasTemplate (isPodSpec isContainerWithImage) d

/-! ## Image streams -/

/-- A tag of an image stream. -/
def isTag : Doc → Bool := mayList "items" isObj

/-- An image stream. -/
def isStream (d : Doc) : Bool :=
  memberFits "metadata" (orNull isObj) d && memberFits "status" (orNull (mayList "tags" isTag)) d

/-! ## What is there -/

variable {d e : Doc} {ps : List Member} {container container' : Doc → Bool} {es : List Doc}
  {k : String}

theorem isEntry_iff : isEntry e = true ↔ ∃ name, e.require "name" = .ok (.str name) := by
  unfold isEntry
  cases e.require "name" with
  | ok v => simp [isText_iff]
  | error f => simp

theorem isObj_of_isEntry (h : isEntry e = true) : e.isObj = true := by
  obtain ⟨name, hname⟩ := isEntry_iff.mp h
  obtain ⟨ms, rfl, -⟩ := require_eq_ok_iff.mp hname
  rfl

theorem isEntry_of_sameBut {e' : Doc} (h : SameBut k e e') (hk : "name" ≠ k) :
    isEntry e' = isEntry e := by
  rw [isEntry, isEntry, h.require hk]

theorem isContainer_iff : isContainer d = true ↔
    (isEntry d = true ∧ mayList "env" isObj d = true) ∧ mayList "volumeMounts" isObj d = true := by
  simp [isContainer]

theorem isPodSpec_iff : isPodSpec container d = true ↔
    mayList "containers" container d = true ∧ mayList "volumes" isEntry d = true := by
  simp [isPodSpec]

theorem isPodSpec_mono (hcontainer : ∀ e, container e = true → container' e = true)
    (h : isPodSpec container d = true) : isPodSpec container' d = true := by
  rw [isPodSpec_iff] at h ⊢
  exact ⟨mayList_mono hcontainer h.1, h.2⟩

theorem exists_foldlM_insert : ∀ {es : List Doc}, (∀ e ∈ es, isEntry e = true) → ∀ E : Entries,
    ∃ F, es.foldlM Entries.insert E = .ok F ∧ ∀ x ∈ F.toList, x ∈ E.toList ∨ x ∈ es
  | [], _, E => ⟨E, rfl, fun _ hx => .inl hx⟩
  | e :: es, hes, E => by
    obtain ⟨he, hes⟩ := List.forall_mem_cons.mp hes
    obtain ⟨name, hname⟩ := isEntry_iff.mp he
    have hinsert : E.insert e = .ok ⟨Entries.set (.str name) e E.keyed⟩ := by
      rw [Entries.insert, Entries.keyOf_eq_str_iff.mpr hname]
      rfl
    obtain ⟨F, hF, hall⟩ := exists_foldlM_insert hes ⟨Entries.set (.str name) e E.keyed⟩
    refine ⟨F, by rw [List.foldlM_cons, hinsert, ok_bind, hF], fun x hx => ?_⟩
    rcases hall x hx with hx | hx
    · obtain ⟨p, hp, rfl⟩ := List.mem_map.mp hx
      rcases Entries.of_mem_set hp with rfl | hp
      · exact .inr List.mem_cons_self
      · exact .inl (List.mem_map_of_mem hp)
    · exact .inr (List.mem_cons_of_mem _ hx)

theorem exists_gains {more : List Doc} (h : mayList k isEntry (.obj ps) = true)
    (hmore : ∀ e ∈ more, isEntry e = true) : ∃ F,
      Entries.Gains ((ps.lookup k).getD .null) more F ∧ ∀ x ∈ F.toList, isEntry x = true := by
  obtain ⟨ds, hds, hall⟩ := mayList_obj.mp h
  obtain ⟨E, hE, hE'⟩ := exists_foldlM_insert hall Entries.empty
  obtain ⟨F, hF, hF'⟩ := exists_foldlM_insert hmore E
  refine ⟨F, ⟨E, hds.ofDoc.trans hE, hF⟩, fun x hx => ?_⟩
  rcases hF' x hx with hx | hx
  · exact (hE' x hx).elim nofun (hall x)
  · exact hmore x hx

end Shape

namespace Notebook

variable {nb nb' : Notebook} {key value : String} {spec : Doc → Bool}

/-! ## Metadata -/

/-- The notebook has metadata, and its annotations are texts. -/
def Described (nb : Notebook) : Prop :=
  ∃ m as, nb.require "metadata" = .ok (.obj m) ∧ AnnotationsAre m as ∧
    ∀ key v, as.lookup key = some v → v.isText = true

theorem Described.of_sameBut (h : nb.Described) (hsame : SameBut "spec" nb nb') : nb'.Described := by
  obtain ⟨m, as, hm, has⟩ := h
  exact ⟨m, as, (hsame.require (by decide)).trans hm, has⟩

theorem described_of_hasMetadata {m : List Member} (h : Shape.hasMetadata nb = true)
    (hm : nb.require "metadata" = .ok (.obj m)) : nb.Described := by
  obtain ⟨ms, rfl, hms⟩ := require_eq_ok_iff.mp hm
  have hmetadata := (orNull_iff.mp (memberFits_obj.mp h _ hms)).resolve_left nofun
  have hannotations := memberFits_obj.mp hmetadata
  cases hfound : m.lookup "annotations" with
  | none => exact ⟨m, [], hm, .inr ⟨rfl, by rw [hfound]; rfl⟩, nofun⟩
  | some v =>
    rcases orNull_iff.mp (hannotations v hfound) with rfl | htexts
    · exact ⟨m, [], hm, .inr ⟨rfl, by rw [hfound]; rfl⟩, nofun⟩
    · cases v with
      | obj as =>
        refine ⟨m, as, hm, .inl hfound, fun key v hv => ?_⟩
        exact List.all_eq_true.mp htexts (key, v) (mem_of_lookup hv)
      | _ => cases htexts

namespace Described

theorem annotations (h : nb.Described) :
    ∃ as, nb.annotations = .ok (.obj as) ∧ ∀ key v, as.lookup key = some v → v.isText = true := by
  obtain ⟨m, as, hm, has, htexts⟩ := h
  obtain ⟨ms, rfl, hms⟩ := require_eq_ok_iff.mp hm
  refine ⟨as, ?_, htexts⟩
  rw [Notebook.annotations, read_obj, hms, ok_bind, Option.getD_some, orElse_empty_obj, read_obj,
    ok_bind]
  rcases has with has | ⟨rfl, has⟩
  · rw [has, Option.getD_some, orElse_empty_obj]
    rfl
  · rw [has]
    rfl

theorem annotationValue (h : nb.Described) (key : String) :
    ∃ v, nb.annotationValue key = .ok v ∧ (v = .null ∨ ∃ s, v = .str s) := by
  obtain ⟨as, has, htexts⟩ := h.annotations
  refine ⟨(as.lookup key).getD .null, by rw [Notebook.annotationValue, has, ok_bind, read_obj], ?_⟩
  cases hfound : as.lookup key with
  | none => exact .inl rfl
  | some v => exact .inr (isText_iff.mp (htexts key v hfound))

theorem flag (h : nb.Described) (key : String) :
    ∃ b, (nb.annotationValue key >>= parseFlag) = .ok b := by
  obtain ⟨v, hv, hshape⟩ := h.annotationValue key
  rw [hv, ok_bind]
  rcases hshape with rfl | ⟨s, rfl⟩ <;> exact ⟨_, rfl⟩

theorem hasAnnotation (h : nb.Described) (key : String) : ∃ b, nb.hasAnnotation key = .ok b := by
  obtain ⟨as, has, -⟩ := h.annotations
  exact ⟨_, by rw [Notebook.hasAnnotation, has, ok_bind, contains_obj_str]⟩

theorem annotate (h : nb.Described) (key value : String) :
    ∃ nb', nb.annotate key value = .ok nb' ∧ nb'.Described := by
  obtain ⟨m, as, hm, has, htexts⟩ := h
  obtain ⟨nb', hreplaced⟩ :=
    exists_metadataReplaced hm (setMember "annotations" (.obj (setMember key (.str value) as)) m)
  refine ⟨nb', (annotate_eq_ok_iff hm).mpr ⟨as, has, hreplaced⟩, _, _, hreplaced.require,
    .inl (lookup_setMember_self _ _ _), fun k v hv => ?_⟩
  rw [lookup_setMember] at hv
  split at hv
  · cases hv
    rfl
  · exact htexts k v hv

theorem dropAnnotation (h : nb.Described) (hthere : nb.hasAnnotation key = .ok true) :
    ∃ nb', nb.dropAnnotation key = .ok nb' := by
  obtain ⟨m, as, hm, has | ⟨rfl, hnone⟩, -⟩ := h
  · obtain ⟨nb', hdrop, -⟩ := dropAnnotation_eq_ok key hm has
    exact ⟨nb', hdrop⟩
  · -- Nothing is there when there are no annotations.
    obtain ⟨ms, rfl, hms⟩ := require_eq_ok_iff.mp hm
    rw [Notebook.hasAnnotation, Notebook.annotations, read_obj, hms, ok_bind, Option.getD_some,
      orElse_empty_obj, read_obj, ok_bind, hnone] at hthere
    cases hthere

end Described

/-! ## The pod template -/

theorem exists_way (h : Shape.hasTemplate spec nb = true) : ∃ ms s t, nb = .obj ms ∧
    (ms.lookup "spec").getD .empty = .obj s ∧ (s.lookup "template").getD .empty = .obj t ∧
    ((t.lookup "spec").getD .null = .null ∨ spec ((t.lookup "spec").getD .null) = true) := by
  obtain ⟨ms, rfl, -⟩ := memberFits_iff.mp h
  obtain ⟨s, hs, hspec⟩ := getD_of_memberFits h
  obtain ⟨t, ht, htemplate⟩ := getD_of_memberFits hspec
  refine ⟨ms, s, t, rfl, hs, ht, ?_⟩
  cases hfound : t.lookup "spec" with
  | none => exact .inl rfl
  | some v => exact orNull_iff.mp (memberFits_obj.mp htemplate v hfound)

theorem podSpec_of_getD {ms s t : List Member} (hs : (ms.lookup "spec").getD .empty = .obj s)
    (ht : (s.lookup "template").getD .empty = .obj t) : podSpec (.obj ms) =
      .ok (if (t.lookup "spec").getD .null = .null then .empty else (t.lookup "spec").getD .null) := by
  have htemplate : (if (s.lookup "template").isSome then s else s ++ [("template", .empty)]).lookup
      "template" = some (.obj t) := by
    rw [lookup_ensured, if_pos rfl, ht]
  rw [podSpec_obj, hs, fillTemplate, ensure_eq_ok_iff.mpr ⟨s, rfl, rfl⟩, ok_bind,
    modify_obj htemplate, read_obj, ok_bind]
  split
  · rw [put_eq_ok_iff.mpr ⟨t, rfl, rfl⟩]
    simp only [ok_bind, require_obj, lookup_setMember_self]
  · next hspec =>
    obtain ⟨v, hv⟩ : ∃ v, t.lookup "spec" = some v := by
      cases hfound : t.lookup "spec" with
      | none => exact absurd (by rw [hfound]; rfl) hspec
      | some v => exact ⟨v, rfl⟩
    simp only [pure_eq_ok, ok_bind, require_obj, lookup_setMember_self, hv, Option.getD_some]

/-- The pod template of such a notebook can be created. -/
theorem opens_of_hasTemplate {container : Doc → Bool}
    (h : Shape.hasTemplate (Shape.isPodSpec container) nb = true) :
    ∃ nb₀ ps, nb.Opens nb₀ ps ∧ Shape.isPodSpec container (.obj ps) = true := by
  obtain ⟨ms, s, t, rfl, hs, ht, hspec⟩ := exists_way h
  have hpod := podSpec_of_getD hs ht
  rcases hspec with hnull | hfits
  · rw [if_pos hnull] at hpod
    obtain ⟨nb₀, hopens⟩ := opens_of_podSpec hpod
    exact ⟨nb₀, [], hopens, rfl⟩
  · obtain ⟨ps, _, hps, -⟩ := mayList_iff.mp (Shape.isPodSpec_iff.mp hfits).1
    have hnull : obj ps ≠ .null := by simp
    rw [hps] at hpod hfits
    rw [if_neg hnull] at hpod
    obtain ⟨nb₀, hopens⟩ := opens_of_podSpec hpod
    exact ⟨nb₀, ps, hopens, hfits⟩

theorem exists_templateSpec (h : Shape.hasTemplate spec nb = true) :
    ∃ v, nb.templateSpec = .ok v := by
  obtain ⟨ms, s, t, rfl, hs, ht, -⟩ := exists_way h
  refine ⟨((t.lookup "spec").getD .null).orElse .empty, ?_⟩
  rw [templateSpec, orElse_empty_obj, read_obj, ok_bind, orElse_getD_null (by rw [hs]; rfl), hs]
  simp only [read_obj, ok_bind]
  rw [orElse_getD_null (by rw [ht]; rfl), ht, read_obj]
  rfl

end Notebook

end Workbench
