import Workbench.Proofs.Admission.Edits
import Workbench.Proofs.Cluster.Replies
import Workbench.Proofs.Shape

/-!
# Edits that cannot fail

An edit of a notebook of the right shape succeeds, or ends in a failure, which is answered. Each edit
leaves what the next one relies on.

* `Shape.exists_putImage`, `Shape.exists_mountInContainer`: the edits of a container;
* `Image.exists_find?`: a look-up in image streams;
* `Admission.Edited`: what is known of a notebook between two edits; `Edited.replace` for edits of its
  pod template;
* `Admission.isReply`, `Admission.Succeeds`: the replies of a cluster that knows its image streams,
  and programs that only failures can end there;
* `Admission.resolve_ends`, `Admission.mountBundle_ends`, `Admission.exists_addSidecar`: the three
  edits;
* **`Admission.edit_ends`**: all of them.
-/

namespace Workbench

open Doc Notebook

/-! ## Containers -/

namespace Shape

variable {c entry reference selection name : Doc} {es entries ds cs : List Doc} {k : String}
  {fits container container' : Doc → Bool} {ms ps : List Member}

theorem exists_apply {f : FirstEdit}
    (hedit : ∀ e : Doc, e.isObj = true → ∃ e', f.edit e = .ok e' ∧ e'.isObj = true)
    (hadded : ∀ e ∈ f.added, e.isObj = true) : ∀ {es : List Doc}, (∀ e ∈ es, e.isObj = true) →
      ∃ es', f.apply es = .ok es' ∧ ∀ e ∈ es', e.isObj = true
  | [], _ => ⟨f.added, rfl, hadded⟩
  | e :: es, hes => by
    obtain ⟨he, htail⟩ := List.forall_mem_cons.mp hes
    obtain ⟨e', hedited, he'⟩ := hedit e he
    obtain ⟨es', happly, hes'⟩ := exists_apply hedit hadded htail
    obtain ⟨name, hname⟩ : ∃ name, e.read "name" = .ok name := by
      obtain ⟨ms, rfl⟩ := isObj_iff.mp he
      exact ⟨_, read_obj ms⟩
    rw [FirstEdit.apply_cons hname, hedited, happly]
    split
    · exact ⟨_, rfl, List.forall_mem_cons.mpr ⟨he', htail⟩⟩
    · exact ⟨_, rfl, List.forall_mem_cons.mpr ⟨he, hes'⟩⟩

theorem exists_foldlM_putEntry : ∀ {entries : List Doc}, (∀ e ∈ entries, isEntry e = true) →
    ∀ {es : List Doc}, (∀ e ∈ es, e.isObj = true) → ∃ es',
      entries.foldlM (fun es e => putEntry e es) es = .ok es' ∧ ∀ e ∈ es', e.isObj = true
  | [], _, es, hes => ⟨es, rfl, hes⟩
  | entry :: entries, hentries, es, hes => by
    obtain ⟨hentry, htail⟩ := List.forall_mem_cons.mp hentries
    obtain ⟨name, hname⟩ := isEntry_iff.mp hentry
    have hobj := isObj_of_isEntry hentry
    obtain ⟨es₁, hput, hes₁⟩ := exists_apply (f := FirstEdit.put entry name)
      (fun _ _ => ⟨entry, rfl, hobj⟩) (List.forall_mem_singleton.mpr hobj) hes
    obtain ⟨es', hfold, hes'⟩ := exists_foldlM_putEntry htail hes₁
    exact ⟨es', by rw [List.foldlM_cons, putEntry_eq hname, hput, ok_bind, hfold], hes'⟩

theorem putEntries_obj (h : ItemsAre k ms ds) : TrustBundle.putEntries k entries (.obj ms) =
    entries.foldlM (fun es e => putEntry e es) ds >>= fun es => (obj ms).put k (.arr es) := by
  rw [TrustBundle.putEntries, read_obj, ok_bind]
  rcases h with h | ⟨rfl, h⟩
  · rw [h, Option.getD_some, if_neg (by simp)]
    rfl
  · rw [if_pos h]
    rfl

theorem exists_putEntries (h : mayList k isObj c = true)
    (hentries : ∀ e ∈ entries, isEntry e = true) :
    ∃ c', TrustBundle.putEntries k entries c = .ok c' ∧ mayList k isObj c' = true := by
  obtain ⟨ms, ds, rfl, hds, hall⟩ := mayList_iff.mp h
  obtain ⟨es, hfold, hes⟩ := exists_foldlM_putEntry hentries hall
  refine ⟨.obj (setMember k (.arr es) ms), ?_, mayList_setMember hes⟩
  rw [putEntries_obj hds, hfold]
  rfl

theorem exists_mountInContainer_of_mayList (henv : mayList "env" isObj c = true)
    (hmounts : mayList "volumeMounts" isObj c = true) :
    ∃ c', TrustBundle.mountInContainer c = .ok c' ∧ mayList "env" isObj c' = true ∧
      mayList "volumeMounts" isObj c' = true := by
  have hpointers : ∀ e ∈ TrustBundle.variableNames.map TrustBundle.pointer, isEntry e = true := by
    decide
  obtain ⟨c₁, hc₁, henv₁⟩ := exists_putEntries henv hpointers
  have hmounts₁ : mayList "volumeMounts" isObj c₁ = true := by
    rw [mayList, memberFits_of_sameBut (TrustBundle.sameBut_putEntries hc₁) (by decide)]
    exact hmounts
  have hmount : ∀ e ∈ [TrustBundle.volumeMount], isEntry e = true := by decide
  obtain ⟨c₂, hc₂, hmounts₂⟩ := exists_putEntries hmounts₁ hmount
  refine ⟨c₂, by rw [TrustBundle.mountInContainer, hc₁, ok_bind, hc₂], ?_, hmounts₂⟩
  rw [mayList, memberFits_of_sameBut (TrustBundle.sameBut_putEntries hc₂) (by decide)]
  exact henv₁

theorem exists_mountInContainer (h : isContainer c = true) :
    ∃ c', TrustBundle.mountInContainer c = .ok c' ∧ isContainer c' = true := by
  obtain ⟨⟨hentry, henv⟩, hmounts⟩ := isContainer_iff.mp h
  obtain ⟨c', hc', henv', hmounts'⟩ := exists_mountInContainer_of_mayList henv hmounts
  refine ⟨c', hc', isContainer_iff.mpr ⟨⟨?_, henv'⟩, hmounts'⟩⟩
  obtain ⟨c₁, hc₁, hc₂⟩ := bind_eq_ok_iff.mp hc'
  rw [isEntry_of_sameBut (TrustBundle.sameBut_putEntries hc₂) (by decide),
    isEntry_of_sameBut (TrustBundle.sameBut_putEntries hc₁) (by decide), hentry]

theorem isContainer_of_sameBut {c c₁ c₂ : Doc} (h : isContainer c = true)
    (himage : SameBut "image" c c₁) (henv : SameBut "env" c₁ c₂)
    (hobj : mayList "env" isObj c₂ = true) : isContainer c₂ = true := by
  obtain ⟨⟨hentry, -⟩, hmounts⟩ := isContainer_iff.mp h
  refine isContainer_iff.mpr ⟨⟨?_, hobj⟩, ?_⟩
  · rw [isEntry_of_sameBut henv (by decide), isEntry_of_sameBut himage (by decide), hentry]
  · rw [mayList, memberFits_of_sameBut henv (by decide), memberFits_of_sameBut himage (by decide)]
    exact hmounts

theorem exists_putVariable (selection : Doc) (h : ∀ e ∈ es, e.isObj = true) :
    ∃ es', Image.putVariable selection es = .ok es' ∧ ∀ e ∈ es', e.isObj = true := by
  rw [Image.putVariable_eq]
  refine exists_apply (fun e he => ?_) (List.forall_mem_nil _) h
  obtain ⟨ms, rfl⟩ := isObj_iff.mp he
  exact ⟨_, rfl, rfl⟩

theorem putImage_ends (reference selection : Doc) (h : mayList "env" isObj c = true) :
    ∃ c₁ c', Image.putImage reference selection c = .ok c' ∧ SameBut "image" c c₁ ∧
      SameBut "env" c₁ c' ∧ mayList "env" isObj c' = true := by
  obtain ⟨ms, ds, rfl, hds, hall⟩ := mayList_iff.mp h
  have hput : (obj ms).put "image" reference = .ok (.obj (setMember "image" reference ms)) := rfl
  have himage := sameBut_put hput
  have hitems : ItemsAre "env" (setMember "image" reference ms) ds := by
    rwa [ItemsAre, lookup_setMember, if_neg (by decide)]
  rw [Image.putImage, hput, ok_bind, read_obj, ok_bind]
  split
  · next htruthy =>
    obtain ⟨es, hes, hobj⟩ := exists_putVariable selection hall
    have henv : (setMember "image" reference ms).lookup "env" = some (.arr ds) := by
      rcases hitems with henv | ⟨-, hnull⟩
      · exact henv
      · rw [hnull] at htruthy
        cases htruthy
    refine ⟨_, .obj (setMember "env" (.arr es) (setMember "image" reference ms)), ?_, himage,
      ⟨_, _, rfl, rfl, fun k hk => ?_⟩, mayList_setMember hobj⟩
    · rw [henv, Option.getD_some, items, ok_bind, hes]
      rfl
    · rw [lookup_setMember, if_neg hk]
  · exact ⟨_, _, rfl, himage, .refl rfl, mayList_obj.mpr ⟨ds, hitems, hall⟩⟩

/-- A container stays one when an image is put in. -/
theorem exists_putImage (reference selection : Doc) (h : isContainer c = true) :
    ∃ c', Image.putImage reference selection c = .ok c' ∧ isContainer c' = true := by
  obtain ⟨c₁, c', hput, himage, henv, hobj⟩ :=
    putImage_ends reference selection (isContainer_iff.mp h).1.2
  exact ⟨c', hput, isContainer_of_sameBut h himage henv hobj⟩

/-! ## Names -/

theorem exists_indexOfName? (name : Doc) : ∀ {cs : List Doc}, (∀ c ∈ cs, c.isObj = true) →
    ∃ found, indexOfName? name cs = .ok found
  | [], _ => ⟨none, rfl⟩
  | c :: cs, hcs => by
    obtain ⟨hc, htail⟩ := List.forall_mem_cons.mp hcs
    obtain ⟨found, hfound⟩ := exists_indexOfName? name htail
    obtain ⟨ms, rfl⟩ := isObj_iff.mp hc
    rw [indexOfName?_cons (read_obj ms), hfound]
    split <;> exact ⟨_, rfl⟩

theorem exists_primaryIn? (name : Doc) (hcontainer : ∀ c, container c = true → c.isObj = true)
    (h : isPodSpec container (.obj ps) = true) : ∃ found, primaryIn? name ps = .ok found := by
  obtain ⟨cs, hcs, hall⟩ := mayList_obj.mp (isPodSpec_iff.mp h).1
  rw [primaryIn?, containersIn, hcs.elements]
  exact exists_indexOfName? name fun c hc => hcontainer c (hall c hc)

theorem isPodSpec_set (hweaker : ∀ c, container c = true → container' c = true)
    (h : isPodSpec container (.obj ps) = true) (hcs : ps.lookup "containers" = some (.arr cs))
    (hc : container' c = true) {i : Nat} :
    isPodSpec container' (.obj (setMember "containers" (.arr (cs.set i c)) ps)) = true := by
  obtain ⟨hcontainers, hvolumes⟩ := isPodSpec_iff.mp h
  refine isPodSpec_iff.mpr ⟨mayList_setMember fun d hd => ?_, ?_⟩
  · rcases List.mem_or_eq_of_mem_set hd with hd | rfl
    · exact hweaker d (forall_of_mayList hcontainers hcs d hd)
    · exact hc
  · rwa [mayList_setMember_ne (by decide)]

end Shape

/-! ## Image streams -/

namespace Image

open Shape

variable {item tag name : Doc} {items tags streams : List Doc}

theorem exists_made? (h : item.isObj = true) : ∃ m?, made? item = .ok m? := by
  obtain ⟨ms, rfl⟩ := isObj_iff.mp h
  rw [made?, read_obj, read_obj, ok_bind, ok_bind]
  split
  · split <;> exact ⟨_, rfl⟩
  · exact ⟨_, rfl⟩

theorem exists_newestFrom : ∀ {items : List Doc}, (∀ item ∈ items, item.isObj = true) →
    ∀ best, ∃ m?, newestFrom best items = .ok m?
  | [], _, best => ⟨best, rfl⟩
  | item :: items, h, best => by
    obtain ⟨hitem, htail⟩ := List.forall_mem_cons.mp h
    obtain ⟨m?, hm⟩ := exists_made? hitem
    rw [newestFrom, hm, ok_bind]
    cases m? <;> exact exists_newestFrom htail _

theorem exists_findTag? (tag : Doc) : ∀ {tags : List Doc}, (∀ t ∈ tags, isTag t = true) →
    ∃ found, findTag? tag tags = .ok found
  | [], _ => ⟨none, rfl⟩
  | t :: tags, h => by
    obtain ⟨ht, htail⟩ := List.forall_mem_cons.mp h
    obtain ⟨found, hfound⟩ := exists_findTag? tag htail
    obtain ⟨ms, items, rfl, hitems, hall⟩ := mayList_iff.mp ht
    obtain ⟨m?, hm⟩ := exists_newestFrom hall none
    simp only [findTag?, newest?, read_obj, ok_bind, hitems.elements, hm]
    split
    · exact ⟨found, hfound⟩
    · cases m? with
      | none => exact ⟨found, hfound⟩
      | some m => exact ⟨_, rfl⟩

/-- A name and a tag stand for an image or for none. -/
theorem exists_find? (name tag : Doc) : ∀ {streams : List Doc},
    (∀ stream ∈ streams, isStream stream = true) → ∃ found, find? name tag streams = .ok found
  | [], _ => ⟨none, rfl⟩
  | stream :: streams, h => by
    obtain ⟨hstream, htail⟩ := List.forall_mem_cons.mp h
    obtain ⟨found, hfound⟩ := exists_find? name tag htail
    obtain ⟨hmetadata, hstatus⟩ := (Bool.and_eq_true _ _).mp hstream
    obtain ⟨ms, rfl, -⟩ := memberFits_iff.mp hmetadata
    obtain ⟨m, hm, -⟩ := orElse_of_memberFits rfl (fun _ => id) hmetadata
    obtain ⟨st, hst, htags⟩ := orElse_of_memberFits rfl
      (fun d hd => by obtain ⟨_, _, rfl, -⟩ := mayList_iff.mp hd; rfl) hstatus
    obtain ⟨tags, htags, hall⟩ := mayList_obj.mp htags
    obtain ⟨reference?, hreference⟩ := exists_findTag? tag hall
    simp only [find?, read_obj, ok_bind, hm, hst, htags.elements, hreference]
    split
    · exact ⟨found, hfound⟩
    · cases reference? with
      | none => exact ⟨found, hfound⟩
      | some reference => exact ⟨_, rfl⟩

end Image

/-! ## Notebooks between edits -/

namespace Admission

open Shape

variable {raw nb nb' nb₀ old : Notebook} {container container' : Doc → Bool} {ps ps' : List Member}
  {settings : Settings} {ns operation : Doc}

/-- What the edits of `raw` rely on: they left a notebook with a name, a namespace and annotations,
and with containers that pass a test. -/
structure Edited (container : Doc → Bool) (raw nb : Notebook) : Prop where
  described : nb.Described
  placed : ∃ name ns, nb.Placed name ns
  opens : ∃ nb₀ ps, nb.Opens nb₀ ps ∧ isPodSpec container (.obj ps) = true
  /-- The pod template is there as soon as it is edited. -/
  origin : SameBut "metadata" raw nb ∨ ∃ spec, nb.HasPodSpec spec

namespace Edited

theorem mono (hweaker : ∀ c, container c = true → container' c = true)
    (h : Edited container raw nb) : Edited container' raw nb := by
  obtain ⟨nb₀, ps, hopens, hps⟩ := h.opens
  exact ⟨h.described, h.placed, ⟨nb₀, ps, hopens, isPodSpec_mono hweaker hps⟩, h.origin⟩

/-- Edits of the pod template leave the rest. -/
theorem replace (h : Edited container raw nb) (hopens : nb.Opens nb₀ ps)
    (hreplaced : PodSpecReplaced nb₀ nb' (.obj ps) (.obj ps'))
    (hps : isPodSpec container' (.obj ps') = true) : Edited container' raw nb' := by
  have hsame := hopens.sameBut.trans hreplaced.sameBut
  obtain ⟨name, ns, hplaced⟩ := h.placed
  exact ⟨h.described.of_sameBut hsame, ⟨name, ns, hplaced.of_sameBut hsame⟩,
    ⟨nb', ps', hreplaced.hasPodSpec.opens, hps⟩, .inr ⟨_, hreplaced.hasPodSpec⟩⟩

theorem annotate (h : Edited container raw nb) (key value : String) :
    ∃ nb', nb.annotate key value = .ok nb' ∧ Edited container raw nb' := by
  obtain ⟨nb', hannotate, hdescribed⟩ := h.described.annotate key value
  obtain ⟨name, ns, hplaced⟩ := h.placed
  obtain ⟨nb₀, ps, hopens, hps⟩ := h.opens
  have hsame := sameBut_annotate hannotate
  obtain ⟨nb₀', hopens'⟩ := opens_of_podSpec ((podSpec_of_sameBut hsame).trans hopens.podSpec)
  have hplaced' := (sameButAnnotation_annotate hannotate).placed hplaced
  refine ⟨nb', hannotate, hdescribed, ⟨name, ns, hplaced'⟩, ⟨nb₀', ps, hopens', hps⟩, ?_⟩
  rcases h.origin with hmeta | ⟨spec, hspec⟩
  · exact .inl (hmeta.trans hsame)
  · exact .inr ⟨spec, hspec.of_sameBut hsame⟩

end Edited

/-! ## The edits -/

/-- The replies of a cluster that knows its image streams. Trouble is reported as a failure. -/
def isReply : Call → Except Trouble Doc → Prop
  | _, .error t => t.isFailure = true
  | .list kind _, .ok d => kind = "ImageStream" → isListOf isStream d = true
  | _, .ok _ => True

/-- The program ends in failures only, and otherwise with what `post` holds of. -/
abbrev Succeeds {α : Type} (post : α → Prop) (a : Action α) : Prop :=
  a.Ends isReply (fun t => t.isFailure = true) post

theorem isObj_of_isContainer (c : Doc) (h : isContainer c = true) : c.isObj = true :=
  isObj_of_isEntry (isContainer_iff.mp h).1.1

theorem isContainer_of_isContainerWithImage (c : Doc) (h : isContainerWithImage c = true) :
    isContainer c = true :=
  ((Bool.and_eq_true _ _).mp h).1

theorem exists_isFinal {c : Doc} (h : isContainerWithImage c = true) :
    ∃ isFinal, Image.isFinal c = .ok isFinal := by
  obtain ⟨ms, rfl, himage⟩ := memberFits_iff.mp ((Bool.and_eq_true _ _).mp h).2
  have hnumber : ((ms.lookup "image").getD .null).number? = none := by
    cases hfound : ms.lookup "image" with
    | none => rfl
    | some v =>
      rcases orNull_iff.mp (himage v hfound) with rfl | htext
      · rfl
      · obtain ⟨s, rfl⟩ := isText_iff.mp htext
        rfl
  rw [Image.isFinal, read_obj, ok_bind]
  exact Image.contains_of_number?_eq_none hnumber _

theorem lookUp_ends (operatorNamespace text : String) :
    Succeeds (fun _ => True) (Image.lookUp operatorNamespace (.str text)) := by
  unfold Image.lookUp
  rw [asText, Action.liftM_ok_seq]
  refine .andThen (.liftM_trouble (fun _ _ => trivial) fun t ht => ?_) fun selection => ?_
  · unfold Image.Selection.ofText at ht
    split at ht <;> cases ht
    rfl
  · have hlist : Succeeds (fun d => isListOf isStream d = true)
        (Action.list "ImageStream" operatorNamespace) :=
      .perform rfl (fun d hd => hd rfl) fun _ => id
    refine hlist.seq fun streams h => ?_
    obtain ⟨ds, rfl, hall⟩ := isListOf_iff.mp h
    rw [elements, Action.liftM_ok_seq]
    obtain ⟨found, hfound⟩ := Image.exists_find? selection.name selection.tag hall
    exact .liftM_fault ⟨found, hfound, trivial⟩

/-- The image that was picked is put in, or there is a failure. -/
theorem resolve_ends (h : Edited isContainerWithImage raw nb) (operatorNamespace : String) :
    Succeeds (Edited isContainer raw) (Image.resolve operatorNamespace nb) := by
  obtain ⟨selection, hselection, hshape⟩ := h.described.annotationValue AnnotationKey.imageSelection
  obtain ⟨name, ns, hplaced⟩ := h.placed
  obtain ⟨nb₀, ps, hopens, hps⟩ := h.opens
  unfold Image.resolve
  rw [hselection, Action.liftM_ok_seq]
  split
  · exact .pure (h.mono isContainer_of_isContainerWithImage)
  next hpicked =>
  obtain ⟨text, rfl⟩ := hshape.resolve_left hpicked
  have hps' := isPodSpec_mono isContainer_of_isContainerWithImage hps
  have hleft : Edited isContainer raw nb₀ :=
    h.replace hopens (podSpecReplaced_self hopens.hasPodSpec) hps'
  obtain ⟨found, hfound⟩ := exists_primaryIn? name isObj_of_isContainer hps'
  rw [hopens.primaryIndex? (name_of_placed hplaced), hfound, Action.liftM_ok_seq, hopens.ensure,
    Action.liftM_ok_seq]
  cases found with
  | none => exact .pure hleft
  | some i =>
    obtain ⟨cs, c, hprimary⟩ := primary_of_primaryIn? hfound
    have hc : isContainerWithImage c = true :=
      forall_of_mayList (isPodSpec_iff.mp hps).1 hprimary.containers c
        (List.mem_of_getElem? hprimary.there)
    obtain ⟨isFinal, hfinal⟩ := exists_isFinal hc
    change Succeeds _ (pickImage operatorNamespace (.str text) i nb₀)
    rw [pickImage_eq (container_eq hopens.hasPodSpec hprimary), hfinal, Action.liftM_ok_seq]
    split
    · exact .pure hleft
    refine (lookUp_ends operatorNamespace text).andThen fun reference? => ?_
    cases reference? with
    | none => exact .pure hleft
    | some reference =>
      obtain ⟨c', hput, hc'⟩ := exists_putImage reference (.str text)
        (isContainer_of_isContainerWithImage c hc)
      obtain ⟨nb', hreplaced⟩ := hopens.hasPodSpec.replace
        (.obj (setMember "containers" (.arr (cs.set i c')) ps))
      refine .liftM_fault ⟨nb', ?_, h.replace hopens hreplaced (isPodSpec_set
        isContainer_of_isContainerWithImage hps hprimary.containers hc')⟩
      exact (modifyContainer_eq_ok_iff hopens.hasPodSpec hprimary).mpr ⟨c', hput, hreplaced⟩

theorem mount_ends (h : Edited isContainer raw nb) :
    Succeeds (Edited isContainer raw) (liftM (TrustBundle.mount nb)) := by
  obtain ⟨name, ns, hplaced⟩ := h.placed
  obtain ⟨nb₀, ps, hopens, hps⟩ := h.opens
  have hname := name_of_placed hplaced
  obtain ⟨found, hfound⟩ := exists_primaryIn? name isObj_of_isContainer hps
  have hindex := (hopens.primaryIndex? hname).trans hfound
  cases found with
  | none =>
    refine .liftM_trouble (fun v hv => ?_) fun t ht => ?_
    · obtain ⟨i, hi, -⟩ := bind_eq_ok_iff.mp hv
      cases hindex.symm.trans (primaryIndex_eq_ok_iff.mp hi)
    · rw [TrustBundle.mount, primaryIndex, hindex, hname] at ht
      cases ht
      rfl
  | some i =>
    obtain ⟨cs, c, hprimary⟩ := primary_of_primaryIn? hfound
    obtain ⟨hcontainers, hvolumes⟩ := isPodSpec_iff.mp hps
    obtain ⟨c', hmount, hc'⟩ := exists_mountInContainer (forall_of_mayList hcontainers
      hprimary.containers c (List.mem_of_getElem? hprimary.there))
    have hvolume : ∀ e ∈ [TrustBundle.volume], isEntry e = true := by decide
    obtain ⟨volumes, hgains, hentries⟩ := exists_gains hvolumes hvolume
    have hlookup : (setMember "volumes" (.arr volumes.toList) ps).lookup "containers" =
        ps.lookup "containers" := by
      rw [lookup_setMember, if_neg (by decide)]
    have hps' : isPodSpec isContainer
        (.obj (setMember "volumes" (.arr volumes.toList) ps)) = true :=
      isPodSpec_iff.mpr ⟨by rwa [mayList_setMember_ne (by decide)], mayList_setMember hentries⟩
    obtain ⟨nb', hreplaced⟩ := hopens.hasPodSpec.replace (.obj (setMember "containers"
      (.arr (cs.set i c')) (setMember "volumes" (.arr volumes.toList) ps)))
    have hmounted : TrustBundle.mount nb = .ok nb' := (mount_eq_ok_iff hname hopens).mpr
      ⟨volumes, _, hgains, ⟨cs, i, c, c', hprimary.of_lookup hlookup, hmount, rfl⟩, hreplaced⟩
    rw [hmounted]
    exact h.replace hopens hreplaced
      (isPodSpec_set (fun _ => id) hps' (hprimary.of_lookup hlookup).containers hc')

theorem mountBundle_ends (h : Edited isContainer raw nb) :
    Succeeds (Edited isContainer raw) (mountBundle nb) := by
  obtain ⟨name, ns, hplaced⟩ := h.placed
  have hexists : ∀ a, Succeeds (fun _ => True) (Action.exists? a) := fun a => .exists? fun _ => id
  have hthere : Succeeds (fun _ => True) (bundleIsThere ns) := by
    unfold bundleIsThere
    refine (hexists _).andThen fun isProvided => ?_
    split
    · exact .pure trivial
    · exact hexists _
  rw [mountBundle_eq, namespace_of_placed hplaced, Action.liftM_ok_seq]
  refine hthere.andThen fun isThere => ?_
  split
  · exact mount_ends h
  · exact .pure h

theorem isEntry_volumes (name : Doc) : ∀ e ∈ Sidecar.volumes name, isEntry e = true := by
  intro e he
  simp only [Sidecar.volumes, List.mem_cons, List.not_mem_nil, or_false] at he
  rcases he with rfl | rfl <;> rfl

/-- The sign-in proxy can be put in. -/
theorem exists_addSidecar (h : Edited isContainer raw nb) :
    ∃ edited?, addSidecar settings nb = .ok edited? ∧
      ∀ edited, edited? = some edited → Edited isEntry raw edited := by
  obtain ⟨name, ns, hplaced⟩ := h.placed
  obtain ⟨asksForSignIn, hsignIn⟩ := h.described.flag AnnotationKey.injectOAuth
  obtain ⟨asksForMesh, hmesh⟩ := h.described.flag AnnotationKey.serviceMesh
  have hentry : Edited isEntry raw nb := h.mono fun c hc => (isContainer_iff.mp hc).1.1
  rw [addSidecar, oauthEnabled, hsignIn, ok_bind]
  cases asksForSignIn with
  | false => exact ⟨some nb, rfl, by rintro _ ⟨⟩; exact hentry⟩
  | true =>
    rw [Bool.not_true, if_neg (by decide), meshEnabled, hmesh, ok_bind]
    cases asksForMesh with
    | true => exact ⟨none, rfl, fun _ hnone => by cases hnone⟩
    | false =>
      obtain ⟨nb₀, ps, hopens, hps⟩ := hentry.opens
      obtain ⟨c, hc⟩ : ∃ c, Sidecar.container nb₀ settings.proxyImage = .ok c := by
        obtain ⟨url, hurl, -⟩ := (h.described.of_sameBut hopens.sameBut).annotationValue
          AnnotationKey.logoutUrl
        rw [Sidecar.container, name_of_placed (hplaced.of_sameBut hopens.sameBut), hurl]
        exact ⟨_, rfl⟩
      obtain ⟨hcontainers, hvolumes⟩ := isPodSpec_iff.mp hps
      have hc' : ∀ e ∈ [c], isEntry e = true :=
        List.forall_mem_singleton.mpr (isEntry_iff.mpr ⟨_, require_container hc⟩)
      obtain ⟨containers, hgains, hall⟩ := exists_gains hcontainers hc'
      obtain ⟨volumes, hgains', hall'⟩ := exists_gains hvolumes (isEntry_volumes name)
      obtain ⟨nb', hreplaced⟩ := hopens.hasPodSpec.replace
        (.obj (Plan.withSidecar name containers volumes ps))
      have hinject := (inject_eq_ok_iff (name_of_placed hplaced) hopens).mpr
        ⟨c, containers, volumes, hc, hgains, hgains', hreplaced⟩
      refine ⟨some nb', by rw [if_neg (by decide), hinject]; rfl, ?_⟩
      rintro _ ⟨⟩
      refine hentry.replace hopens hreplaced (isPodSpec_iff.mpr ⟨?_, ?_⟩)
      · exact mayList_obj.mpr ⟨_, .inl (Plan.lookup_withSidecar_containers ..), hall⟩
      · exact mayList_obj.mpr ⟨_, .inl (Plan.lookup_withSidecar_volumes ..), hall'⟩

/-- **The edits of a notebook of the right shape succeed, or end in a failure.** -/
theorem edit_ends (h : Edited isContainerWithImage raw nb) :
    Succeeds (fun edited? => ∀ edited, edited? = some edited → Edited isEntry raw edited)
      (edit settings operation nb) := by
  have hrest : ∀ nb₁, Edited isContainerWithImage raw nb₁ →
      Succeeds (fun edited? => ∀ edited, edited? = some edited → Edited isEntry raw edited)
        (if writes operation then
          editContainers settings nb₁ >>= fun nb₂ => liftM (addSidecar settings nb₂)
        else liftM (addSidecar settings nb₁)) := fun nb₁ h₁ => by
    split
    · have hcontainers : Succeeds (Edited isContainer raw) (editContainers settings nb₁) :=
        (resolve_ends h₁ settings.ns).seq fun nb₂ h₂ => mountBundle_ends h₂
      exact hcontainers.seq fun nb₂ h₂ => .liftM_fault (exists_addSidecar h₂)
    · exact .liftM_fault (exists_addSidecar (h₁.mono isContainer_of_isContainerWithImage))
  unfold edit
  simp only [pure_bind]
  split
  · exact Action.Ends.seq hrest (.liftM_fault (h.annotate _ _))
  · exact hrest nb h

end Admission

end Workbench
