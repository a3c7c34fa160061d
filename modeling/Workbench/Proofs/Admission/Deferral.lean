import Workbench.Proofs.Admission.Reinvocation
import Workbench.Proofs.Metadata

/-!
# Edits that wait are made at the next restart

The edits of a running notebook wait until its user stops it or has it restarted. They are made then,
as if the user had done so in the first place.

* `Admission.withNamespace`: the metadata of a notebook whose namespace is filled in; it is filled in
  before or after an annotation is set (`same_withNamespace`);
* `Admission.stillKeys`: the annotations of a notebook that stands still or restarts;
* `Admission.GoesThrough`, `Admission.HoldsBack`: requests whose edits are made, and requests whose
  edits wait;
* `Admission.goesThrough_of_still`: the edits of a notebook that stands still are made;
* `Admission.waits_of_note`: a note on the notebook that was let in says that its edits wait;
* **`Admission.handle_deferred_restarts`**: edits that waited are the ones that are made.
-/

namespace Workbench.Admission

open Doc Notebook

variable {settings : Settings} {ns ns' d e : Doc} {nb nb' filled edited submitted waiting : Notebook}
  {m as : List Member} {key : String} {plan : Plan} {σ : Type} {h : Host σ} {s s' : σ}
  {request : Doc}

/-! ## Namespaces -/

/-- The metadata with a namespace: `ns` when it has none. -/
def withNamespace (ns : Doc) (m : List Member) : List Member :=
  if ((m.lookup "namespace").getD .null).truthy then m else setMember "namespace" ns m

theorem fillNamespace_eq_ok_iff (hm : nb.require "metadata" = .ok (.obj m)) :
    fillNamespace ns nb = .ok nb' ↔ MetadataReplaced nb nb' m (withNamespace ns m) := by
  obtain ⟨nb'', hreplaced⟩ := exists_metadataReplaced hm (withNamespace ns m)
  have hfilled : fillNamespace ns nb = .ok nb'' := by
    obtain ⟨ms, rfl, hms, rfl⟩ := hreplaced
    rw [fillNamespace, modify_obj hms, read_obj, ok_bind, withNamespace]
    split <;> rfl
  rw [hfilled, Except.ok.injEq]
  constructor
  · rintro rfl
    exact hreplaced
  · exact fun h => h.unique hreplaced

theorem require_of_fillNamespace (h : fillNamespace ns nb = .ok nb') :
    ∃ m, nb.require "metadata" = .ok (.obj m) := by
  obtain ⟨_, _, hm, hedit, -⟩ := require_of_modify h
  obtain ⟨_, hread, -⟩ := bind_eq_ok_iff.mp hedit
  obtain ⟨m, rfl, -⟩ := read_eq_ok_iff.mp hread
  exact ⟨m, hm⟩

theorem withNamespace_setMember : withNamespace ns (setMember "annotations" d m) =
    if ((m.lookup "namespace").getD .null).truthy then setMember "annotations" d m
    else setMember "namespace" ns (setMember "annotations" d m) := by
  have hlookup : (setMember "annotations" d m).lookup "namespace" = m.lookup "namespace" := by
    rw [lookup_setMember, if_neg (by decide)]
  rw [withNamespace, hlookup]

theorem lookup_withNamespace_setMember {k : String} (hk : k ≠ "annotations") :
    (withNamespace ns (setMember "annotations" d m)).lookup k = (withNamespace ns m).lookup k := by
  rw [withNamespace_setMember, withNamespace]
  split_ifs
  · rw [lookup_setMember, if_neg hk]
  · rw [lookup_setMember, lookup_setMember, lookup_setMember, if_neg hk]

theorem lookup_withNamespace {k : String} (hk : k ≠ "namespace") :
    (withNamespace ns m).lookup k = m.lookup k := by
  unfold withNamespace
  split_ifs
  · rfl
  · rw [lookup_setMember, if_neg hk]

theorem annotationsAre_withNamespace : AnnotationsAre (withNamespace ns m) as ↔ AnnotationsAre m as := by
  rw [AnnotationsAre, AnnotationsAre, lookup_withNamespace (by decide)]

theorem setMember_withNamespace :
    setMember "annotations" d (withNamespace ns (setMember "annotations" e m)) =
      withNamespace ns (setMember "annotations" d m) := by
  rw [withNamespace_setMember, withNamespace_setMember]
  split_ifs
  · rw [setMember_setMember]
  · rw [setMember_comm (by decide) _ _ (by rw [lookup_setMember_self, Option.isSome_some]),
      setMember_setMember]

/-- The namespace is filled in before annotations are set, or after. -/
theorem same_withNamespace : (obj (setMember "annotations" d (withNamespace ns m))).same
    (obj (withNamespace ns (setMember "annotations" d m))) := by
  rw [withNamespace_setMember, withNamespace]
  split_ifs
  · exact same_self _
  · exact same_setMember_comm (by decide) _ _ _

/-! ## Notebooks that stand still -/

/-- The annotations of a notebook that stands still, or restarts anyway. -/
def stillKeys : List String := [AnnotationKey.stopped, AnnotationKey.restart]

theorem hasAnnotation_of_lookup (hm : nb.require "metadata" = .ok (.obj m))
    (ha : m.lookup "annotations" = some (.obj as)) :
    nb.hasAnnotation key = .ok (as.lookup key).isSome :=
  hasAnnotation_of_require hm (require_eq_ok_iff.mpr ⟨m, rfl, ha⟩)

theorem isStill_of_key (hm : nb.require "metadata" = .ok (.obj m))
    (ha : m.lookup "annotations" = some (.obj as)) (hkey : key ∈ stillKeys)
    (hthere : (as.lookup key).isSome) : RestartGuard.isStill nb = .ok true := by
  rw [RestartGuard.isStill, hasAnnotation_of_lookup hm ha, hasAnnotation_of_lookup hm ha, ok_bind]
  rcases List.mem_pair.mp hkey with rfl | rfl
  · rw [hthere]
    rfl
  · rw [hthere]
    split <;> rfl

theorem settle_of_still (old submitted : Notebook) (hm : edited.require "metadata" = .ok (.obj m))
    (ha : m.lookup "annotations" = some (.obj as)) (hstill : RestartGuard.isStill edited = .ok true) :
    ∃ mutated, settle RestartGuard.updateOperation old submitted edited = .ok mutated ∧
      MetadataReplaced edited mutated m
        (setMember "annotations" (.obj (dropMember AnnotationKey.updatePending as)) m) := by
  have hdecide : RestartGuard.decide RestartGuard.updateOperation old submitted edited =
      .ok .allow := by
    rw [RestartGuard.decide_eq hm, if_neg (by decide), hstill]
    rfl
  obtain ⟨without, hdrop, hreplaced⟩ := dropAnnotation_eq_ok AnnotationKey.updatePending hm ha
  have hmark : settle RestartGuard.updateOperation old submitted edited = mark .allow edited := by
    rw [settle, hdecide]
    rfl
  rw [hmark, mark, hasAnnotation_of_lookup hm ha, ok_bind]
  cases hnote : as.lookup AnnotationKey.updatePending with
  | some _ => exact ⟨without, hdrop, hreplaced⟩
  | none =>
    refine ⟨edited, rfl, ?_⟩
    obtain ⟨ms, rfl, hms⟩ := require_eq_ok_iff.mp hm
    refine ⟨ms, rfl, hms, ?_⟩
    rw [dropMember_of_lookup hnote, setMember_of_lookup ha, setMember_of_lookup hms]

/-! ## Requests -/

theorem exists_answer {object : Doc} {v : Verdict} (hobject : request.read "object" = .ok object)
    (hrun : (verdict settings request object).run h s = (.ok v, s')) :
    ∃ answer, (handle settings request).run h s = (.ok answer, s') ∧ answer.verdict = v := by
  obtain ⟨ms, rfl, -⟩ := read_eq_ok_iff.mp hobject
  rw [handle_eq hobject]
  exact ⟨_, Action.run_seq_eq_ok_iff.mpr ⟨v, s', hrun, rfl⟩, rfl⟩

theorem run_verdict {object : Doc} {answer : Answer} (hobject : request.read "object" = .ok object)
    (hrun : (handle settings request).run h s = (.ok answer, s')) :
    (verdict settings request object).run h s = (.ok answer.verdict, s') := by
  obtain ⟨ms, rfl, -⟩ := read_eq_ok_iff.mp hobject
  rw [handle_eq hobject] at hrun
  obtain ⟨_, _, hverdict, hend⟩ := Action.run_seq_eq_ok_iff.mp hrun
  cases hend
  exact hverdict

/-- The answer to a request is the notebook `mutated`, which has the pod template `full` and no note
of edits that wait. The cluster stays as it is. -/
structure GoesThrough (settings : Settings) (h : Host σ) (s : σ) (request full : Doc)
    (mutated : Notebook) : Prop where
  run : ∃ answer, (handle settings request).run h s = (.ok answer, s) ∧
    answer.verdict = .admitted mutated ∧ answer.response = .admitted answer.uid answer.patch ∧
    answer.patch = Patch.between answer.submitted mutated
  template : mutated.templateSpec = .ok full
  unmarked : mutated.hasAnnotation AnnotationKey.updatePending = .ok false

/-- The edits of the submitted notebook make the pod template `full`. They wait, and a note on the
notebook `waiting` says what they change. -/
structure HoldsBack (settings : Settings) (h : Host σ) (s : σ) (request full : Doc)
    (submitted waiting : Notebook) : Prop where
  edits : ∃ ns filled edited, request.read "namespace" = .ok ns ∧
    fillNamespace ns submitted = .ok filled ∧
    (edit settings RestartGuard.updateOperation filled).run h s = (.ok (some edited), s) ∧
    edited.templateSpec = .ok full
  waits : ∃ wanted, submitted.templateSpec = .ok wanted ∧ waiting.templateSpec = .ok wanted ∧
    wanted.equivalent full = false ∧
    waiting.annotationValue AnnotationKey.updatePending = .ok (wanted.changeSummary full)

theorem run_edit_update_iff (hfits : plan.Fits settings ns nb) (hholds : plan.Holds settings ns h s) :
    (edit settings RestartGuard.updateOperation nb).run h s = (.ok (some nb'), s') ↔
      s' = s ∧ Reaches plan.Idle plan.Edits nb nb' := by
  rw [edit_eq (by decide), prepare, if_neg (by decide), Action.liftM_ok_seq]
  exact run_editTemplate_iff hfits hholds

/-- **The edits of a notebook that stands still are made.** -/
theorem goesThrough_of_still (request : Doc) {old : Notebook} {ps : List Member}
    (hoperation : request.read "operation" = .ok RestartGuard.updateOperation)
    (hobject : request.read "object" = .ok submitted) (hold : request.read "oldObject" = .ok old)
    (hobj : old.isObj) (hns : request.read "namespace" = .ok ns)
    (hnamed : isNamed submitted = .ok true) (hfilled : fillNamespace ns submitted = .ok filled)
    (hfits : plan.Fits settings ns' filled) (hholds : plan.Holds settings ns' h s)
    (hreaches : Reaches plan.Idle plan.Edits filled edited) (hspec : edited.HasPodSpec (.obj ps))
    (hm : edited.require "metadata" = .ok (.obj m)) (ha : m.lookup "annotations" = some (.obj as))
    (hkey : key ∈ stillKeys) (hthere : (as.lookup key).isSome) :
    ∃ mutated, GoesThrough settings h s request (.obj ps) mutated ∧
      MetadataReplaced edited mutated m
        (setMember "annotations" (.obj (dropMember AnnotationKey.updatePending as)) m) := by
  obtain ⟨mutated, hsettle, hreplaced⟩ := settle_of_still old submitted hm ha
    (isStill_of_key hm ha hkey hthere)
  have hverdict := verdict_admitted_iff.mpr ⟨_, old, ns, filled, edited, hoperation, hnamed, hold,
    fun _ => hobj, hns, hfilled, (run_edit_update_iff hfits hholds).mpr ⟨rfl, hreaches⟩, hsettle⟩
  obtain ⟨answer, hrun, hanswer⟩ := exists_answer hobject hverdict
  refine ⟨mutated, ⟨⟨answer, hrun, hanswer, Answer.response_of_admitted hanswer,
    Answer.patch_of_admitted hanswer⟩, ?_, ?_⟩, hreplaced⟩
  · rw [templateSpec_of_sameBut hreplaced.sameBut, hspec.opens.templateSpec]
  · rw [hasAnnotation_of_lookup hreplaced.require (lookup_setMember_self _ _ _), lookup_dropMember,
      if_pos rfl, Option.isSome_none]

/-- A note on a notebook that was let in says that its edits wait. -/
theorem waits_of_note {old : Notebook} (hmeta : SameBut "metadata" submitted filled)
    (hfits : plan.Fits settings ns filled) (hreaches : Reaches plan.Idle plan.Edits filled edited)
    (hsettle : settle RestartGuard.updateOperation old submitted edited = .ok waiting)
    (hnote : waiting.hasAnnotation AnnotationKey.updatePending = .ok true) :
    ∃ reason held ps ps', Waits plan RestartGuard.updateOperation old filled held reason ps ps' ∧
      held.annotate AnnotationKey.updatePending reason = .ok waiting := by
  obtain ⟨decision, hdecide, hsettle⟩ := bind_eq_ok_iff.mp hsettle
  obtain ⟨held, happly, hmark⟩ := bind_eq_ok_iff.mp hsettle
  cases decision with
  | allow =>
    -- Edits that are made leave no note.
    cases happly
    have hspec := hreaches.sameBut hfits.placed.isObj
    cases (mark_allow hspec.isObj hmark).2.symm.trans hnote
  | deferred reason =>
    have hprepare : prepare RestartGuard.updateOperation filled = .ok filled := by
      rw [prepare, if_neg (by decide)]
    obtain ⟨ps, ps', hwaits⟩ := waits_of_deferred hprepare hmeta hfits hreaches hdecide happly
    exact ⟨reason, held, ps, ps', hwaits, hmark⟩

/-! ## The next restart -/

theorem Waits.not_equivalent {operation : Doc} {old start held : Notebook} {reason : String}
    {ps ps' : List Member} (hwaits : Waits plan operation old start held reason ps ps') :
    (obj ps).equivalent (.obj ps') = false := by
  obtain ⟨before, -, hsame, hdiffer⟩ := hwaits.differ
  rw [equivalent, beq_eq_false_iff_ne] at hdiffer ⊢
  rw [equivalent, beq_iff_eq] at hsame
  exact hsame ▸ hdiffer

theorem dropMember_note (hkey : key ∈ stillKeys) (v w : Doc) :
    dropMember AnnotationKey.updatePending
        (setMember key v (setMember AnnotationKey.updatePending w as)) =
      dropMember AnnotationKey.updatePending (setMember key v as) := by
  have hne : AnnotationKey.updatePending ≠ key := by
    rcases List.mem_pair.mp hkey with rfl | rfl <;> decide
  rw [dropMember_setMember hne, dropMember_setMember_self, dropMember_setMember hne]

section Restart

variable {old held : Notebook} {reason : String} {ps ps' : List Member}

theorem goesThrough_later (value : String)
    (hoperation : request.read "operation" = .ok RestartGuard.updateOperation)
    (hns : request.read "namespace" = .ok ns) (hkey : key ∈ stillKeys)
    (hname : plan.name.truthy = true) (hns' : ns'.truthy = true ∨ ns' = ns)
    (hfits : plan.Fits settings ns' filled) (hholds : plan.Holds settings ns' h s)
    (hwaits : Waits plan RestartGuard.updateOperation old filled held reason ps ps')
    (hnote : held.annotate AnnotationKey.updatePending reason = .ok waiting)
    (hwaiting : MetadataReplaced held waiting m
      (setMember "annotations" (.obj (setMember AnnotationKey.updatePending (.str reason) as)) m))
    (hreplaced : PodSpecReplaced held edited (.obj ps) (.obj ps')) :
    ∃ later again mutated, waiting.annotate key value = .ok later ∧
      (request.put "oldObject" waiting >>= fun d => d.put "object" later) = .ok again ∧
      GoesThrough settings h s again (.obj ps') mutated ∧
      MetadataReplaced edited mutated m (setMember "annotations"
        (.obj (dropMember AnnotationKey.updatePending (setMember key (.str value) as))) m) := by
  obtain ⟨later, hlater⟩ := exists_metadataReplaced hwaiting.require
    (setMember "annotations" (.obj (setMember key (.str value)
      (setMember AnnotationKey.updatePending (.str reason) as))) (setMember "annotations"
        (.obj (setMember AnnotationKey.updatePending (.str reason) as)) m))
  have hannotate : waiting.annotate key value = .ok later :=
    (annotate_eq_ok_iff hwaiting.require).mpr ⟨_, .inl (lookup_setMember_self _ _ _), hlater⟩
  have hfits' : plan.Fits settings ns' later := by
    have hkey' : key ∉ Plan.annotationKeys := by
      rcases List.mem_pair.mp hkey with rfl | rfl <;> decide
    have hfits₁ := (hfits.of_sameBut hwaits.sameBut).of_note (by decide)
      (sameButAnnotation_annotate hnote)
    exact hfits₁.of_note hkey' (sameButAnnotation_annotate hannotate)
  have hall := hwaiting.trans hlater
  rw [setMember_setMember] at hall
  obtain ⟨edited', hedited, hreplaced'⟩ := hall.podSpec hreplaced
  have hthere := hwaits.hasPodSpec.of_sameBut hall.sameBut
  obtain ⟨ms, rfl, -⟩ := read_eq_ok_iff.mp hns
  have hread : ∀ {k : String} {d : Doc}, k ≠ "object" → k ≠ "oldObject" →
      (Doc.obj ms).read k = .ok d → (Doc.obj (setMember "object" later
        (setMember "oldObject" waiting ms))).read k = .ok d := fun hobject hold hd => by
    rw [read_obj, lookup_setMember, if_neg hobject, lookup_setMember, if_neg hold, ← read_obj, hd]
  have hobj : waiting.isObj := hwaiting.sameBut.isObj
  obtain ⟨mutated, hthrough, hmutated⟩ := goesThrough_of_still
    (.obj (setMember "object" later (setMember "oldObject" waiting ms)))
    (hread (by decide) (by decide) hoperation)
    (by rw [read_obj, lookup_setMember_self, Option.getD_some])
    (by rw [read_obj, lookup_setMember, if_neg (by decide), lookup_setMember_self, Option.getD_some])
    hobj (hread (by decide) (by decide) hns) (isNamed_of_placed hfits'.placed hname)
    (fillNamespace_of_placed hfits'.placed hns') hfits' hholds
    (.edited hwaits.busy hthere.opens hwaits.edits hreplaced') hreplaced'.hasPodSpec hedited.require
    (lookup_setMember_self _ _ _) hkey (by rw [lookup_setMember_self, Option.isSome_some])
  have hlast := hedited.trans hmutated
  rw [setMember_setMember, dropMember_note hkey] at hlast
  exact ⟨later, _, mutated, hannotate, rfl, hthrough, hlast⟩

theorem goesThrough_direct (value : String)
    (hoperation : request.read "operation" = .ok RestartGuard.updateOperation)
    (hold : request.read "oldObject" = .ok old) (hobj : old.isObj)
    (hns : request.read "namespace" = .ok ns) (hkey : key ∈ stillKeys)
    (hname : plan.name.truthy = true) (hm : submitted.require "metadata" = .ok (.obj m))
    (has : AnnotationsAre m as)
    (hfilled : MetadataReplaced submitted filled m (withNamespace ns m))
    (hfits : plan.Fits settings ns' filled) (hholds : plan.Holds settings ns' h s)
    (hwaits : Waits plan RestartGuard.updateOperation old filled held reason ps ps')
    (hreplaced : PodSpecReplaced held edited (.obj ps) (.obj ps')) :
    ∃ direct again mutated, submitted.annotate key value = .ok direct ∧
      request.put "object" direct = .ok again ∧
      GoesThrough settings h s again (.obj ps') mutated ∧
      MetadataReplaced edited mutated (withNamespace ns m) (withNamespace ns
        (setMember "annotations"
          (.obj (dropMember AnnotationKey.updatePending (setMember key (.str value) as))) m)) := by
  obtain ⟨direct, hdirect⟩ := exists_metadataReplaced hm
    (setMember "annotations" (.obj (setMember key (.str value) as)) m)
  have hannotate : submitted.annotate key value = .ok direct :=
    (annotate_eq_ok_iff hm).mpr ⟨as, has, hdirect⟩
  obtain ⟨start, hstart⟩ := exists_metadataReplaced hdirect.require
    (withNamespace ns (setMember "annotations" (.obj (setMember key (.str value) as)) m))
  have hfill := (fillNamespace_eq_ok_iff hdirect.require).mpr hstart
  have hfill₀ := (fillNamespace_eq_ok_iff hm).mpr hfilled
  have hacross := hfilled.between (hdirect.trans hstart)
  obtain ⟨m₀, hm₀, hlookup, hlookupNs⟩ := hfits.placed
  cases hm₀.symm.trans hfilled.require
  have hfits' : plan.Fits settings ns' start := by
    refine hfits.congr ⟨_, hstart.require, ?_, ?_⟩ fun k hk => ?_
    · rw [lookup_withNamespace_setMember (by decide), hlookup]
    · rw [lookup_withNamespace_setMember (by decide), hlookupNs]
    · have hne : k ≠ key := by
        rintro rfl
        rcases List.mem_pair.mp hkey with rfl | rfl <;> exact absurd hk (by decide)
      rw [annotationValue, annotations_fillNamespace hfill, ← annotationValue,
        (sameButAnnotation_annotate hannotate).annotationValue hne, annotationValue,
        ← annotations_fillNamespace hfill₀, annotationValue]
  obtain ⟨held', hheld, hopens⟩ := hacross.opens hwaits.opens
  obtain ⟨edited', hedited, hreplaced'⟩ := hheld.podSpec hreplaced
  rw [lookup_withNamespace (by decide)] at hlookup
  have hnamed : isNamed direct = .ok true :=
    isNamed_of_require hdirect.require (by rw [lookup_setMember, if_neg (by decide), hlookup]) hname
  obtain ⟨ms, rfl, -⟩ := read_eq_ok_iff.mp hns
  have hread : ∀ {k : String} {d : Doc}, k ≠ "object" → (Doc.obj ms).read k = .ok d →
      (Doc.obj (setMember "object" direct ms)).read k = .ok d := fun hobject hd => by
    rw [read_obj, lookup_setMember, if_neg hobject, ← read_obj, hd]
  obtain ⟨mutated, hthrough, hmutated⟩ := goesThrough_of_still
    (.obj (setMember "object" direct ms)) (hread (by decide) hoperation)
    (by rw [read_obj, lookup_setMember_self, Option.getD_some]) (hread (by decide) hold) hobj
    (hread (by decide) hns) hnamed hfill hfits' hholds
    (.edited hwaits.busy hopens hwaits.edits hreplaced') hreplaced'.hasPodSpec hedited.require
    (by rw [lookup_withNamespace (by decide), lookup_setMember_self]) hkey
    (by rw [lookup_setMember_self, Option.isSome_some])
  have hlast := hedited.trans hmutated
  rw [setMember_withNamespace] at hlast
  exact ⟨direct, _, mutated, hannotate, rfl, hthrough, hlast⟩

end Restart

/-- **Edits that wait are not lost.** When an update is answered with a note that edits wait, the same
edits are made in two ways. The notebook that was let in may be stopped or restarted later, or the
submitted one in the first place. Both requests are answered with the same notebook, up to the order of
members. It has the pod template that was held back, and no note. -/
theorem handle_deferred_restarts {answer : Answer} (value : String) (hsteady : h.Steady s)
    (hoperation : request.read "operation" = .ok RestartGuard.updateOperation)
    (hobject : request.read "object" = .ok submitted)
    (hrun : (handle settings request).run h s = (.ok answer, s'))
    (hanswer : answer.verdict = .admitted waiting)
    (hdeferred : waiting.hasAnnotation AnnotationKey.updatePending = .ok true)
    (hkey : key ∈ stillKeys) :
    ∃ full later laterRequest direct directRequest mutated mutated',
      s' = s ∧ HoldsBack settings h s request full submitted waiting ∧
      waiting.annotate key value = .ok later ∧
      (request.put "oldObject" waiting >>= fun d => d.put "object" later) = .ok laterRequest ∧
      submitted.annotate key value = .ok direct ∧
      request.put "object" direct = .ok directRequest ∧
      GoesThrough settings h s laterRequest full mutated ∧
      GoesThrough settings h s directRequest full mutated' ∧ mutated.same mutated' = true := by
  have hverdict := run_verdict hobject hrun
  rw [hanswer] at hverdict
  obtain ⟨operation, old, ns, filled, edited₀, hoperation', hnamed, hold, hguard, hns, hfilled, hedit,
    hsettle⟩ := verdict_admitted_iff.mp hverdict
  cases hoperation.symm.trans hoperation'
  obtain ⟨name, ns', hplaced, -, hname, hns'⟩ := placed_of_fillNamespace hnamed hfilled
  have hrun' : (editTemplate settings filled).run h s = (.ok (some edited₀), s') := by
    rw [edit_eq (by decide), prepare, if_neg (by decide), Action.liftM_ok_seq] at hedit
    exact hedit
  obtain ⟨plan, rfl, hfits, hholds⟩ := exists_plan hplaced hsteady hrun'
  obtain ⟨rfl, hreaches⟩ := (run_edit_update_iff hfits hholds).mp hedit
  obtain ⟨reason, held, ps, ps', hwaits, hnote⟩ :=
    waits_of_note (sameBut_fillNamespace hfilled) hfits hreaches hsettle hdeferred
  obtain ⟨edited, hreplaced⟩ := hwaits.hasPodSpec.replace (.obj ps')
  have hedits : (edit settings RestartGuard.updateOperation filled).run h s' =
      (.ok (some edited), s') :=
    (run_edit_update_iff hfits hholds).mpr
      ⟨rfl, .edited hwaits.busy hwaits.opens hwaits.edits hreplaced⟩
  -- The two requests differ from the first in the metadata of their notebooks alone.
  obtain ⟨m, hm⟩ := require_of_fillNamespace hfilled
  have hmeta := (fillNamespace_eq_ok_iff hm).mp hfilled
  have hheld : held.require "metadata" = .ok (.obj (withNamespace ns m)) :=
    (hwaits.sameBut.require (by decide)).trans hmeta.require
  obtain ⟨as, has, hwaiting⟩ := (annotate_eq_ok_iff hheld).mp hnote
  obtain ⟨later, laterRequest, mutated, hlater, hlaterRequest, hthrough, hmutated⟩ :=
    goesThrough_later value hoperation hns hkey hname hns' hfits hholds hwaits hnote
      hwaiting hreplaced
  obtain ⟨direct, directRequest, mutated', hdirect, hdirectRequest, hthrough', hmutated'⟩ :=
    goesThrough_direct value hoperation hold (hguard rfl) hns hkey hname hm
      (annotationsAre_withNamespace.mp has) hmeta hfits hholds hwaits hreplaced
  have hwaitingTemplate : waiting.templateSpec = .ok (.obj ps) := by
    rw [templateSpec_of_sameBut hwaiting.sameBut, hwaits.hasPodSpec.opens.templateSpec]
  have hsubmittedTemplate : submitted.templateSpec = .ok (.obj ps) := by
    rw [← templateSpec_of_sameBut hmeta.sameBut, hwaits.opens.templateSpec]
  have hvalue : waiting.annotationValue AnnotationKey.updatePending =
      .ok (.str ((obj ps).changeSummary (.obj ps'))) := by
    rw [annotationValue_annotate hnote, hwaits.reason_eq]
  exact ⟨.obj ps', later, laterRequest, direct, directRequest, mutated, mutated', rfl,
    ⟨⟨ns, filled, edited, hns, hfilled, hedits, hreplaced.hasPodSpec.opens.templateSpec⟩,
      ⟨_, hsubmittedTemplate, hwaitingTemplate, hwaits.not_equivalent, hvalue⟩⟩,
    hlater, hlaterRequest, hdirect, hdirectRequest, hthrough, hthrough',
    hmutated.same hmutated' same_withNamespace⟩

/-- The second version of an image, which waited, is there after a restart. -/
theorem handle_pickedUpdate_restarts :
    ∃ answer s waiting full later laterRequest direct directRequest mutated mutated',
      (handle {} pickedUpdate).run Memory.host imageCluster = (.ok answer, s) ∧
      answer.verdict = .admitted waiting ∧
      waiting.hasAnnotation AnnotationKey.updatePending = .ok true ∧
      HoldsBack {} Memory.host s pickedUpdate full pickedNotebook waiting ∧
      waiting.annotate AnnotationKey.restart "true" = .ok later ∧
      (pickedUpdate.put "oldObject" waiting >>= fun d => d.put "object" later) = .ok laterRequest ∧
      pickedNotebook.annotate AnnotationKey.restart "true" = .ok direct ∧
      pickedUpdate.put "object" direct = .ok directRequest ∧
      GoesThrough {} Memory.host s laterRequest full mutated ∧
      GoesThrough {} Memory.host s directRequest full mutated' ∧ mutated.same mutated' = true := by
  have hmarked : ((handle {} pickedUpdate).run Memory.host imageCluster).1.map (fun answer =>
      (admitted? answer).map fun waiting => waiting.hasAnnotation AnnotationKey.updatePending) =
        .ok (some (.ok true)) := by decide +kernel
  rcases hrun : (handle {} pickedUpdate).run Memory.host imageCluster with ⟨t | answer, s⟩
  · rw [hrun] at hmarked
    cases hmarked
  rw [hrun] at hmarked
  obtain ⟨uid, submitted, waiting | _ | _⟩ := answer
  · have hnote : waiting.hasAnnotation AnnotationKey.updatePending = .ok true :=
      Option.some.inj (Except.ok.inj hmarked)
    have hobject : pickedUpdate.read "object" = .ok pickedNotebook := rfl
    have hkey : AnnotationKey.restart ∈ stillKeys := by decide
    obtain ⟨full, later, laterRequest, direct, directRequest, mutated, mutated', rfl, hall⟩ :=
      handle_deferred_restarts "true" (Memory.steady imageCluster) rfl hobject hrun rfl
        hnote hkey
    exact ⟨_, _, waiting, full, later, laterRequest, direct, directRequest, mutated, mutated', rfl, rfl,
      hnote, hall⟩
  all_goals cases hmarked

end Workbench.Admission
