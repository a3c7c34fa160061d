import Workbench.Proofs.Admission.Edits
import Workbench.Proofs.Admission.RestartGuard
import Workbench.Proofs.Doc.Patch

/-!
# A notebook that was let in is let in as it is

An admission request may be sent once more with the notebook that came out of it. The operator then
has nothing to change, whether its edits went through or wait.

* `Admission.placed_of_fillNamespace`: the name and the namespace that a notebook has from then on;
* `Admission.prepare`, `Admission.edit_eq`: what is done to a notebook before its pod template is
  edited;
* `RestartGuard.decide_deferred_iff`, `RestartGuard.hold_eq_ok_iff`: when edits wait, and what is held;
* `Admission.edit_again`, `Admission.settle_again`: the second edits and the second decision after
  edits that went through; `Admission.Waits.again`: the same after edits that wait;
* **`Admission.handle_again`**: the second answer.
-/

namespace Workbench

open Doc Notebook

/-! ## The guard -/

namespace RestartGuard

variable {operation : Doc} {old submitted edited held : Notebook} {m : List Member}

theorem decide_eq (hm : edited.require "metadata" = .ok (.obj m)) :
    decide operation old submitted edited =
      if operation = createOperation then .ok .allow
      else isStill edited >>= fun still =>
        if still = true then .ok .allow else compareTemplates old submitted edited := by
  unfold decide
  rw [hm]
  rfl

theorem compareTemplates_deferred_iff {reason : String} :
    compareTemplates old submitted edited = .ok (.deferred reason) ↔ ∃ before wanted after,
      old.templateSpec = .ok before ∧ submitted.templateSpec = .ok wanted ∧
      before.equivalent wanted = true ∧ edited.templateSpec = .ok after ∧
      before.equivalent after = false ∧ reason = wanted.changeSummary after := by
  unfold compareTemplates
  simp only [bind_eq_ok_iff]
  constructor
  · rintro ⟨before, hbefore, wanted, hwanted, h⟩
    split at h
    · cases h
    next hsame =>
    obtain ⟨after, hafter, h⟩ := bind_eq_ok_iff.mp h
    split at h
    · cases h
    next hedits =>
    cases h
    exact ⟨before, wanted, after, hbefore, hwanted, by simpa using hsame, hafter, by simpa using hedits,
      rfl⟩
  · rintro ⟨before, wanted, after, hbefore, hwanted, hsame, hafter, hedits, rfl⟩
    refine ⟨before, hbefore, wanted, hwanted, ?_⟩
    rw [hsame, if_neg (by decide), hafter, ok_bind, hedits]
    rfl

/-- Edits wait when they would restart a running notebook that the update leaves alone. -/
theorem decide_deferred_iff (hm : edited.require "metadata" = .ok (.obj m)) {reason : String} :
    decide operation old submitted edited = .ok (.deferred reason) ↔
      operation ≠ createOperation ∧ isStill edited = .ok false ∧
        compareTemplates old submitted edited = .ok (.deferred reason) := by
  rw [decide_eq hm]
  by_cases hcreate : operation = createOperation
  · simp [hcreate]
  · rw [if_neg hcreate, bind_eq_ok_iff]
    constructor
    · rintro ⟨still, hstill, h⟩
      cases still with
      | true => cases h
      | false => exact ⟨hcreate, hstill, h⟩
    · rintro ⟨-, hstill, h⟩
      exact ⟨false, hstill, h⟩

theorem compareTemplates_self {before after : Doc} (hbefore : old.templateSpec = .ok before)
    (hafter : edited.templateSpec = .ok after) : compareTemplates old edited edited = .ok .allow := by
  unfold compareTemplates
  rw [hbefore, ok_bind, hafter, ok_bind, ok_bind]
  cases hsame : before.equivalent after <;> simp

/-- The template that was submitted is put back. -/
theorem hold_eq_ok_iff {wanted spec : Doc} (hwanted : submitted.templateSpec = .ok wanted)
    (hspec : edited.HasPodSpec spec) :
    hold submitted edited = .ok held ↔ PodSpecReplaced edited held spec wanted := by
  obtain ⟨held', hreplaced⟩ := hspec.replace wanted
  have hheld : hold submitted edited = .ok held' := by
    obtain ⟨ms, s, t, rfl, hs, ht, -, rfl⟩ := hreplaced
    rw [hold, hwanted, ok_bind, modifyUnder, modify_obj hs, modifyUnder, modify_obj ht, modifyUnder]
    rfl
  rw [hheld, Except.ok.injEq]
  constructor
  · rintro rfl
    exact hreplaced
  · exact fun h => h.unique hreplaced

end RestartGuard

namespace Admission

variable {settings : Settings} {operation ns name : Doc}
  {nb old filled start edited mutated object : Notebook}

/-! ## Names -/

/-- The notebook has a name and a namespace from then on. -/
theorem placed_of_fillNamespace (hnamed : isNamed object = .ok true)
    (hfilled : fillNamespace ns object = .ok filled) : ∃ name ns', filled.Placed name ns' ∧
      object.name = .ok name ∧ name.truthy = true ∧ (ns'.truthy = true ∨ ns' = ns) := by
  obtain ⟨ms, metadata, metadata', rfl, hm, hedit, rfl⟩ := modify_eq_ok_iff.mp hfilled
  obtain ⟨found, hfound, hedit⟩ := bind_eq_ok_iff.mp hedit
  obtain ⟨m, rfl, rfl⟩ := read_eq_ok_iff.mp hfound
  have htruthy : ((m.lookup "name").getD .null).truthy = true := by
    simpa [isNamed, hm, isObj] using hnamed
  have hthere : ∀ {k : String}, ((m.lookup k).getD .null).truthy = true →
      m.lookup k = some ((m.lookup k).getD .null) := fun hk =>
    eq_some_of_getD rfl fun hnull => by simp [hnull, truthy] at hk
  obtain ⟨name, hname⟩ : ∃ name, m.lookup "name" = some name := ⟨_, hthere htruthy⟩
  have hobject : Notebook.name (.obj ms) = .ok name := by
    rw [Notebook.name, require_obj, hm, ok_bind, require_obj, hname]
  rw [hname, Option.getD_some] at htruthy
  split at hedit
  · next hns =>
    cases hedit
    refine ⟨name, _, ⟨m, ?_, hname, hthere hns⟩, hobject, htruthy, .inl hns⟩
    rw [require_obj, lookup_setMember_self]
  · obtain ⟨_, hm', rfl⟩ := put_eq_ok_iff.mp hedit
    cases hm'
    refine ⟨name, ns, ⟨setMember "namespace" ns m, ?_, ?_, lookup_setMember_self _ _ _⟩, hobject,
      htruthy, .inr rfl⟩
    · rw [require_obj, lookup_setMember_self]
    · rw [lookup_setMember, if_neg (by decide), hname]

theorem isNamed_of_require {m : List Member} (hm : nb.require "metadata" = .ok (.obj m))
    (hlookup : m.lookup "name" = some name) (hname : name.truthy = true) :
    isNamed nb = .ok true := by
  obtain ⟨ms, rfl, hms⟩ := require_eq_ok_iff.mp hm
  simp [isNamed, isObj, hms, hlookup, hname]

theorem isNamed_of_placed (h : nb.Placed name ns) (hname : name.truthy = true) :
    isNamed nb = .ok true := by
  obtain ⟨m, hm, hlookup, -⟩ := h
  exact isNamed_of_require hm hlookup hname

theorem fillNamespace_of_placed {ns' : Doc} (h : nb.Placed name ns')
    (hns : ns'.truthy = true ∨ ns' = ns) : fillNamespace ns nb = .ok nb := by
  obtain ⟨m, hm, -, hlookup⟩ := h
  obtain ⟨ms, rfl, hms⟩ := require_eq_ok_iff.mp hm
  have hput : setMember "namespace" ns' m = m := setMember_of_lookup hlookup
  rw [fillNamespace, modify_obj hms, read_obj, hlookup, Option.getD_some, ok_bind]
  have hsame : (if ns'.truthy = true then pure (Doc.obj m) else (Doc.obj m).put "namespace" ns) =
      (.ok (.obj m) : Except Fault Doc) := by
    split
    · rfl
    · next hfalsy =>
      rw [Doc.put, members, ok_bind, ← hns.resolve_left hfalsy, hput]
      rfl
  rw [hsame, ok_bind, setMember_of_lookup hms]

/-! ## Edits -/

/-- A notebook as it is when its pod template is edited: a new one is held back. -/
def prepare (operation : Doc) (nb : Notebook) : Except Fault Notebook :=
  if operation = RestartGuard.createOperation then holdBack nb else .ok nb

theorem edit_eq (hwrites : writes operation = true) : edit settings operation nb =
    liftM (prepare operation nb) >>= editTemplate settings := by
  unfold edit prepare
  simp only [if_pos hwrites]
  split <;> rfl

theorem sameBut_prepare (hnb : nb.isObj) (h : prepare operation nb = .ok start) :
    SameBut "metadata" nb start := by
  unfold prepare at h
  split at h
  · exact sameBut_annotate h
  · cases h
    exact .refl hnb

theorem placed_prepare (hplaced : nb.Placed name ns) (h : prepare operation nb = .ok start) :
    start.Placed name ns := by
  unfold prepare at h
  split at h
  · exact (sameButAnnotation_annotate h).placed hplaced
  · cases h
    exact hplaced

theorem annotationValue_prepare {key : String} (h : prepare operation nb = .ok start)
    (hkey : key ≠ AnnotationKey.stopped) : start.annotationValue key = nb.annotationValue key := by
  unfold prepare at h
  split at h
  · exact (sameButAnnotation_annotate h).annotationValue hkey
  · cases h
    rfl

theorem prepare_again (h : prepare operation filled = .ok start)
    (hvalue : nb.annotationValue AnnotationKey.stopped =
      start.annotationValue AnnotationKey.stopped) : prepare operation nb = .ok nb := by
  unfold prepare at h ⊢
  split at h
  · next hcreate =>
    rw [if_pos hcreate]
    exact annotate_self (hvalue.trans (annotationValue_annotate h))
  · next hcreate => rw [if_neg hcreate]

/-! ## The second decision -/

theorem sameButAnnotation_mark {decision : RestartGuard.Decision} {key : String} {v : Doc}
    (hvalue : nb.annotationValue key = .ok v) (hnb : nb.isObj) (h : mark decision nb = .ok mutated) :
    SameButAnnotation AnnotationKey.updatePending nb mutated := by
  cases decision with
  | deferred reason => exact sameButAnnotation_annotate h
  | allow =>
    obtain ⟨pending, -, h⟩ := bind_eq_ok_iff.mp h
    split at h
    · exact sameButAnnotation_dropAnnotation h
    · cases h
      obtain ⟨a, ha, hread⟩ := bind_eq_ok_iff.mp hvalue
      obtain ⟨as, rfl, -⟩ := read_eq_ok_iff.mp hread
      exact ⟨.refl hnb, id, _, _, ha, ha, .refl rfl⟩

theorem isStill_congr {nb nb' : Notebook}
    (h : SameButAnnotation AnnotationKey.updatePending nb nb') :
    RestartGuard.isStill nb' = RestartGuard.isStill nb := by
  rw [RestartGuard.isStill, RestartGuard.isStill, h.hasAnnotation (by decide),
    h.hasAnnotation (by decide)]

theorem isStill_of_sameBut {nb nb' : Notebook} (h : SameBut "spec" nb nb') :
    RestartGuard.isStill nb' = RestartGuard.isStill nb := by
  simp only [RestartGuard.isStill, hasAnnotation, annotations_of_sameBut h]

section Again

variable {plan : Plan} {σ : Type} {h : Host σ} {s s' : σ}

/-- The second edits change nothing after edits that went through. -/
theorem edit_again (hwrites : writes operation = true) (hprepare : prepare operation filled = .ok start)
    (hfits : plan.Fits settings ns start) (hholds : plan.Holds settings ns h s)
    (hreaches : Reaches plan.Idle plan.Edits start edited)
    (hagain : ∀ {nb₀ ps ps'}, start.Opens nb₀ ps → plan.Edits ps ps' → plan.Edits ps' ps')
    (hmark : SameButAnnotation AnnotationKey.updatePending edited mutated) :
    (edit settings operation mutated).run h s = (.ok (some mutated), s) := by
  have hspec := hreaches.sameBut hfits.placed.isObj
  have hfits' : plan.Fits settings ns mutated :=
    (hfits.of_sameBut hspec).of_note (by decide) hmark
  have hvalue : mutated.annotationValue AnnotationKey.stopped =
      start.annotationValue AnnotationKey.stopped := by
    rw [hmark.annotationValue (by decide), annotationValue_of_sameBut hspec]
  rw [edit_eq hwrites, prepare_again hprepare hvalue, Action.liftM_ok_seq]
  refine (run_editTemplate_iff hfits' hholds).mpr ⟨rfl, ?_⟩
  cases hreaches with
  | left hidle => exact .left hidle
  | edited hidle hopens hedits hreplaced =>
    have hthere := hreplaced.hasPodSpec.of_sameBut hmark.sameBut
    exact .edited hidle hthere.opens (hagain hopens hedits) (podSpecReplaced_self hthere)

/-- Neither does the second decision. -/
theorem settle_again {decision : RestartGuard.Decision} (hplaced : mutated.Placed name ns)
    (hmark : SameButAnnotation AnnotationKey.updatePending edited mutated)
    (hallow : mark .allow edited = .ok mutated) (hedited : ∃ m, edited.require "metadata" = .ok (.obj m))
    (htemplate : ∀ spec, object.templateSpec = .ok spec → ∃ spec', mutated.templateSpec = .ok spec')
    (hdecide : RestartGuard.decide operation old object edited = .ok decision) :
    settle operation old mutated mutated = .ok mutated := by
  obtain ⟨m, hm, -, -⟩ := hplaced
  obtain ⟨m', hm'⟩ := hedited
  have hagain : RestartGuard.decide operation old mutated mutated = .ok .allow := by
    rw [RestartGuard.decide_eq hm'] at hdecide
    rw [RestartGuard.decide_eq hm, isStill_congr hmark]
    split
    · rfl
    next hcreate =>
    rw [if_neg hcreate] at hdecide
    obtain ⟨still, hstill, hdecide⟩ := bind_eq_ok_iff.mp hdecide
    rw [hstill, ok_bind]
    split
    · rfl
    next hrunning =>
    rw [if_neg hrunning] at hdecide
    obtain ⟨before, hbefore, hdecide⟩ := bind_eq_ok_iff.mp hdecide
    obtain ⟨wanted, hwanted, -⟩ := bind_eq_ok_iff.mp hdecide
    obtain ⟨after, hafter⟩ := htemplate wanted hwanted
    exact RestartGuard.compareTemplates_self hbefore hafter
  have hnote : mutated.hasAnnotation AnnotationKey.updatePending = .ok false :=
    (mark_allow hmark.sameBut.isObj_left hallow).2
  rw [settle, hagain, ok_bind, RestartGuard.apply, pure_eq_ok, ok_bind, mark, hnote]
  rfl

/-- The edits of a running notebook wait. Its pod template has been created, with `ps` for its
specification, of which the edits would make `ps'`. -/
structure Waits (plan : Plan) (operation : Doc) (old start held : Notebook) (reason : String)
    (ps ps' : List Member) : Prop where
  update : operation ≠ RestartGuard.createOperation
  running : RestartGuard.isStill start = .ok false
  busy : ¬plan.Idle
  edits : plan.Edits ps ps'
  opens : start.Opens held ps
  differ : ∃ before, old.templateSpec = .ok before ∧ before.equivalent (.obj ps) = true ∧
    before.equivalent (.obj ps') = false
  reason_eq : reason = (Doc.obj ps).changeSummary (.obj ps')

theorem Waits.sameBut {reason : String} {held : Notebook} {ps ps' : List Member}
    (h : Waits plan operation old start held reason ps ps') : SameBut "spec" start held :=
  h.opens.sameBut

theorem Waits.hasPodSpec {reason : String} {held : Notebook} {ps ps' : List Member}
    (h : Waits plan operation old start held reason ps ps') : held.HasPodSpec (.obj ps) :=
  h.opens.hasPodSpec

theorem waits_of_deferred {reason : String} {held : Notebook}
    (hprepare : prepare operation filled = .ok start) (hmeta : SameBut "metadata" object filled)
    (hfits : plan.Fits settings ns start) (hreaches : Reaches plan.Idle plan.Edits start edited)
    (hdecide : RestartGuard.decide operation old object edited = .ok (.deferred reason))
    (hhold : RestartGuard.hold object edited = .ok held) :
    ∃ ps ps', Waits plan operation old start held reason ps ps' := by
  have hspec := hreaches.sameBut hfits.placed.isObj
  obtain ⟨m, hm, -, -⟩ := hfits.placed.of_sameBut hspec
  obtain ⟨hcreate, hstill, hcompare⟩ := (RestartGuard.decide_deferred_iff hm).mp hdecide
  obtain ⟨before, wanted, after, hbefore, hwanted, hsame, hafter, hdiffer, rfl⟩ :=
    RestartGuard.compareTemplates_deferred_iff.mp hcompare
  obtain rfl : filled = start := by
    rw [prepare, if_neg hcreate] at hprepare
    exact Except.ok.inj hprepare
  have hfilled : filled.templateSpec = .ok wanted := by
    rw [templateSpec_of_sameBut hmeta, hwanted]
  rw [isStill_of_sameBut hspec] at hstill
  cases hreaches with
  | left _ =>
    -- Nothing was edited, so there is nothing that could wait.
    cases hfilled.symm.trans hafter
    cases hsame.symm.trans hdiffer
  | edited hidle hopens hedits hreplaced =>
    cases hopens.templateSpec.symm.trans hfilled
    cases hreplaced.hasPodSpec.opens.templateSpec.symm.trans hafter
    have hback := (RestartGuard.hold_eq_ok_iff hwanted hreplaced.hasPodSpec).mp hhold
    cases (podSpecReplaced_self hopens.hasPodSpec).unique (hreplaced.trans hback)
    exact ⟨_, _, hcreate, hstill, hidle, hedits, hopens,
      ⟨before, hbefore, hsame, hdiffer⟩, rfl⟩

/-- Edits that wait are made and wait again, and nothing changes. -/
theorem Waits.again {reason : String} {held : Notebook} {ps ps' : List Member}
    (hwaits : Waits plan operation old start held reason ps ps') (hwrites : writes operation = true)
    (hfits : plan.Fits settings ns start) (hholds : plan.Holds settings ns h s)
    (hmark : held.annotate AnnotationKey.updatePending reason = .ok mutated) :
    ∃ edited', (edit settings operation mutated).run h s = (.ok (some edited'), s) ∧
      settle operation old mutated edited' = .ok mutated := by
  obtain ⟨before, hbefore, hsame, hdiffer⟩ := hwaits.differ
  have hnote := sameButAnnotation_annotate hmark
  have hfits' : plan.Fits settings ns mutated :=
    (hfits.of_sameBut hwaits.sameBut).of_note (by decide) hnote
  have hthere := hwaits.hasPodSpec.of_sameBut hnote.sameBut
  obtain ⟨edited', hreplaced⟩ := hthere.replace (.obj ps')
  have hspec := hreplaced.sameBut
  obtain ⟨m, hm, -, -⟩ := hfits'.placed.of_sameBut hspec
  have hstill : RestartGuard.isStill edited' = .ok false := by
    rw [isStill_of_sameBut hspec, isStill_congr hnote, isStill_of_sameBut hwaits.sameBut,
      hwaits.running]
  have htemplate := hthere.opens.templateSpec
  have hcompare := RestartGuard.compareTemplates_deferred_iff.mpr ⟨before, _, _, hbefore, htemplate,
    hsame, hreplaced.hasPodSpec.opens.templateSpec, hdiffer, hwaits.reason_eq⟩
  have hdecide := (RestartGuard.decide_deferred_iff hm).mpr ⟨hwaits.update, hstill, hcompare⟩
  have hhold : RestartGuard.hold mutated edited' = .ok mutated :=
    (RestartGuard.hold_eq_ok_iff htemplate hreplaced.hasPodSpec).mpr hreplaced.symm
  refine ⟨edited', ?_, ?_⟩
  · rw [edit_eq hwrites, prepare, if_neg hwaits.update, Action.liftM_ok_seq]
    exact (run_editTemplate_iff hfits' hholds).mpr
      ⟨rfl, .edited hwaits.busy hthere.opens hwaits.edits hreplaced⟩
  · rw [settle, hdecide, ok_bind, RestartGuard.apply, hhold, ok_bind, mark]
    exact annotate_self (annotationValue_annotate hmark)

/-! ## The second answer -/

theorem edits_again_of_object {nb₀ : Notebook} {ps ps' : List Member}
    (hfilled : fillNamespace ns object = .ok filled) (hprepare : prepare operation filled = .ok start)
    {ns' : Doc} (hfits : plan.Fits settings ns' start) (hholds : plan.Holds settings ns' h s)
    (hname : plan.name ≠ .str Sidecar.containerName)
    (hapart : ∀ cs, object.containers = .ok (.arr cs) → NamesDiffer cs)
    (hreference : ∀ selection reference,
      object.annotationValue AnnotationKey.imageSelection = .ok selection →
      ((Image.lookUp settings.ns selection).run h s).1 = .ok (some reference) →
      reference.number? = none)
    (hopens : start.Opens nb₀ ps) (hedits : plan.Edits ps ps') : plan.Edits ps' ps' := by
  have hmeta := sameBut_fillNamespace hfilled
  have hmeta' := hmeta.trans (sameBut_prepare hmeta.isObj hprepare)
  have hselection : object.annotationValue AnnotationKey.imageSelection = .ok plan.selection := by
    rw [← hfits.selection, annotationValue_prepare hprepare (by decide), annotationValue,
      annotationValue, annotations_fillNamespace hfilled]
  refine plan.edits_again (fun reference hfound => ?_) hname (fun cs hcs => hapart cs ?_) hedits
  · exact hreference _ reference hselection (by rw [hholds.found]; exact hfound)
  · rw [containers, ← podSpec_of_sameBut hmeta', ← containersIn_arr hcs, ← hopens.containers,
      containers]

theorem judged_again {ns' : Doc} (hwrites : writes operation = true) (hsteady : h.Steady s)
    (hfilled : fillNamespace ns object = .ok filled) (hplaced : filled.Placed name ns')
    (hname : name ≠ .str Sidecar.containerName)
    (hapart : ∀ cs, object.containers = .ok (.arr cs) → NamesDiffer cs)
    (hreference : ∀ selection reference,
      object.annotationValue AnnotationKey.imageSelection = .ok selection →
      ((Image.lookUp settings.ns selection).run h s).1 = .ok (some reference) →
      reference.number? = none)
    (hedit : (edit settings operation filled).run h s = (.ok (some edited), s'))
    (hsettle : settle operation old object edited = .ok mutated) :
    s' = s ∧ mutated.Placed name ns' ∧ ∃ edited',
      (edit settings operation mutated).run h s = (.ok (some edited'), s) ∧
      settle operation old mutated edited' = .ok mutated := by
  rw [edit_eq hwrites] at hedit
  obtain ⟨start, _, hlift, hrun⟩ := Action.run_seq_eq_ok_iff.mp hedit
  obtain ⟨hprepare, rfl⟩ := Action.run_liftM_fault_eq_ok_iff.mp hlift
  obtain ⟨plan, rfl, hfits, hholds⟩ := exists_plan (placed_prepare hplaced hprepare) hsteady hrun
  obtain ⟨rfl, hreaches⟩ := (run_editTemplate_iff hfits hholds).mp hrun
  have hmeta := sameBut_fillNamespace hfilled
  have hfits' := hfits.of_sameBut (hreaches.sameBut hfits.placed.isObj)
  obtain ⟨decision, hdecide, hsettle⟩ := bind_eq_ok_iff.mp hsettle
  obtain ⟨held, happly, hmark⟩ := bind_eq_ok_iff.mp hsettle
  refine ⟨rfl, ?_⟩
  cases decision with
  | allow =>
    cases happly
    have hnote := sameButAnnotation_mark hfits'.selection hfits'.placed.isObj hmark
    have hplaced' := hnote.placed hfits'.placed
    obtain ⟨m, hm, -, -⟩ := hfits'.placed
    have hedit' := edit_again hwrites hprepare hfits hholds hreaches
      (edits_again_of_object hfilled hprepare hfits hholds hname hapart hreference) hnote
    refine ⟨hplaced', mutated, hedit',
      settle_again hplaced' hnote hmark ⟨m, hm⟩ (fun spec hspec => ?_) hdecide⟩
    rw [templateSpec_of_sameBut hnote.sameBut]
    cases hreaches with
    | left _ =>
      have hmeta' := hmeta.trans (sameBut_prepare hmeta.isObj hprepare)
      exact ⟨spec, by rw [templateSpec_of_sameBut hmeta', hspec]⟩
    | edited _ _ _ hreplaced => exact ⟨_, hreplaced.hasPodSpec.opens.templateSpec⟩
  | deferred reason =>
    obtain ⟨ps, ps', hwaits⟩ := waits_of_deferred hprepare hmeta hfits hreaches hdecide happly
    have hheld := hfits.placed.of_sameBut hwaits.sameBut
    exact ⟨(sameButAnnotation_annotate hmark).placed hheld, hwaits.again hwrites hfits hholds hmark⟩

end Again

theorem handle_eq {ms : List Member} (hobject : (Doc.obj ms).read "object" = .ok object) :
    handle settings (.obj ms) = do
      let verdict ← verdict settings (.obj ms) object
      return { uid := (ms.lookup "uid").getD "", submitted := object, verdict } := by
  unfold handle
  rw [hobject]
  rfl

/-- **A notebook that was let in is let in as it is.** When a request to make or to change a notebook
is answered with a notebook, the same request with that notebook in the place of the submitted one is
answered with it again, and the patch is empty. The containers of the notebook have names of their own,
the notebook is not named like the sign-in proxy, and the image that it picks is no number and no truth
value. -/
theorem handle_again {σ : Type} {h : Host σ} {s s' : σ} {request : Doc} {answer : Answer}
    (hsteady : h.Steady s) (hoperation : request.read "operation" = .ok operation)
    (hwrites : writes operation = true) (hobject : request.read "object" = .ok object)
    (hname : object.name ≠ .ok (.str Sidecar.containerName))
    (hapart : ∀ cs, object.containers = .ok (.arr cs) → NamesDiffer cs)
    (hreference : ∀ selection reference,
      object.annotationValue AnnotationKey.imageSelection = .ok selection →
      ((Image.lookUp settings.ns selection).run h s).1 = .ok (some reference) →
      reference.number? = none)
    (hrun : (handle settings request).run h s = (.ok answer, s'))
    (hanswer : answer.verdict = .admitted mutated) :
    ∃ again answer', request.put "object" mutated = .ok again ∧
      (handle settings again).run h s' = (.ok answer', s') ∧ answer'.response.allowed = true ∧
      answer'.verdict = .admitted mutated ∧
      (mutated.isProper = true → answer'.patch = [] ∧ answer'.response.patch = []) := by
  obtain ⟨ms, rfl, -⟩ := read_eq_ok_iff.mp hobject
  rw [handle_eq hobject] at hrun
  obtain ⟨_, _, hverdict, hend⟩ := Action.run_seq_eq_ok_iff.mp hrun
  cases hend
  cases hanswer
  obtain ⟨operation', old, ns, filled, edited, hoperation', hnamed, hold, hguard, hns, hfilled, hedit,
    hsettle⟩ := verdict_admitted_iff.mp hverdict
  cases hoperation.symm.trans hoperation'
  obtain ⟨name, ns', hplaced, hobjectName, htruthy, hns'⟩ := placed_of_fillNamespace hnamed hfilled
  obtain ⟨rfl, hplaced', edited', hedit', hsettle'⟩ := judged_again hwrites hsteady hfilled hplaced
    (fun heq => hname (heq ▸ hobjectName)) hapart hreference hedit hsettle
  -- The second request differs in the object alone.
  have hput : (Doc.obj ms).put "object" mutated = .ok (.obj (setMember "object" mutated ms)) := rfl
  have hread : ∀ {k : String} {d : Doc}, k ≠ "object" → (Doc.obj ms).read k = .ok d →
      (Doc.obj (setMember "object" mutated ms)).read k = .ok d :=
    fun hk hd => ((sameBut_put hput).read hk).trans hd
  have hobject' : (Doc.obj (setMember "object" mutated ms)).read "object" = .ok mutated := by
    rw [read_obj, lookup_setMember_self, Option.getD_some]
  have hverdict' := verdict_admitted_iff.mpr ⟨operation, old, ns, mutated, edited',
    hread (by decide) hoperation, isNamed_of_placed hplaced' htruthy, hread (by decide) hold, hguard,
    hread (by decide) hns, fillNamespace_of_placed hplaced' hns', hedit', hsettle'⟩
  let answer' : Answer := {
    uid := ((setMember "object" mutated ms).lookup "uid").getD ""
    submitted := mutated
    verdict := .admitted mutated }
  have hpatch : mutated.isProper = true → answer'.patch = [] := Patch.between_self
  have hrun' : (handle settings (.obj (setMember "object" mutated ms))).run h s' =
      (.ok answer', s') := by
    rw [handle_eq hobject']
    exact Action.run_seq_eq_ok_iff.mpr ⟨_, _, hverdict', rfl⟩
  refine ⟨_, answer', hput, hrun', rfl, rfl, fun hproper => ⟨hpatch hproper, ?_⟩⟩
  rw [Answer.response_patch, hpatch hproper, List.map_nil]

/-- An image that waits is noted once. -/
theorem handle_pickedUpdate_again :
    ∃ answer s mutated again answer',
      (handle {} pickedUpdate).run Memory.host imageCluster = (.ok answer, s) ∧
      answer.verdict = .admitted mutated ∧
      mutated.hasAnnotation AnnotationKey.updatePending = .ok true ∧
      pickedUpdate.put "object" mutated = .ok again ∧
      (handle {} again).run Memory.host s = (.ok answer', s) ∧
      answer'.verdict = .admitted mutated ∧ answer'.patch = [] ∧ answer'.response.patch = [] := by
  have hmarked : ((handle {} pickedUpdate).run Memory.host imageCluster).1.map (fun answer =>
      (admitted? answer).map fun mutated =>
        (mutated.isProper, mutated.hasAnnotation AnnotationKey.updatePending)) =
          .ok (some (true, .ok true)) := by decide +kernel
  rcases hrun : (handle {} pickedUpdate).run Memory.host imageCluster with ⟨t | answer, s⟩
  · rw [hrun] at hmarked
    cases hmarked
  rw [hrun] at hmarked
  obtain ⟨uid, submitted, mutated | _ | _⟩ := answer
  · obtain ⟨hproper, hpending⟩ := Prod.mk.inj (Option.some.inj (Except.ok.inj hmarked))
    have hoperation : pickedUpdate.read "operation" = .ok RestartGuard.updateOperation := rfl
    have hobject : pickedUpdate.read "object" = .ok pickedNotebook := rfl
    have hcontainers : pickedNotebook.containers =
        .ok (.arr [.obj [("name", "wb"), ("image", "lab-1")]]) := by decide
    have hselection : pickedNotebook.annotationValue AnnotationKey.imageSelection = .ok "lab:2" := by
      decide
    have hfound : ((Image.lookUp "opendatahub" "lab:2").run Memory.host imageCluster).1 =
        .ok (some "lab-2") := by decide +kernel
    have hapart : ∀ cs, pickedNotebook.containers = .ok (.arr cs) → NamesDiffer cs := by
      intro cs hcs
      cases hcontainers.symm.trans hcs
      exact List.pairwise_singleton _ _
    have hreference : ∀ selection reference,
        pickedNotebook.annotationValue AnnotationKey.imageSelection = .ok selection →
        ((Image.lookUp ({} : Settings).ns selection).run Memory.host imageCluster).1 =
          .ok (some reference) → reference.number? = none := by
      intro selection reference hselection' hfound'
      cases hselection.symm.trans hselection'
      cases hfound.symm.trans hfound'
      rfl
    obtain ⟨again, answer', hput, hagain, -, hverdict, hpatch⟩ :=
      handle_again (Memory.steady imageCluster) hoperation (by decide) hobject (by decide) hapart
        hreference hrun rfl
    exact ⟨_, s, mutated, again, answer', rfl, rfl, hpending, hput, hagain, hverdict,
      hpatch hproper⟩
  all_goals cases hmarked

/-! ### An image that is a number -/

/-- A request to make a notebook. -/
def creationOf (object : Notebook) : Doc := .obj [("operation", "CREATE"), ("object", object)]

/-- A cluster whose image has a number in the place of its text. -/
def numberCluster : Memory where
  objects := [(⟨"ImageStream", "opendatahub", "lab"⟩, .obj [
    ("metadata", .obj [("name", "lab")]),
    ("status", .obj [("tags", .arr [.obj [
      ("tag", "2"),
      ("items", .arr [.obj [
        ("created", "2024-01-01T00:00:00Z"),
        ("dockerImageReference", 5)]])]])])])]

/-- The notebook with the number for its image. -/
def numberedNotebook : Notebook :=
  .obj [
    ("metadata", .obj [
      ("name", "wb"),
      ("namespace", "ns"),
      ("annotations", .obj [
        (AnnotationKey.imageSelection, "lab:2"),
        (AnnotationKey.stopped, AnnotationKey.lockValue)])]),
    ("spec", .obj [("template", .obj [("spec", .obj [
      ("containers", .arr [.obj [("name", "wb"), ("image", 5)]])])])])]

/-- An image that is a number is put in, and cannot be read the next time. -/
theorem handle_numbered_fails :
    pickedNotebook.name = .ok "wb" ∧
    pickedNotebook.containers = .ok (.arr [.obj [("name", "wb"), ("image", "lab-1")]]) ∧
    ((handle {} (creationOf pickedNotebook)).run Memory.host numberCluster).1 =
      .ok { uid := "", submitted := pickedNotebook, verdict := .admitted numberedNotebook } ∧
    (creationOf pickedNotebook).put "object" numberedNotebook = .ok (creationOf numberedNotebook) ∧
    ((handle {} (creationOf numberedNotebook)).run Memory.host
      ((handle {} (creationOf pickedNotebook)).run Memory.host numberCluster).2).1 =
        .error (.fault .wrongShape) := by
  decide +kernel

end Admission

end Workbench
