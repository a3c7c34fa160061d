import Workbench.Proofs.Admission.Deferral
import Workbench.Proofs.Admission.RestartGuard
import Workbench.Proofs.Admission.Serviceable

/-!
# Every review is answered

A review of a notebook of the right shape is answered. The cluster does not check that shape before
admission: a notebook that does not have it may be one that the operator cannot read, and then there
is no answer at all.

* `Admission.faults_review`: no failure ends a review; what may end it is a fault;
* `Admission.exists_fillNamespace`, `Admission.exists_settle`: what comes before the edits of a
  notebook of the right shape, and what comes after them;
* `Admission.review_returns`: nothing ends the review of such a notebook;
* `Admission.IsAnswer`: what is sent in answer to a review;
* **`Admission.review_answers`**: a review is answered, or the notebook or an image stream does not
  have the right shape.
-/

namespace Workbench.Admission

open Doc Notebook Shape

variable {settings : Settings} {operation ns : Doc} {old raw nb edited object : Notebook}
  {request body : Doc} {σ : Type} {h : Host σ} {s s' : σ} {fine : σ → Prop}

/-! ## Failures -/

/-- A failure, or a fault of a document. -/
def Foreseen (t : Trouble) : Prop := t.isFailure = true ∨ ∃ f, t = .fault f

/-- Trouble with a call is reported as a failure. -/
def reportsFailures : Call → Except Trouble Doc → Prop
  | _, .error t => t.isFailure = true
  | _, .ok _ => True

section Foreseen

theorem foreseen_fault (f : Fault) : Foreseen (.fault f) := .inr ⟨f, rfl⟩

/-- The program reads, and ends with any value, in a failure or in a fault. -/
abbrev Foresees {α : Type} (a : Action α) : Prop := a.Ends reportsFailures Foreseen fun _ => True

theorem foresees_fault {α : Type} (x : Except Fault α) : Foresees (liftM x) :=
  .any_fault foreseen_fault x

theorem foresees_lookUp (operatorNamespace : String) (selection : Doc) :
    Foresees (Image.lookUp operatorNamespace selection) := by
  unfold Image.lookUp
  refine (foresees_fault _).andThen fun text => ?_
  refine .andThen (.liftM_trouble (fun _ _ => trivial) fun t ht => ?_) fun selection => ?_
  · unfold Image.Selection.ofText at ht
    split at ht <;> cases ht
    exact .inl rfl
  · refine .andThen (.perform rfl (fun _ _ => trivial) fun _ => .inl) fun streams => ?_
    exact (foresees_fault _).andThen fun _ => foresees_fault _

theorem foresees_resolve (operatorNamespace : String) (nb : Notebook) :
    Foresees (Image.resolve operatorNamespace nb) := by
  unfold Image.resolve
  refine (foresees_fault _).andThen fun selection => ?_
  split
  · trivial
  refine (foresees_fault _).andThen fun primary? => (foresees_fault _).andThen fun nb => ?_
  cases primary? with
  | none => trivial
  | some i =>
    refine (foresees_fault _).andThen fun c => (foresees_fault _).andThen fun image =>
      (foresees_fault _).andThen fun isFinal => ?_
    split
    · trivial
    refine (foresees_lookUp _ _).andThen fun reference? => ?_
    cases reference? with
    | none => trivial
    | some reference => exact foresees_fault _

theorem foresees_mount (nb : Notebook) : Foresees (liftM (TrustBundle.mount nb)) := by
  have hprimary : Foresees (liftM nb.primaryIndex) := by
    refine .liftM_seq (foresees_fault _) fun found _ => ?_
    cases found with
    | some i => trivial
    | none => exact .liftM_seq (foresees_fault nb.name) fun name _ => .inl rfl
  exact .liftM_seq hprimary fun i _ => .liftM_seq (foresees_fault _) fun nb _ =>
    .liftM_seq (foresees_fault _) fun nb _ => foresees_fault _

theorem foresees_mountBundle (nb : Notebook) : Foresees (mountBundle nb) := by
  have hexists : ∀ a, Foresees (Action.exists? a) := fun a => .exists? fun _ => .inl
  unfold mountBundle
  refine (foresees_fault _).andThen fun ns => (hexists _).andThen fun isProvided => ?_
  split
  · trivial
  refine (hexists _).andThen fun isMerged => ?_
  split
  · trivial
  · exact foresees_mount nb

theorem foresees_edit (settings : Settings) (operation : Doc) (nb : Notebook) :
    Foresees (edit settings operation nb) := by
  have hcontainers : ∀ nb, Foresees (editContainers settings nb) := fun nb =>
    (foresees_resolve settings.ns nb).andThen foresees_mountBundle
  have hrest : ∀ nb, Foresees (if writes operation then
      editContainers settings nb >>= fun nb => liftM (addSidecar settings nb)
      else liftM (addSidecar settings nb)) := fun nb => by
    split
    · exact (hcontainers nb).andThen fun nb => foresees_fault _
    · exact foresees_fault _
  unfold edit
  simp only [pure_bind]
  split
  · exact (foresees_fault _).andThen hrest
  · exact hrest nb

theorem foresees_judge (nb : Notebook) : Foresees (judge settings operation old raw nb) := by
  refine (foresees_edit settings operation nb).andThen fun edited? => ?_
  cases edited? with
  | none => trivial
  | some edited => exact (foresees_fault _).andThen fun _ => .pure trivial

/-- The program reads, and nothing but a fault ends it. -/
abbrev Faults {α : Type} (a : Action α) : Prop :=
  a.Ends reportsFailures (fun t => ∃ f, t = .fault f) fun _ => True

theorem faults_fault {α : Type} (x : Except Fault α) : Faults (liftM x) :=
  .any_fault (fun f => ⟨f, rfl⟩) x

theorem faults_failed {t : Trouble} (ht : Foreseen t) : Faults (failed t) := by
  rcases ht with hfailure | ⟨f, rfl⟩
  · cases t with
    | failure f => exact .pure trivial
    | _ => cases hfailure
  · exact ⟨f, rfl⟩

theorem faults_verdict : Faults (verdict settings request object) := by
  refine (faults_fault _).andThen fun operation => (faults_fault _).andThen fun isNamed => ?_
  split
  · trivial
  refine (faults_fault _).andThen fun old => ?_
  split
  · trivial
  exact (faults_fault _).andThen fun ns => (faults_fault _).andThen fun nb =>
    .rescue (fun _ => faults_failed) (foresees_judge nb)

/-- **No failure ends a review.** -/
theorem faults_review (settings : Settings) (body : Doc) : Faults (review settings body) := by
  have hend : ∀ answer : Answer, Faults (do
      let apiVersion := ((← body.members).lookup "apiVersion").getD "admission.k8s.io/v1"
      return ({ apiVersion, answer } : Review)) :=
    fun answer => (faults_fault _).andThen fun ms => .pure trivial
  unfold review
  refine (faults_fault _).andThen fun request => ?_
  split
  · refine .andThen ?_ hend
    exact (faults_fault _).andThen fun _ => (faults_fault _).andThen fun object =>
      faults_verdict.andThen fun _ => .pure trivial
  · exact hend missingRequest

end Foreseen

/-! ## Notebooks of the right shape -/

theorem exists_isNamed (h : object.isObj = true → isNotebook object = true) :
    ∃ named, isNamed object = .ok named := by
  cases hobj : object.isObj with
  | false => exact ⟨false, by rw [isNamed, hobj]; rfl⟩
  | true =>
    obtain ⟨hmetadata, -⟩ := (Bool.and_eq_true _ _).mp (h hobj)
    obtain ⟨ms, rfl, -⟩ := memberFits_iff.mp hmetadata
    obtain ⟨m, hm, -⟩ := orElse_of_memberFits rfl
      (fun d hd => by obtain ⟨_, rfl, -⟩ := memberFits_iff.mp hd; rfl) hmetadata
    simp only [isNamed, hobj, Bool.not_true, Bool.false_eq_true, if_false, read_obj, ok_bind, hm]
    exact ⟨_, rfl⟩

theorem require_of_isNamed (h : isNamed object = .ok true) :
    ∃ m, object.require "metadata" = .ok (.obj m) := by
  unfold isNamed at h
  split at h
  · cases h
  obtain ⟨metadata, hmetadata, h⟩ := bind_eq_ok_iff.mp h
  obtain ⟨ms, rfl, rfl⟩ := read_eq_ok_iff.mp hmetadata
  obtain ⟨name, hname, h⟩ := bind_eq_ok_iff.mp h
  obtain ⟨m, hm, rfl⟩ := read_eq_ok_iff.mp hname
  have hne : m ≠ [] := by
    rintro rfl
    cases h
  exact ⟨m, require_eq_ok_iff.mpr ⟨ms, rfl, eq_some_of_getD (of_orElse_empty hm hne) nofun⟩⟩

/-- A namespace can be filled in. -/
theorem exists_fillNamespace (hshape : isNotebook object = true) (hnamed : isNamed object = .ok true)
    (ns : Doc) : ∃ filled, fillNamespace ns object = .ok filled ∧
      Edited isContainerWithImage object filled := by
  obtain ⟨hmetadata, htemplate⟩ := (Bool.and_eq_true _ _).mp hshape
  obtain ⟨m, hm⟩ := require_of_isNamed hnamed
  obtain ⟨filled, hreplaced⟩ := exists_metadataReplaced hm (withNamespace ns m)
  have hfilled := (fillNamespace_eq_ok_iff hm).mpr hreplaced
  obtain ⟨name, ns', hplaced, -⟩ := placed_of_fillNamespace hnamed hfilled
  obtain ⟨m', as, hm', has, htexts⟩ := described_of_hasMetadata hmetadata hm
  cases hm.symm.trans hm'
  obtain ⟨nb₀, ps, hopens, hps⟩ := opens_of_hasTemplate htemplate
  have hsame := sameBut_fillNamespace hfilled
  obtain ⟨nb₁, hopens'⟩ := opens_of_podSpec ((podSpec_of_sameBut hsame).trans hopens.podSpec)
  exact ⟨filled, hfilled,
    ⟨_, as, hreplaced.require, annotationsAre_withNamespace.mpr has, htexts⟩,
    ⟨name, ns', hplaced⟩, ⟨nb₁, ps, hopens', hps⟩, .inl hsame⟩

section Settle

variable (hedited : Edited isEntry raw edited) (hold : ∃ before, old.templateSpec = .ok before)
  (hraw : ∃ wanted, raw.templateSpec = .ok wanted)

include hedited hold hraw

theorem exists_decide : ∃ decision, RestartGuard.decide operation old raw edited = .ok decision := by
  obtain ⟨m, -, hm, -⟩ := hedited.described
  obtain ⟨_, ps, hopens, -⟩ := hedited.opens
  obtain ⟨before, hbefore⟩ := hold
  obtain ⟨wanted, hwanted⟩ := hraw
  obtain ⟨isStopped, hstopped⟩ := hedited.described.hasAnnotation AnnotationKey.stopped
  obtain ⟨restarts, hrestarts⟩ := hedited.described.hasAnnotation AnnotationKey.restart
  have hstill : RestartGuard.isStill edited = .ok (isStopped || restarts) := by
    rw [RestartGuard.isStill, hstopped, hrestarts]
    cases isStopped <;> rfl
  rw [RestartGuard.decide_eq hm, hstill, ok_bind, RestartGuard.compareTemplates, hbefore, hwanted,
    hopens.templateSpec]
  simp only [ok_bind]
  split_ifs <;> exact ⟨_, rfl⟩

/-- The guard settles the notebook: edits that wait were edits of a pod template, which is there. -/
theorem exists_settle (operation : Doc) :
    ∃ mutated, settle operation old raw edited = .ok mutated := by
  obtain ⟨decision, hdecide⟩ := exists_decide hedited hold hraw
  obtain ⟨m, -, hm, -⟩ := hedited.described
  rw [settle, hdecide, ok_bind]
  cases decision with
  | allow =>
    obtain ⟨isPending, hpending⟩ := hedited.described.hasAnnotation AnnotationKey.updatePending
    rw [RestartGuard.apply, pure_eq_ok, ok_bind, mark, hpending, ok_bind]
    cases isPending with
    | true => exact hedited.described.dropAnnotation hpending
    | false => exact ⟨edited, rfl⟩
  | deferred reason =>
    obtain ⟨before, wanted, after, -, hwanted, hsame, hafter, hdiffer, -⟩ :=
      RestartGuard.compareTemplates_deferred_iff.mp
        ((RestartGuard.decide_deferred_iff hm).mp hdecide).2.2
    obtain hmeta | ⟨spec, hspec⟩ := hedited.origin
    · rw [templateSpec_of_sameBut hmeta, hwanted] at hafter
      cases hafter
      cases hsame.symm.trans hdiffer
    obtain ⟨held, hreplaced⟩ := hspec.replace wanted
    obtain ⟨mutated, hannotate, -⟩ := (hedited.described.of_sameBut hreplaced.sameBut).annotate
      AnnotationKey.updatePending reason
    refine ⟨mutated, ?_⟩
    rw [RestartGuard.apply, (RestartGuard.hold_eq_ok_iff hwanted hspec).mpr hreplaced, ok_bind]
    exact hannotate

end Settle

/-! ## Requests -/

/-- A request about a notebook of the right shape, or about something else. -/
def isRequest (request : Doc) : Bool :=
  memberFits "object" (fun object => !object.isObj || isNotebook object) request &&
    memberFits "oldObject" (orNull (hasTemplate fun _ => true)) request

/-- A review of such a request, or without a request. -/
def isReview : Doc → Bool := memberFits "request" fun request => !request.isObj || isRequest request

theorem judge_ends (hnb : Edited isContainerWithImage raw nb)
    (hold : ∃ before, old.templateSpec = .ok before)
    (hraw : ∃ wanted, raw.templateSpec = .ok wanted) :
    Succeeds (fun _ => True) (judge settings operation old raw nb) := by
  refine (edit_ends hnb).seq fun edited? h => ?_
  cases edited? with
  | none => trivial
  | some edited =>
    obtain ⟨mutated, hsettle⟩ := exists_settle (h edited rfl) hold hraw operation
    exact .andThen (.liftM_fault ⟨mutated, hsettle, trivial⟩) fun _ => .pure trivial

/-- Nothing ends a program. -/
abbrev Returns {α : Type} (a : Action α) : Prop := a.Ends isReply (fun _ => False) fun _ => True

theorem exists_before (h : orNull (hasTemplate fun _ => true) old = true) :
    ∃ before, old.templateSpec = .ok before := by
  rcases orNull_iff.mp h with rfl | htemplate
  · exact ⟨.empty, rfl⟩
  · exact exists_templateSpec htemplate

theorem verdict_returns (settings : Settings) (hrequest : isRequest request = true)
    (hobject : request.read "object" = .ok object) : Returns (verdict settings request object) := by
  obtain ⟨ms, rfl, rfl⟩ := read_eq_ok_iff.mp hobject
  obtain ⟨hshape, hold⟩ := (Bool.and_eq_true _ _).mp hrequest
  have hobject : ((ms.lookup "object").getD .null).isObj = true →
      isNotebook ((ms.lookup "object").getD .null) = true := fun hobj => by
    cases hfound : ms.lookup "object" with
    | none => rw [hfound] at hobj; cases hobj
    | some d =>
      rw [hfound] at hobj
      simpa [show d.isObj = true from hobj] using memberFits_obj.mp hshape d hfound
  have hbefore : ∃ before, templateSpec ((ms.lookup "oldObject").getD .null) = .ok before := by
    cases hfound : ms.lookup "oldObject" with
    | none => exact exists_before rfl
    | some d => exact exists_before (memberFits_obj.mp hold d hfound)
  obtain ⟨named, hnamed⟩ := exists_isNamed hobject
  unfold verdict
  rw [read_obj, Action.liftM_ok_seq, hnamed, Action.liftM_ok_seq]
  cases named with
  | false => exact .pure trivial
  | true =>
    rw [Bool.not_true, if_neg (by decide), read_obj, Action.liftM_ok_seq]
    split
    · exact .pure trivial
    have hnotebook := hobject (by
      cases hobj : ((ms.lookup "object").getD .null).isObj with
      | true => rfl
      | false => rw [isNamed, hobj] at hnamed; cases hnamed)
    obtain ⟨filled, hfilled, hedited⟩ := exists_fillNamespace hnotebook hnamed
      ((ms.lookup "namespace").getD .null)
    rw [read_obj, Action.liftM_ok_seq, hfilled, Action.liftM_ok_seq]
    refine .rescue (fun t ht => ?_) (judge_ends hedited hbefore
      (exists_templateSpec ((Bool.and_eq_true _ _).mp hnotebook).2))
    cases t with
    | failure f => exact .pure trivial
    | _ => cases ht

/-- **Nothing ends the review of a notebook of the right shape.** -/
theorem review_returns (hbody : isReview body = true) : Returns (review settings body) := by
  obtain ⟨ms, rfl, hshape⟩ := memberFits_iff.mp hbody
  unfold review
  rw [read_obj, Action.liftM_ok_seq]
  split
  · next hobj =>
    obtain ⟨rs, hrs⟩ := isObj_iff.mp hobj
    have hrequest : isRequest (.obj rs) = true := by
      have hfound := eq_some_of_getD hrs nofun
      simpa [isObj] using hshape _ hfound
    rw [hrs, handle]
    have hverdict := verdict_returns settings hrequest (read_obj rs)
    refine .andThen ?_ fun answer => .pure trivial
    rw [members, Action.liftM_ok_seq, read_obj, Action.liftM_ok_seq]
    exact hverdict.andThen fun _ => .pure trivial
  · exact .pure trivial

/-! ## Answers -/

/-- The request inside a review, null when there is none. -/
def requestOf : Doc → Doc
  | .obj ms => (ms.lookup "request").getD .null
  | _ => .null

/-- The uid of the request inside a review, the empty text when there is none. -/
def uidOf (body : Doc) : Doc :=
  match requestOf body with
  | .obj rs => (rs.lookup "uid").getD ""
  | _ => ""

/-- The notebook of a request was edited, and the guard settled it. -/
def LetsIn (settings : Settings) (h : Host σ) (s : σ) (request : Doc) : Prop :=
  ∃ operation object old ns filled edited mutated s',
    request.read "operation" = .ok operation ∧ request.read "object" = .ok object ∧
    request.read "oldObject" = .ok old ∧ request.read "namespace" = .ok ns ∧
    fillNamespace ns object = .ok filled ∧
    (edit settings operation filled).run h s = (.ok (some edited), s') ∧
    settle operation old object edited = .ok mutated

/-- What is sent in answer to a review: a review for the same request. It allows only what could be
done. -/
structure IsAnswer (settings : Settings) (h : Host σ) (s : σ) (body sent : Doc) : Prop where
  kind : sent.require "kind" = .ok "AdmissionReview"
  response : ∃ (response : Doc) (allowed : Bool), sent.require "response" = .ok response ∧
    response.require "uid" = .ok (uidOf body) ∧
    response.require "allowed" = .ok (.bool allowed) ∧
    (allowed = true → LetsIn settings h s (requestOf body))

theorem response_uid (answer : Answer) : answer.response.uid = answer.uid := by
  unfold Answer.response
  cases answer.verdict <;> rfl

theorem uid_of_handle {rs : List Member} {answer : Answer}
    (hrun : (handle settings (.obj rs)).run h s = (.ok answer, s')) :
    answer.uid = (rs.lookup "uid").getD "" := by
  unfold handle at hrun
  rw [members, Action.liftM_ok_seq, read_obj, Action.liftM_ok_seq] at hrun
  obtain ⟨_, _, -, hend⟩ := Action.run_seq_eq_ok_iff.mp hrun
  cases hend
  rfl

/-- **What a review is answered is an answer to its request.** -/
theorem isAnswer_of_run {r : Review} (hbody : body.isObj = true)
    (hrun : (review settings body).run h s = (.ok r, s')) : IsAnswer settings h s body r.toDoc := by
  obtain ⟨ms, rfl⟩ := isObj_iff.mp hbody
  have hsent : ∀ uid, r.answer.uid = uid → uid = uidOf (.obj ms) →
      (r.answer.response.allowed = true → LetsIn settings h s (requestOf (.obj ms))) →
      IsAnswer settings h s (.obj ms) r.toDoc := fun uid huid hsame hlets => by
    refine ⟨rfl, r.answer.response.toDoc, r.answer.response.allowed, rfl, ?_, rfl, hlets⟩
    rw [← hsame, ← huid, ← response_uid]
    rfl
  unfold review at hrun
  rw [read_obj, Action.liftM_ok_seq] at hrun
  split at hrun
  · next hobj =>
    obtain ⟨rs, hrs⟩ := isObj_iff.mp hobj
    rw [hrs] at hrun
    obtain ⟨answer, u, hhandle, hend⟩ := Action.run_seq_eq_ok_iff.mp hrun
    cases hend
    refine hsent _ (uid_of_handle hhandle) ?_ fun hallowed => ?_
    · rw [uidOf, requestOf, hrs]
    · obtain ⟨mutated, hverdict⟩ := Answer.allowed_iff.mp hallowed
      obtain ⟨operation, old, ns, filled, edited, hoperation, hobject, hold, hns, hfilled, hedit,
        hsettle⟩ := handle_admitted hhandle hverdict
      rw [requestOf, hrs]
      exact ⟨operation, _, old, ns, filled, edited, mutated, _, hoperation, hobject, hold, hns,
        hfilled, hedit, hsettle⟩
  · next hobj =>
    cases hrun
    refine hsent _ rfl ?_ fun hallowed => by cases hallowed
    have hnone : requestOf (.obj ms) = (ms.lookup "request").getD .null := rfl
    rw [uidOf]
    split
    · next rs hrs => exact absurd (by rw [← hnone, hrs]; rfl) hobj
    · rfl

/-- **Every review is answered, unless it has a notebook or meets an image stream of another shape.**
No failure of the cluster or of an edit ends a review: what does not succeed is answered, and not let
in. -/
theorem review_answers (settings : Settings) (hstore : h.Replies reportsFailures fine) (hs : fine s)
    (hbody : body.isObj = true) :
    (∀ r, ((review settings body).run h s).1 = .ok r → IsAnswer settings h s body r.toDoc) ∧
    (∀ t, ((review settings body).run h s).1 = .error t → ∃ f, t = .fault f) ∧
    (h.Replies isReply fine → isReview body = true →
      ∃ r, ((review settings body).run h s).1 = .ok r) := by
  refine ⟨fun r hr => isAnswer_of_run hbody (Prod.ext hr rfl),
    (Action.Ends.run hstore hs (faults_review settings body)).2, fun hreplies hshape => ?_⟩
  obtain ⟨-, hnone⟩ := Action.Ends.run hreplies hs (review_returns hshape)
  rcases hrun : ((review settings body).run h s).1 with t | r
  · exact (hnone t hrun).elim
  · exact ⟨r, rfl⟩

/-! ### A cluster that fails, and a notebook without a specification -/

/-- A review of a request. -/
def reviewOf (request : Doc) : Doc :=
  .obj [("apiVersion", "admission.k8s.io/v1"), ("kind", "AdmissionReview"), ("request", request)]

/-- A cluster that lists its image streams, and fails to get an object. -/
def failingHost : Host Memory where
  serve c m :=
    match c with
    | .list _ _ => (.ok (.arr (m.objects.map Prod.snd)), m)
    | _ => (.error (.failure (.unexpected "the server is down" 503)), m)
  pause _ m := (.ok (), m)

/-- All objects of the cluster are image streams. -/
def ListsStreams (m : Memory) : Prop := ∀ e ∈ m.objects, isStream e.2 = true

theorem failingHost_replies : failingHost.Replies isReply ListsStreams where
  reply {c m} hc hm := by
    cases c with
    | list kind ns => exact fun _ => isListOf_iff.mpr ⟨_, rfl, List.forall_mem_map.mpr hm⟩
    | get a => rfl
    | _ => cases hc
  state {c m} hc hm := by
    cases c with
    | list kind ns => exact hm
    | _ => exact hm

/-- The update is answered, and not let in: the cluster does not say whether there is a bundle. -/
theorem review_pickedUpdate_fails : ∃ r,
    ((review {} (reviewOf pickedUpdate)).run failingHost imageCluster).1 = .ok r ∧
    IsAnswer {} failingHost imageCluster (reviewOf pickedUpdate) r.toDoc ∧
    r.answer.verdict = .errored 500 "the server is down" := by
  have hstore : failingHost.Replies reportsFailures ListsStreams := {
    reply := fun {c m} hc hm => by
      cases c with
      | list kind ns => trivial
      | get a => rfl
      | _ => cases hc
    state := failingHost_replies.state }
  have hs : ListsStreams imageCluster := by
    unfold ListsStreams
    decide
  have hbody : (reviewOf pickedUpdate).isObj = true := rfl
  obtain ⟨hanswer, -, hreturns⟩ := review_answers {} hstore hs hbody
  obtain ⟨r, hr⟩ := hreturns failingHost_replies (by decide)
  refine ⟨r, hr, hanswer r hr, ?_⟩
  have hverdict : ((review {} (reviewOf pickedUpdate)).run failingHost imageCluster).1.map
      (·.answer.verdict) = .ok (.errored 500 "the server is down") := by decide +kernel
  rw [hr] at hverdict
  exact Except.ok.inj hverdict

/-- A notebook that asks for sign-in, with null for its specification. -/
def unspecifiedNotebook : Notebook :=
  .obj [
    ("metadata", .obj [
      ("name", "wb"),
      ("namespace", "project"),
      ("annotations", .obj [(AnnotationKey.injectOAuth, "true")])]),
    ("spec", .null)]

/-- There is no answer to the request to make it. -/
theorem review_unspecified_ends :
    ((review {} (reviewOf (creationOf unspecifiedNotebook))).run Memory.host {}).1 =
      .error (.fault .wrongShape) := by
  have hends : ((review {} (reviewOf (creationOf unspecifiedNotebook))).run Memory.host {}).1.map
      (fun _ => ()) = .error (.fault .wrongShape) := by decide +kernel
  rcases hrun : ((review {} (reviewOf (creationOf unspecifiedNotebook))).run Memory.host {}).1 with
    t | r
  · rw [hrun] at hends
    cases hends
    rfl
  · rw [hrun] at hends
    cases hends

end Workbench.Admission
