import Workbench.Lifecycle
import Workbench.Proofs.Cluster.Elsewhere
import Workbench.Proofs.Cluster.Spares
import Workbench.Proofs.Doc.Patched
import Workbench.Proofs.Reconcile.Runs

/-!
# What a change of a source leads to

A change of a config map with certificates is handed on to the notebook of the namespace that is
listed first. Between the list and the annotation others may do anything.

* `FanOut.IsStamped`: the time of the request is noted on an object; `FanOut.serve_stampPatch` says
  what the patch does that notes it;
* `run_notebooksOf_among`, `run_stampFails_among`: the list and the annotation, each after what
  others have done before it;
* **`configMapChanged_stamps_first`**: the first notebook is annotated if it is still there; if not,
  none is.
-/

namespace Workbench.FanOut

open Doc Memory Workbench.Action

variable {others : Nat → List Call} {m : Memory} {s : Shared} {a : Address} {stamp ns : String}

/-! ## The annotation -/

/-- Where the time of a request is noted. -/
def stampPlace : List String := ["metadata", "annotations", AnnotationKey.reconcileRequested]

/-- The time of a request is noted on an object. -/
def IsStamped (stamp : String) (d : Doc) : Prop :=
  d.at? (Place.ofNames stampPlace) = some (.str stamp)

instance (stamp : String) (d : Doc) : Decidable (IsStamped stamp d) :=
  inferInstanceAs (Decidable (_ = _))

theorem isStamped_merge (stamp : String) (d : Doc) :
    IsStamped stamp (d.merge (stampPatch stamp)) := by
  have hone : ∀ (k : String) (v : Doc), Distinct [(k, v)] := fun _ _ => List.pairwise_singleton _ _
  have htells : (stampPatch stamp).Tells stampPlace stamp :=
    ⟨_, _, rfl, hone _ _, rfl, _, _, rfl, hone _ _, rfl, tells_member (hone _ _) rfl⟩
  exact at?_merge_of_tells rfl htells

theorem IsStamped.stamped {d e : Doc} {n : Nat} (hd : IsStamped stamp d)
    (h : Memory.stamped a n d = .ok e) : IsStamped stamp e := by
  obtain ⟨ms, md, rfl, hmd, rfl⟩ := stamped_eq_ok_iff.mp h
  have hannotations : (stampedMembers a n md).lookup "annotations" = md.lookup "annotations" :=
    lookup_stampedMembers (by decide) (by decide)
  simp only [IsStamped, stampPlace, at?_cons, membersOrNone, hmd, Option.bind_some] at hd
  simp only [IsStamped, stampPlace, at?_cons, membersOrNone, lookup_setMember_self,
    Option.bind_some, hannotations, hd]

theorem addressOf_stampPatch {found : Doc} (h : addressOf found = .ok a) :
    addressOf (found.merge (stampPatch stamp)) = .ok a :=
  ((keepsIdentity_annotationsPatch [(AnnotationKey.reconcileRequested, stamp)]).same
    (hasMetadata_of_addressOf h) rfl).addressOf h

/-- The annotation is set on an object that is there. One that is gone is not found. -/
theorem serve_stampPatch (stamp : String) (hm : m.Sound) (ha : a.IsPlain) :
    m.lookup a = none ∧ m.serve (.patch a (stampPatch stamp)) = (.error (missing "patch" a), m) ∨
      ∃ found e, m.lookup a = some found ∧ (m.serve (.patch a (stampPatch stamp))).1 = .ok e ∧
        Puts a (found.merge (stampPatch stamp)) e m (m.serve (.patch a (stampPatch stamp))).2 :=
  m.serve_patch ha fun _ hfound => addressOf_stampPatch (hm.addressOf_eq ha hfound)

theorem has_stamped_of_puts {found e : Doc} {m' : Memory} (ha : a.IsPlain)
    (h : Puts a (found.merge (stampPatch stamp)) e m m') : m'.Has a (IsStamped stamp) := by
  obtain ⟨n, hn⟩ := h.stamped
  exact ⟨e, h.lookup_self ha, (isStamped_merge stamp found).stamped hn⟩

/-! ## Calls among others -/

/-- The notebooks of a namespace are listed after what others have done before. -/
theorem run_notebooksOf_among {nbs : List Doc}
    (h : (s.memory.serveAll (others s.log.length)).ofKind notebookKind ns = .ok nbs) :
    ∃ w, (notebooksOf ns).run (Shared.among others) s =
      (.ok (.arr nbs), ⟨s.memory.serveAll (others s.log.length), s.log ++ [w]⟩) := by
  obtain ⟨w, hlist⟩ := Shared.run_perform_among others (.list notebookKind ns) s
  refine ⟨w, ?_⟩
  rw [Memory.serve, h] at hlist
  rw [notebooksOf, Action.except, run_rescue, Action.list, hlist]
  rfl

theorem run_stampFails {σ : Type} {h : Host σ} {s t : σ} {r : Request} {x : Except Trouble Doc}
    (hpatch : (perform (.patch r.address (stampPatch stamp))).run h s = (x, t))
    (hx : x = .error (missing "patch" r.address) ∨ ∃ d, x = .ok d) :
    (stampFails stamp r).run h s = (.ok false, t) := by
  have hdiscard : (Action.patch r.address (stampPatch stamp)).run h s = (x.map fun _ => (), t) := by
    rw [Action.patch, discard_eq, run_seq, hpatch]
    cases x <;> rfl
  rw [stampFails, Action.except, run_rescue, Action.except, run_rescue, run_seq, stampWaits,
    Action.retrying, run_rescue, hdiscard]
  rcases hx with rfl | ⟨d, rfl⟩ <;> rfl

/-- The annotation is set on the object at an address if there is one, and nothing else changes. -/
structure Stamps (stamp : String) (a : Address) (before after : Memory) : Prop where
  gone : before.lookup a = none → after = before
  there : (before.lookup a).isSome → after.Has a (IsStamped stamp)
  elsewhere : ∀ b, b ≠ a → after.lookup b = before.lookup b

/-- A notebook that is there after what others have done before is annotated; one that is gone needs
no annotation. -/
theorem run_stampFails_among (others : Nat → List Call) (stamp : String) {r : Request}
    (ha : r.address.IsPlain) (hs : s.memory.Orderly) :
    ∃ t, (stampFails stamp r).run (Shared.among others) s = (.ok false, t) ∧
      Stamps stamp r.address (s.memory.serveAll (others s.log.length)) t.memory := by
  obtain ⟨horder, -⟩ := Memory.Orderly.serveAll (others s.log.length) hs
  obtain ⟨w, hpatch⟩ := Shared.run_perform_among others (.patch r.address (stampPatch stamp)) s
  generalize s.memory.serveAll (others s.log.length) = before at *
  rcases serve_stampPatch stamp horder.sound ha with
    ⟨hnone, hserve⟩ | ⟨found, e, hfound, hanswer, hputs⟩
  · rw [hserve] at hpatch
    refine ⟨_, run_stampFails hpatch (.inl rfl), fun _ => rfl, fun h => ?_, fun _ _ => rfl⟩
    simp [hnone] at h
  · rw [hanswer] at hpatch
    refine ⟨_, run_stampFails hpatch (.inr ⟨e, rfl⟩), fun h => ?_,
      fun _ => has_stamped_of_puts ha hputs, fun _ hb => hputs.lookup_of_ne ha hb⟩
    simp [hfound] at h

/-! ## A change of a source -/

/-- The config map is a source of the certificates of a namespace. -/
def IsSourceOf (ns : String) (configMap : Doc) : Prop :=
  ∃ metadata source,
    (source = TrustBundle.platformConfigMap ∨ source = TrustBundle.clusterRootConfigMap) ∧
      configMap.require "metadata" = .ok metadata ∧ metadata.require "name" = .ok (.str source) ∧
      metadata.require "namespace" = .ok (.str ns)

theorem run_forConfigMap_among {configMap : Doc} {nbs : List Doc} (hsource : IsSourceOf ns configMap)
    (h : (s.memory.serveAll (others s.log.length)).ofKind notebookKind ns = .ok nbs) :
    ∃ w, (forConfigMap configMap).run (Shared.among others) s =
      ((first ns nbs).mapError .fault, ⟨s.memory.serveAll (others s.log.length), s.log ++ [w]⟩) := by
  obtain ⟨metadata, source, hsource, hmetadata, hname, hns⟩ := hsource
  obtain ⟨w, hlist⟩ := run_notebooksOf_among h
  refine ⟨w, ?_⟩
  have hwatched : watchedConfigMaps.any (fun watched => Doc.str source = .str watched) = true := by
    rcases hsource with rfl | rfl <;> decide
  have hne : Doc.str source ≠ .str bundleConfigMap := by
    rcases hsource with rfl | rfl <;> decide
  rw [forConfigMap, hmetadata, liftM_ok_seq, hname, liftM_ok_seq, hns, liftM_ok_seq, hwatched]
  change (notebooksOf ns >>= fun listed => _).run _ s = _
  rw [run_seq, hlist]
  change ((if Doc.str source = .str bundleConfigMap then _ else liftM (first ns nbs) : Action _)).run
    _ _ = _
  rw [if_neg hne, run_liftM_fault]

/-- **A change of a source reaches the notebook that is listed first, if it is still there**, and no
other one, whatever others do before the list and between the list and the annotation. -/
theorem configMapChanged_stamps_first (stamp : String) {type configMap : Doc} {nbs : List Doc}
    (hm : m.Orderly) (htype : type ≠ .null) (hsource : IsSourceOf ns configMap)
    (hlist : (m.serveAll (others 0)).ofKind notebookKind ns = .ok nbs)
    (hnames : ∀ nb ∈ nbs, ∃ name : String, Notebook.name nb = .ok name) :
    ∃ t, (Operator.configMapChanged stamp type configMap).run (Shared.among others) ⟨m, []⟩ =
        (.ok [], t) ∧
      (nbs = [] → t.memory = m.serveAll (others 0)) ∧
      ∀ nb rest name, nbs = nb :: rest → Notebook.name nb = .ok (.str name) →
        Stamps stamp (ObjectAt.notebook ns name)
          ((m.serveAll (others 0)).serveAll (others 1)) t.memory := by
  obtain ⟨w, hfirst⟩ := run_forConfigMap_among (s := ⟨m, []⟩) hsource hlist
  obtain ⟨horder, -⟩ := Memory.Orderly.serveAll (others 0) hm
  rw [Operator.configMapChanged, if_neg htype, run_seq, hfirst]
  cases nbs with
  | nil =>
    refine ⟨_, rfl, fun _ => rfl, ?_⟩
    rintro _ _ _ ⟨⟩
  | cons nb rest =>
    obtain ⟨name, hname⟩ := hnames nb List.mem_cons_self
    obtain ⟨t, hstamp, hstamps⟩ := run_stampFails_among others stamp (r := ⟨ns, name⟩)
      (s := ⟨m.serveAll (others 0), [w]⟩) (ObjectAt.notebook_plain ns name) horder
    have htrigger : (trigger stamp [⟨ns, name⟩]).run (Shared.among others)
        ⟨m.serveAll (others 0), [w]⟩ = (.ok [], t) := by
      rw [trigger, run_seq, hstamp]
      rfl
    have hrequests : first ns (nb :: rest) = .ok [⟨ns, name⟩] := by
      rw [first, hname]
      rfl
    refine ⟨t, ?_, fun h => absurd h (List.cons_ne_nil nb rest), ?_⟩
    · rw [hrequests]
      exact htrigger
    · rintro _ _ name' ⟨⟩ hname'
      cases hname.symm.trans hname'
      exact hstamps

/-! ## Two notebooks -/

/-- A notebook of the namespace, as it is kept. -/
def keptNotebook (name version : String) : Notebook :=
  .obj [
    ("kind", notebookKind),
    ("metadata", .obj [
      ("name", name),
      ("namespace", "ns"),
      ("uid", name),
      ("resourceVersion", version)])]

/-- A cluster with two notebooks. -/
def pairedCluster : Memory where
  objects := [
    (ObjectAt.notebook "ns" "a", keptNotebook "a" "1"),
    (ObjectAt.notebook "ns" "b", keptNotebook "b" "2")]
  version := 2

theorem pairedCluster_orderly : pairedCluster.Orderly where
  sound := by
    refine List.forall_mem_cons.mpr ⟨?_, List.forall_mem_singleton.mpr ?_⟩
    · exact ⟨_, _, _, _, rfl, by decide, rfl, rfl, rfl⟩
    · exact ⟨_, _, _, _, rfl, by decide, rfl, rfl, rfl⟩
  dated := by
    refine List.forall_mem_cons.mpr ⟨?_, List.forall_mem_singleton.mpr ?_⟩
    · exact ⟨1, by decide, _, _, rfl, rfl, rfl⟩
    · exact ⟨2, by decide, _, _, rfl, rfl, rfl⟩

/-- The root of the cluster, as it is reported. -/
def clusterRoot : Doc :=
  .obj [("metadata", .obj [("name", TrustBundle.clusterRootConfigMap), ("namespace", "ns")])]

theorem clusterRoot_isSourceOf : IsSourceOf "ns" clusterRoot :=
  ⟨_, _, .inr rfl, rfl, rfl, rfl⟩

/-- Somebody deletes a notebook when the notebooks have been listed. -/
def remover (name : String) : Nat → List Call
  | 0 => []
  | _ => [.delete (ObjectAt.notebook "ns" name)]

/-- The first notebook is annotated although the second one is deleted in the meantime. -/
theorem pairedCluster_stamps_first :
    ((Operator.configMapChanged "now" "MODIFIED" clusterRoot).run (Shared.among (remover "b"))
        ⟨pairedCluster, []⟩).2.memory.Has (ObjectAt.notebook "ns" "a") (IsStamped "now") ∧
      ((Operator.configMapChanged "now" "MODIFIED" clusterRoot).run (Shared.among (remover "b"))
        ⟨pairedCluster, []⟩).2.memory.lookup (ObjectAt.notebook "ns" "b") = none := by
  have hlist : (pairedCluster.serveAll (remover "b" 0)).ofKind notebookKind "ns" =
      .ok [keptNotebook "a" "1", keptNotebook "b" "2"] := by decide +kernel
  have hnames : ∀ nb ∈ [keptNotebook "a" "1", keptNotebook "b" "2"],
      ∃ name : String, Notebook.name nb = .ok name :=
    List.forall_mem_cons.mpr ⟨⟨"a", rfl⟩, List.forall_mem_singleton.mpr ⟨"b", rfl⟩⟩
  have htype : Doc.str "MODIFIED" ≠ .null := by decide
  obtain ⟨t, hrun, -, hstamps⟩ := configMapChanged_stamps_first "now" pairedCluster_orderly htype
    clusterRoot_isSourceOf hlist hnames
  have hstamped := hstamps _ _ "a" rfl rfl
  have hdeleted : ((pairedCluster.serveAll (remover "b" 0)).serveAll (remover "b" 1)).lookup
      (ObjectAt.notebook "ns" "b") = none := by decide +kernel
  rw [hrun]
  refine ⟨hstamped.there (by decide +kernel), ?_⟩
  rw [hstamped.elsewhere _ (by decide), hdeleted]

/-- **The change is lost** when the first notebook is deleted: the second notebook is still there,
and nothing is annotated. -/
theorem configMapChanged_misses :
    ((Operator.configMapChanged "now" "MODIFIED" clusterRoot).run (Shared.among (remover "a"))
        ⟨pairedCluster, []⟩).1 = .ok [] ∧
      ((Operator.configMapChanged "now" "MODIFIED" clusterRoot).run (Shared.among (remover "a"))
        ⟨pairedCluster, []⟩).2.memory.lookup (ObjectAt.notebook "ns" "b") =
          some (keptNotebook "b" "2") ∧
      ∀ e ∈ ((Operator.configMapChanged "now" "MODIFIED" clusterRoot).run
        (Shared.among (remover "a")) ⟨pairedCluster, []⟩).2.memory.objects,
          ¬ IsStamped "now" e.2 := by
  decide +kernel

end Workbench.FanOut
