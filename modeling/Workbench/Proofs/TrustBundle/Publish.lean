import Workbench.Proofs.Cluster.Local
import Workbench.Proofs.Cluster.Reads
import Workbench.Proofs.Doc.Canonical
import Workbench.TrustBundle.Publish

/-!
# The merged bundle among several writers

Every notebook of a namespace publishes the same bundle, so a writer may come too late, or find that
another one was faster; what is kept in the end is the same.

* `TrustBundle.IsSource`, `collect_gets`: the certificates are read from config maps that nobody
  writes;
* `TrustBundle.refreshed`, `TrustBundle.published`: the bundle brought up to date, and how publishing
  ends;
* `refresh_safe`: a refresh ends with the bundle, or meets a conflict with one that is there already;
* **`publish_safe`**: publishing ends with the bundle.
-/

namespace Workbench

open Doc Memory Workbench.Action

namespace TrustBundle

variable {ns : String}

/-! ## Certificates -/

/-- An address that certificates of the namespace are read from. -/
def IsSource (ns : String) (a : Address) : Prop :=
  ∃ source ∈ sources, a = configMapAt ns source.configMap

theorem IsSource.kind_eq {a : Address} (h : IsSource ns a) : a.kind = "ConfigMap" := by
  obtain ⟨_, -, rfl⟩ := h
  rfl

theorem IsSource.ne_bundle {ns' : String} {a : Address} (h : IsSource ns a) :
    a ≠ configMapAt ns' bundleConfigMap := by
  obtain ⟨source, hsource, rfl⟩ := h
  have hname : source.configMap ≠ bundleConfigMap := by
    revert source
    decide
  simp [configMapAt, hname]

theorem configMapAt_plain (ns name : String) : (configMapAt ns name).IsPlain := ⟨_, _, _, rfl⟩

theorem collectFrom_gets : ∀ {l : List Source}, (∀ source ∈ l, source ∈ sources) →
    (collectFrom ns l).Gets (IsSource ns)
  | [], _ => trivial
  | source :: rest, h => by
    have hrest := collectFrom_gets fun s hs => h s (List.mem_cons_of_mem _ hs)
    refine Gets.seq (fun found => ?_)
      (Gets.find? (configMapAt_plain _ _) ⟨source, h source List.mem_cons_self, rfl⟩)
    cases found with
    | none =>
      change Gets _ (if _ then _ else _)
      split
      · trivial
      · exact hrest
    | some configMap =>
      refine Gets.seq (fun certificates => ?_) (Gets.liftM_trouble _)
      cases certificates with
      | none => trivial
      | some found => exact Gets.seq (fun _ => Gets.pure _) hrest

theorem collect_gets : (collect ns).Gets (IsSource ns) := collectFrom_gets fun _ => id

/-! ## The bundle brought up to date -/

/-- The bundle is kept in the config map. -/
def holds (bundle : String) (d : Doc) : Bool :=
  match d.read "data" with
  | .ok data => data.equivalent (Resource.bundleData bundle)
  | .error _ => false

/-- The bundle of the namespace brought up to date. -/
def refreshed (ns bundle : String) : Option Doc → Doc
  | none => (Resource.trustedBundle ns bundle).asKept (configMapAt ns bundleConfigMap)
  | some d =>
    if holds bundle d then d
    else match d.put "data" (Resource.bundleData bundle) with
      | .ok e => e
      | .error _ => d

/-- How publishing ends, and the bundle of the namespace then. -/
def published (ns : String) (collected : Except Trouble (Option (List String)))
    (before : Option Doc) : Except Trouble Unit × Option Doc :=
  match collected with
  | .error e => (.error e, before)
  | .ok none | .ok (some []) => (.ok (), before)
  | .ok (some certificates) => (.ok (), some (refreshed ns (join certificates) before))

theorem holds_obj {bundle : String} {ms : List Member} : holds bundle (.obj ms) =
    ((ms.lookup "data").getD .null).equivalent (Resource.bundleData bundle) := rfl

theorem holds_unversioned {bundle : String} {d : Doc} (hd : d.HasMetadata) :
    holds bundle d.unversioned = holds bundle d := by
  rw [holds, holds, hd.sameBut.read (by decide)]

theorem holds_put {bundle : String} {d e : Doc}
    (h : d.put "data" (Resource.bundleData bundle) = .ok e) : holds bundle e = true := by
  obtain ⟨ms, rfl, rfl⟩ := put_eq_ok_iff.mp h
  rw [holds, read_obj, lookup_setMember_self, Option.getD_some]
  exact equivalent_self _

theorem trustedBundle_addressOf (ns bundle : String) :
    addressOf (Resource.trustedBundle ns bundle) = .ok (configMapAt ns bundleConfigMap) := rfl

theorem holds_refreshed {bundle : String} {before : Option Doc}
    (h : ∀ d, before = some d → d.HasMetadata) :
    holds bundle (refreshed ns bundle before) = true := by
  cases before with
  | none =>
    have hd := hasMetadata_of_addressOf (trustedBundle_addressOf ns bundle)
    rw [refreshed, holds, hd.sameBut_asKept.read (by decide)]
    exact equivalent_self (Resource.bundleData bundle)
  | some d =>
    obtain ⟨ms, md, rfl, -⟩ := h d rfl
    dsimp only [refreshed]
    by_cases hholds : holds bundle (.obj ms) = true
    · rw [if_pos hholds, hholds]
    · rw [if_neg hholds]
      exact holds_put (d := .obj ms) (put_eq_ok_iff.mpr ⟨ms, rfl, rfl⟩)

/-! ## Refreshing -/

section Refresh

variable {rely guar : Change} {m : Memory} {a : Address} {bundle : String} {goal : Doc}

theorem refresh_safe_of_goal (ha : a.IsPlain) (hrely : rely.Brings a (some goal))
    (hrefl : ∀ s, guar s s) (hgoal : holds bundle goal = true) (hm : m.view a = some goal) :
    Safe rely guar (fun x t => x = .ok () ∧ t.view a = some goal)
      (refresh a (Resource.bundleData bundle)) m := by
  have hkeeps : ∀ t, rely m t → t.view a = some goal := by
    intro t hmt
    rcases hrely m t hmt with h | h
    · rw [view_congr h, hm]
    · exact h
  unfold refresh
  refine Safe.get_seq ha hrefl ?_ ?_
  · intro t d ht hmt hlookup
    have hview := hkeeps t hmt
    have hd := hasMetadata_of_addressOf (ht.addressOf_eq ha hlookup)
    have hholds : holds bundle d = true := by
      rw [← holds_unversioned hd]
      rw [Memory.view, hlookup, Option.map_some, Option.some.injEq] at hview
      rw [hview, hgoal]
    unfold holds at hholds
    cases hdata : d.read "data" with
    | error f => simp [hdata] at hholds
    | ok data =>
      rw [hdata] at hholds
      rw [liftM_ok_seq, if_pos hholds]
      exact .pure fun _ => ⟨rfl, hview⟩
  · intro t _ hmt hnone
    have hview := hkeeps t hmt
    simp [Memory.view, hnone] at hview

theorem unversioned_put {d e : Doc} (hd : d.HasMetadata) (hholds : holds bundle d = false)
    (he : d.put "data" (Resource.bundleData bundle) = .ok e) :
    e.unversioned = refreshed ns bundle (some d.unversioned) := by
  have hput := (keepsIdentity_put (k := "data") (v := Resource.bundleData bundle) (by decide)
    (by decide)).unversioned hd
  dsimp only [refreshed]
  rw [holds_unversioned hd, hholds, if_neg Bool.false_ne_true, hput, he]
  rfl

theorem goal_or_before {before : Option Doc} {d : Doc} (hd : d.HasMetadata)
    (hgoal : goal = refreshed ns bundle before) (hholdsGoal : holds bundle goal = true)
    (hview : some d.unversioned = before ∨ d.unversioned = goal) :
    (holds bundle d = true → d.unversioned = goal) ∧
      (holds bundle d = false → before = some d.unversioned) := by
  rcases hview with rfl | rfl
  · refine ⟨fun hholds => ?_, fun _ => rfl⟩
    rw [hgoal]
    dsimp only [refreshed]
    rw [holds_unversioned hd, if_pos hholds]
  · refine ⟨fun _ => rfl, fun hstale => ?_⟩
    rw [holds_unversioned hd, hstale] at hholdsGoal
    cases hholdsGoal

/-- A refresh ends with the goal, or meets a conflict with somebody who has reached it. -/
theorem refresh_safe {before : Option Doc} (ha : a.IsPlain) (hrely : rely.Brings a (some goal))
    (hlets : guar.Lets a (some goal)) (hrefl : ∀ s, guar s s)
    (hgoal : goal = refreshed ns bundle before) (hholdsGoal : holds bundle goal = true)
    (hm : m.view a = before ∨ m.view a = some goal) (hthere : (m.lookup a).isSome) :
    Safe rely guar (fun x t => t.view a = some goal ∧
      (x = .ok () ∨ ∃ e, x = .error e ∧ e.isConflict = true))
      (refresh a (Resource.bundleData bundle)) m := by
  have hkeeps : ∀ t, rely m t →
      (t.view a = before ∨ t.view a = some goal) ∧ (t.lookup a).isSome := by
    intro t hmt
    rcases hrely m t hmt with h | h
    · rw [view_congr h, h]
      exact ⟨hm, hthere⟩
    · refine ⟨.inr h, ?_⟩
      rw [Memory.view] at h
      rw [← Option.isSome_map, h]
      rfl
  unfold refresh
  refine Safe.get_seq ha hrefl ?_ ?_
  · intro t d ht hmt hlookup
    have hview := (hkeeps t hmt).1
    have hd := hasMetadata_of_addressOf (ht.addressOf_eq ha hlookup)
    have hview' : t.view a = some d.unversioned := by rw [Memory.view, hlookup, Option.map_some]
    rw [hview', Option.some.injEq] at hview
    obtain ⟨hdone, hbefore⟩ := goal_or_before hd hgoal hholdsGoal hview
    obtain ⟨ms, md, rfl, hmd⟩ := id hd
    rw [read_obj, liftM_ok_seq, ← holds_obj]
    cases hholds : holds bundle (.obj ms) with
    | true =>
      -- There is nothing to do: what is kept holds the bundle, so it is the goal.
      rw [if_pos rfl]
      exact .pure fun _ => ⟨hview'.trans (congrArg some (hdone hholds)), .inl rfl⟩
    | false =>
      -- What is kept is out of date, so it is what was there before, and its edit is the goal.
      have hput : (obj ms).put "data" (Resource.bundleData bundle) =
          .ok (.obj (setMember "data" (Resource.bundleData bundle) ms)) := rfl
      have hedit : (obj (setMember "data" (Resource.bundleData bundle) ms)).unversioned = goal := by
        rw [hgoal, hbefore hholds, unversioned_put hd hholds hput]
      have hsame := (keepsIdentity_put (by decide) (by decide)).same hd hput
      rw [if_neg Bool.false_ne_true, hput, liftM_ok_seq]
      refine Safe.update ha (hsame.addressOf (ht.addressOf_eq ha hlookup)) hrefl ?_ ?_ ?_
      · intro t' u found _ _ _ _ _ hwrote
        have hwritten : u.view a = some goal := by
          rw [hwrote.view, ht.asKept_of_same ha hlookup hsame, hedit]
        exact ⟨hlets _ _ hwrote.elsewhere hwritten, hwritten, .inl rfl⟩
      · intro t' found ht' htt' hfound hconflict
        rcases hrely t t' htt' with h | h
        · rw [hfound, hlookup, Option.some.injEq] at h
          rw [ht'.isCurrent_of_same ha hfound (h ▸ hsame)] at hconflict
          cases hconflict
        · exact ⟨h, .inr ⟨_, rfl, rfl⟩⟩
      · intro t' _ htt' hnone
        rcases hrely t t' htt' with h | h
        · rw [hnone, hlookup] at h
          cases h
        · simp [Memory.view, hnone] at h
  · intro t _ hmt hnone
    have hsome := (hkeeps t hmt).2
    simp [hnone] at hsome

end Refresh

/-! ## Publishing -/

theorem retrying_refresh_safe {rely guar : Change} {m : Memory} {a : Address} {bundle : String}
    {goal : Doc} {before : Option Doc} (ha : a.IsPlain) (hrely : rely.Brings a (some goal))
    (hlets : guar.Lets a (some goal)) (hrefl : ∀ s, guar s s)
    (hgoal : goal = refreshed ns bundle before) (hholdsGoal : holds bundle goal = true)
    (hm : m.view a = before ∨ m.view a = some goal) (hthere : (m.lookup a).isSome) :
    Safe rely guar (fun x t => x = .ok () ∧ t.view a = some goal)
      (retryingOnConflict (refresh a (Resource.bundleData bundle))) m := by
  unfold retryingOnConflict conflictWaits retrying
  refine (refresh_safe ha hrely hlets hrefl hgoal hholdsGoal hm hthere).rescue ?_ ?_
  · rintro v t _ ⟨hview, h | ⟨e, he, -⟩⟩
    · exact ⟨h, hview⟩
    · cases he
  · rintro e t _ ⟨hview, h | ⟨e', he, hconflict⟩⟩
    · cases h
    · cases he
      rw [if_pos hconflict]
      refine Safe.retrying_once (refresh_safe_of_goal ha hrely hrefl hholdsGoal hview) ?_
      rintro e' t' ⟨he', -⟩
      cases he'

theorem write_safe {rely guar : Change} {m : Memory} {bundle : String} {goal : Doc}
    {before : Option Doc} (hrely : rely.Brings (configMapAt ns bundleConfigMap) (some goal))
    (hlets : guar.Lets (configMapAt ns bundleConfigMap) (some goal)) (hrefl : ∀ s, guar s s)
    (hbefore : ∀ d, before = some d → d.HasMetadata) (hgoal : refreshed ns bundle before = goal)
    (hm : m.view (configMapAt ns bundleConfigMap) = before ∨
      m.view (configMapAt ns bundleConfigMap) = some goal) :
    Safe rely guar (fun x t => x = .ok () ∧ t.view (configMapAt ns bundleConfigMap) = some goal)
      (find? (configMapAt ns bundleConfigMap) >>= fun found? =>
        match found? with
        | none => discard (createUnlessThere (Resource.trustedBundle ns bundle))
        | some _ => retryingOnConflict
          (refresh (configMapAt ns bundleConfigMap) (Resource.bundleData bundle))) m := by
  have ha := configMapAt_plain ns bundleConfigMap
  have hholds : holds bundle goal = true := hgoal ▸ holds_refreshed hbefore
  generalize hb : configMapAt (.str ns) bundleConfigMap = b at *
  refine Safe.find?_seq ha hrefl fun t ht hmt => ?_
  have hview : t.view b = before ∨ t.view b = some goal := by
    rcases hrely m t hmt with h | h
    · rwa [view_congr h]
    · exact .inr h
  cases hfound : t.lookup b with
  | some found =>
    exact retrying_refresh_safe ha hrely hlets hrefl hgoal.symm hholds hview (by rw [hfound]; rfl)
  | none =>
    have hnone : before = none := by
      rw [Memory.view, hfound] at hview
      rcases hview with h | h
      · exact h.symm
      · cases h
    subst hnone
    rw [discard_eq]
    refine Safe.seq (p := fun x t => (∃ v, x = .ok v) ∧ t.view b = some goal) ?_ ?_
      (Safe.createUnlessThere ha (hb ▸ trustedBundle_addressOf ns bundle) hrefl ?_ ?_)
    · rintro v u _ ⟨-, hu⟩
      exact .pure fun _ => ⟨rfl, hu⟩
    · rintro e u _ ⟨⟨v, hv⟩, -⟩
      cases hv
    · intro t' u _ _ _ _ hwrote
      have hwritten : u.view b = some goal := by
        rw [hwrote.view, ← hgoal, refreshed, hb]
      exact ⟨hlets _ _ hwrote.elsewhere hwritten, ⟨_, rfl⟩, hwritten⟩
    · intro t' found _ htt' hthere
      rcases hrely t t' htt' with h | h
      · rw [hthere, hfound] at h
        cases h
      · exact ⟨⟨_, rfl⟩, h⟩

/-- **Publishing ends with the bundle**, in whatever order several writers come. -/
theorem publish_safe {rely guar : Change} {m₀ m : Memory} {nb : Notebook}
    {collected : Except Trouble (Option (List String))} {before goal : Option Doc}
    (hns : nb.namespace' = .ok (.str ns))
    (hcollected : ((collect ns).run Memory.host m₀).1 = collected)
    (hsources : ∀ a, IsSource ns a → rely.Fixes a)
    (hsame : ∀ a, IsSource ns a → m.lookup a = m₀.lookup a)
    (hbefore : ∀ d, before = some d → d.HasMetadata)
    (hgoal : (published ns collected before).2 = goal)
    (hrely : rely.Brings (configMapAt ns bundleConfigMap) goal)
    (hlets : guar.Lets (configMapAt ns bundleConfigMap) goal) (hrefl : ∀ s, guar s s)
    (hm : m.view (configMapAt ns bundleConfigMap) = before ∨
      m.view (configMapAt ns bundleConfigMap) = goal) :
    Safe rely guar (fun x t =>
      (x, t.view (configMapAt ns bundleConfigMap)) = published ns collected before)
      (publish nb) m := by
  have ha := configMapAt_plain ns bundleConfigMap
  have hkept : ∀ s t, rely s t →
      (s.view (configMapAt ns bundleConfigMap) = before ∨
        s.view (configMapAt ns bundleConfigMap) = goal) →
      (t.view (configMapAt ns bundleConfigMap) = before ∨
        t.view (configMapAt ns bundleConfigMap) = goal) := by
    intro s t hst hs
    rcases hrely s t hst with h | h
    · rwa [view_congr h]
    · exact .inr h
  unfold publish
  rw [hns, liftM_ok_seq]
  refine Safe.seq ?_ ?_ (Gets.safe hsources hrefl hkept collect_gets hsame hm)
  · rintro certificates? t ht ⟨hx, -, hview⟩
    rw [hcollected] at hx
    subst hx
    rcases certificates? with _ | _ | ⟨c, cs⟩
    · obtain rfl : before = goal := hgoal
      exact .pure fun _ => by rw [hview.elim id id]; rfl
    · obtain rfl : before = goal := hgoal
      exact .pure fun _ => by rw [hview.elim id id]; rfl
    · obtain rfl : some (refreshed ns (join (c :: cs)) before) = goal := hgoal
      refine (write_safe hrely hlets hrefl hbefore rfl hview).weaken fun x u _ hx => ?_
      rw [hx.1, hx.2]
      rfl
  · rintro e t _ ⟨hx, -, hview⟩
    rw [hcollected] at hx
    subst hx
    obtain rfl : before = goal := hgoal
    rw [hview.elim id id]
    rfl

end TrustBundle

end Workbench
