import Workbench.Proofs.Doc.MergePatch
import Workbench.Proofs.Doc.Places

/-!
# Which places a merge patch changes

A merge patch changes a document at the places that it says something about, whatever the document
is, and leaves the others alone.

* `Place.ofNames`: a way through members only;
* `Doc.Tells`, `Doc.IsSilent`: what a patch says about a place, and places that it says nothing about;
* **`Doc.at?_merge_of_tells`**, **`Doc.at?_merge_of_isSilent`**: what is at such places afterwards;
* `Doc.SameNamed`: two documents that are the same at all such places apart from some;
* `Doc.Focuses`: a patch that speaks of one part of a document; `Doc.focuses_mergePatch` says that the
  patch from one object to another does when they differ in one part.
-/

namespace Workbench

/-- The way through members with these names. -/
def Place.ofNames (names : List String) : Place := names.map .member

namespace Doc

variable {d e f v : Doc} {ps : List Member} {k : String} {names rest : List String}

/-- The patch says `v` about a place. -/
def Tells : Doc → List String → Doc → Prop
  | patch, [], v => patch = v
  | patch, k :: rest, v =>
    ∃ ps q, patch = .obj ps ∧ Distinct ps ∧ ps.lookup k = some q ∧ Tells q rest v

/-- The patch says nothing about a place, or anything inside it or around it. -/
def IsSilent : Doc → List String → Prop
  | _, [] => False
  | patch, k :: rest =>
    ∃ ps, patch = .obj ps ∧ Distinct ps ∧ ∀ q, ps.lookup k = some q → IsSilent q rest

theorem tells_member (hps : Distinct ps) (hk : ps.lookup k = some v) : (obj ps).Tells [k] v :=
  ⟨ps, v, rfl, hps, hk, rfl⟩

theorem isSilent_member (hps : Distinct ps) (hk : ps.lookup k = none) :
    (obj ps).IsSilent (k :: rest) := by
  refine ⟨ps, rfl, hps, fun q hq => ?_⟩
  rw [hk] at hq
  cases hq

theorem isSilent_of_apart {ks : List String} (hks : ks ≠ []) (hps : Distinct ps)
    (hothers : ∀ j, j ∉ ks → ps.lookup j = none)
    (hnames : ∀ j ∈ ks, Place.Apart (Place.ofNames [j]) (Place.ofNames names)) :
    (obj ps).IsSilent names := by
  match names, hnames with
  | [], hnames =>
    obtain ⟨j, hj⟩ := List.exists_mem_of_ne_nil ks hks
    exact absurd rfl (hnames j hj).ne_nil
  | j :: rest, hnames => exact isSilent_member hps (hothers j fun hj => (hnames j hj).1 ⟨_, rfl⟩)

theorem at?_cons (d : Doc) (k : String) (rest : List String) : d.at? (Place.ofNames (k :: rest)) =
    (d.membersOrNone.lookup k).bind (at? (Place.ofNames rest)) := by
  cases d <;> rfl

theorem at?_merge_cons {patch : Doc} (hpatch : patch = .obj ps) (hps : Distinct ps) :
    (d.merge patch).at? (Place.ofNames (k :: rest)) =
      (match ps.lookup k with
        | none => d.membersOrNone.lookup k
        | some .null => none
        | some q => some (merge ((d.membersOrNone.lookup k).getD .null) q)).bind
          (at? (Place.ofNames rest)) := by
  subst hpatch
  rw [at?_cons]
  refine (congrArg (·.bind (at? (Place.ofNames rest))) (lookup_mergeMembers hps)).trans ?_
  cases ps.lookup k with
  | none => rfl
  | some q => cases q <;> rfl

/-- **What a patch says about a place is there afterwards**, and a null takes away what was there. -/
theorem at?_merge_of_tells (hv : v.isObj = false) : ∀ {rest : List String} {k : String}
    {patch d : Doc}, patch.Tells (k :: rest) v →
      (d.merge patch).at? (Place.ofNames (k :: rest)) = if v = .null then none else some v
  | [], k, patch, d, h => by
    obtain ⟨ps, q, hpatch, hps, hq, rfl⟩ := h
    rw [at?_merge_cons hpatch hps, hq]
    cases q <;> first | rfl | cases hv
  | j :: rest, k, patch, d, h => by
    obtain ⟨ps, q, hpatch, hps, hq, hrest⟩ := h
    obtain ⟨qs, _, rfl, -⟩ := id hrest
    rw [at?_merge_cons hpatch hps, hq]
    exact at?_merge_of_tells hv hrest

/-- **A patch leaves a place alone that it says nothing about.** -/
theorem at?_merge_of_isSilent : ∀ {names : List String} {patch d : Doc}, patch.IsSilent names →
    (d.merge patch).at? (Place.ofNames names) = d.at? (Place.ofNames names)
  | [], _, _, h => h.elim
  | k :: rest, patch, d, h => by
    obtain ⟨ps, hpatch, hps, hrest⟩ := h
    rw [at?_merge_cons hpatch hps, at?_cons]
    cases hq : ps.lookup k with
    | none => rfl
    | some q =>
      have hsilent := hrest q hq
      match rest, hsilent with
      | j :: rest, hsilent =>
        obtain ⟨qs, rfl, -⟩ := id hsilent
        change at? _ (merge _ _) = _
        rw [at?_merge_of_isSilent hsilent]
        cases d.membersOrNone.lookup k <;> rfl

/-- Two documents that are the same at all places of names apart from some. -/
def SameNamed (places : List (List String)) (d e : Doc) : Prop :=
  ∀ names, (∀ q ∈ places, Place.Apart (Place.ofNames q) (Place.ofNames names)) →
    e.at? (Place.ofNames names) = d.at? (Place.ofNames names)

/-! ## Patches of one part -/

/-- The patch speaks of one part of a document alone, and `q` is the patch for that part. -/
def Focuses : Doc → List String → Doc → Prop
  | patch, [], q => patch = q
  | patch, k :: way, q => ∃ ps p, patch = .obj ps ∧ Distinct ps ∧ ps.lookup k = some p ∧
    (∀ j, j ≠ k → ps.lookup j = none) ∧ Focuses p way q

theorem Focuses.tells {q : Doc} (hq : q.Tells names v) : ∀ {way : List String} {patch : Doc},
    patch.Focuses way q → patch.Tells (way ++ names) v
  | [], patch, h => by
    obtain rfl : patch = q := h
    exact hq
  | _ :: _, patch, h => by
    obtain ⟨ps, p, hpatch, hps, hk, -, hway⟩ := h
    exact ⟨ps, p, hpatch, hps, hk, hway.tells hq⟩

theorem Focuses.isSilent {q : Doc} (hq : q.IsSilent names) : ∀ {way : List String} {patch : Doc},
    patch.Focuses way q → patch.IsSilent (way ++ names)
  | [], patch, h => by
    obtain rfl : patch = q := h
    exact hq
  | k :: way, patch, h => by
    obtain ⟨ps, p, hpatch, hps, hk, -, hway⟩ := h
    refine ⟨ps, hpatch, hps, fun p' hp' => ?_⟩
    obtain rfl : p = p' := by simpa [hk] using hp'
    exact hway.isSilent hq

theorem Focuses.isSilent_of_apart {ks : List String} (hks : ks ≠ []) (hps : Distinct ps)
    (hothers : ∀ j, j ∉ ks → ps.lookup j = none) : ∀ {way : List String} {patch : Doc}
    {names : List String}, patch.Focuses way (.obj ps) →
      (∀ j ∈ ks, Place.Apart (Place.ofNames (way ++ [j])) (Place.ofNames names)) →
        patch.IsSilent names
  | [], patch, names, h, hnames => by
    obtain rfl : patch = .obj ps := h
    exact Doc.isSilent_of_apart hks hps hothers hnames
  | k :: way, patch, [], _, hnames => by
    obtain ⟨j, hj⟩ := List.exists_mem_of_ne_nil ks hks
    exact absurd rfl (hnames j hj).ne_nil
  | k :: way, patch, j :: rest, h, hnames => by
    obtain ⟨qs, p, hpatch, hqs, hk, hqothers, hway⟩ := h
    refine ⟨qs, hpatch, hqs, fun p' hp' => ?_⟩
    by_cases hj : j = k
    · subst hj
      obtain rfl : p = p' := by simpa [hk] using hp'
      exact hway.isSilent_of_apart hks hps hothers fun i hi => (hnames i hi).of_cons
    · rw [hqothers j hj] at hp'
      cases hp'

/-- The patch for an object with another object inside speaks of that object alone. -/
theorem focuses_mergePatch {ms s s' : List Member} {way : List String} {q : Doc}
    (hproper : (Doc.obj ms).isProper = true) (hk : ms.lookup k = some (.obj s))
    (hne : mergePatch s s' ≠ []) (hway : (obj (mergePatch s s')).Focuses way q) :
    (obj (mergePatch ms (setMember k (.obj s') ms))).Focuses (k :: way) q := by
  obtain ⟨hms, hvalues⟩ := isProper_obj.mp hproper
  have hms' := distinct_setMember (k := k) (.obj s') hms
  refine ⟨_, _, rfl, distinct_mergePatch hms hms', ?_, fun j hj => ?_, hway⟩
  · rw [lookup_mergePatch_of_obj hms' hk (lookup_setMember_self _ _ _), if_neg]
    rwa [List.isEmpty_iff]
  · exact lookup_mergePatch_of_eq hms' (by rw [lookup_setMember, if_neg hj]) hvalues

theorem focuses_member {p q : Doc} {way : List String} (h : p.Focuses way q) :
    (obj [(k, p)]).Focuses (k :: way) q := by
  refine ⟨_, p, rfl, List.pairwise_singleton _ _, by rw [lookup_cons_eq_ite, if_pos rfl], ?_, h⟩
  intro j hj
  rw [lookup_cons_eq_ite, if_neg hj]
  rfl

theorem Focuses.ne_nil {ps : List Member} {way : List String} {q : Doc}
    (h : (obj ps).Focuses (k :: way) q) : ps ≠ [] := by
  obtain ⟨_, p, hps, -, hk, -⟩ := h
  rintro rfl
  cases hps
  cases hk

end Doc

end Workbench
