import Workbench.Proofs.Doc.Alike
import Workbench.Proofs.Doc.Patched

/-!
# Merge patches as differences

The merge patch from one object to another says how they differ. Laid over the first, it makes the
second of it, as far as a merge patch can: a null in a patch takes a member away, so it cannot put a
null where there was none.

* `Doc.IsJson`: the documents that JSON can write;
* `Doc.KeepsNulls`: every null of a document was there before; `Doc.nullPlaces` finds them;
* `lookup_patched_gone`, `loosen_patched_new`, `loosen_patched_flat`: what is there after the patch, for
  a member that goes, that comes, and that is replaced as a whole;
* `looseEq_merge_mergePatch`, `mergePatch_eq_nil_iff`: what the patch makes, and when there is none;
* **`merge_mergePatch`**: both.
-/

namespace Workbench

open Doc

namespace Doc

variable {d e v w : Doc} {ms ns : List Member} {k : String}

/-! ## Documents in JSON -/

/-- Every real of a document is a number. What is not a number equals nothing when it is compared on
its own. -/
def isNumeric : Doc → Bool :=
  fold {
    null := true
    bool := fun _ => true
    int := fun _ => true
    real := fun r => r != .nan
    str := fun _ => true
    arr := fun items => items.all id
    obj := fun ms => ms.all Prod.snd }

/-- A document that JSON can write: the members of every object have names of their own, and every
real is a number. The infinities are let pass. -/
structure IsJson (d : Doc) : Prop where
  proper : d.isProper = true
  numeric : d.isNumeric = true

/-! ## Nulls -/

/-- A null that is reached through objects is one of the first document, too. -/
def KeepsNulls (d e : Doc) : Prop := ∀ names : List String,
  e.at? (Place.ofNames names) = some .null → d.at? (Place.ofNames names) = some .null

theorem at?_obj_cons (ms : List Member) (k : String) (rest : List String) :
    (obj ms).at? (Place.ofNames (k :: rest)) = (ms.lookup k).bind (at? (Place.ofNames rest)) := rfl

theorem KeepsNulls.lookup (h : KeepsNulls (.obj ms) (.obj ns)) (hk : ns.lookup k = some .null) :
    ms.lookup k = some .null := by
  have hnull := h [k]
  rw [at?_obj_cons, at?_obj_cons, hk, Option.bind_some] at hnull
  obtain ⟨v, hv, hv'⟩ := Option.bind_eq_some_iff.mp (hnull rfl)
  cases hv'
  exact hv

theorem KeepsNulls.member (h : KeepsNulls (.obj ms) (.obj ns)) (hv : ms.lookup k = some v)
    (hw : ns.lookup k = some w) : KeepsNulls v w := by
  intro names hnull
  have hnames := h (k :: names)
  rw [at?_obj_cons, at?_obj_cons, hv, hw] at hnames
  exact hnames hnull

/-- No null is reached through objects. -/
def HasNoNull (d : Doc) : Prop := ∀ names : List String, d.at? (Place.ofNames names) ≠ some .null

theorem HasNoNull.member (h : HasNoNull (.obj ms)) (hv : ms.lookup k = some v) : HasNoNull v := by
  intro names hnull
  refine h (k :: names) ?_
  rwa [at?_obj_cons, hv]

theorem HasNoNull.ne_null (h : HasNoNull d) : d ≠ .null := fun heq => h [] (congrArg some heq)

theorem KeepsNulls.hasNoNull_new (h : KeepsNulls (.obj ms) (.obj ns)) (hv : ms.lookup k = none)
    (hw : ns.lookup k = some w) : HasNoNull w := by
  intro names hnull
  have hnames := h (k :: names)
  rw [at?_obj_cons, at?_obj_cons, hv, hw] at hnames
  cases hnames hnull

theorem KeepsNulls.hasNoNull_obj (h : KeepsNulls d (.obj ns)) (hd : d.isObj = false) :
    HasNoNull (.obj ns) := by
  intro names hnull
  have hnames := h names hnull
  cases names with
  | nil => cases hnull
  | cons k rest =>
    cases d with
    | obj ms => cases hd
    | _ => cases hnames

/-- The ways through members that end at a null. -/
def nullPlaces : Doc → List (List String) :=
  fold {
    null := [[]]
    bool := fun _ => []
    int := fun _ => []
    real := fun _ => []
    str := fun _ => []
    arr := fun _ => []
    obj := fun ms => ms.flatMap fun m => m.2.map (m.1 :: ·) }

theorem mem_nullPlaces : ∀ {names : List String} {d : Doc},
    d.at? (Place.ofNames names) = some .null → names ∈ d.nullPlaces
  | [], d, h => by
    cases h
    exact List.mem_singleton_self []
  | k :: rest, d, h => by
    cases d with
    | obj ms =>
      obtain ⟨v, hv, hrest⟩ := Option.bind_eq_some_iff.mp h
      rw [nullPlaces, fold_obj]
      refine List.mem_flatMap.mpr ⟨(k, v.nullPlaces), ?_, List.mem_map_of_mem (mem_nullPlaces hrest)⟩
      exact List.mem_map_of_mem (mem_of_lookup hv)
    | _ => cases h

theorem keepsNulls_of_nullPlaces
    (h : ∀ names ∈ e.nullPlaces, d.at? (Place.ofNames names) = some .null) : KeepsNulls d e :=
  fun names hnull => h names (mem_nullPlaces hnull)

end Doc

variable {before after target patch : List Member} {k : String} {d v w : Doc}

/-! ## Patches over objects -/

theorem lookup_mergeMembers_null (h : Distinct patch) (hk : patch.lookup k = some .null) :
    (mergeMembers target patch).lookup k = none := by
  rw [lookup_mergeMembers h, hk]

theorem lookup_mergeMembers_some (h : Distinct patch) (hk : patch.lookup k = some d)
    (hd : d ≠ .null) :
    (mergeMembers target patch).lookup k = some (merge ((target.lookup k).getD .null) d) := by
  rw [lookup_mergeMembers h, hk]
  cases d with
  | null => exact absurd rfl hd
  | _ => rfl

theorem distinct_nil {α : Type} : Distinct ([] : List (String × α)) := List.nodup_nil

theorem distinct_dropMember {α : Type} {ms : List (String × α)} (h : Distinct ms) :
    Distinct (dropMember k ms) := h.sublist (List.filter_sublist.map Prod.fst)

theorem distinct_mergeMembers (patch : List Member) : ∀ {target : List Member}, Distinct target →
    Distinct (mergeMembers target patch) := by
  induction patch with
  | nil => exact fun h => h
  | cons m patch ih =>
    obtain ⟨k, d⟩ := m
    intro target h
    refine ih ?_
    cases d with
    | null => exact distinct_dropMember h
    | _ => exact distinct_setMember _ h

theorem membersOrNone_of_isObj (hd : d.isObj = false) : d.membersOrNone = [] := by
  cases d with
  | obj _ => cases hd
  | _ => rfl

theorem loosen_merge_of_bare {target : Doc} (htarget : target.membersOrNone = []) :
    d.isProper = true → HasNoNull d → (target.merge d).loosen = d.loosen := by
  induction d using Doc.induct generalizing target with
  | obj ms ih =>
    intro hproper hnull
    obtain ⟨hms, -⟩ := isProper_obj.mp hproper
    rw [← looseEq_iff, merge, htarget,
      looseEq_obj_iff (distinct_mergeMembers _ distinct_nil) hms]
    intro k
    cases hk : ms.lookup k with
    | none => rw [lookup_mergeMembers_of_none hk, List.lookup_nil]
    | some v =>
      have hv := hnull.member hk
      rw [lookup_mergeMembers_some hms hk hv.ne_null]
      exact congrArg some
        (ih _ (mem_of_lookup hk) rfl (isProper_of_lookup hproper hk) hv)
  | _ => exact fun _ _ => rfl

/-! ## What the patch makes -/

theorem objects_or_flat (v w : Doc) :
    (∃ s s', v = .obj s ∧ w = .obj s') ∨ v.isObj = false ∨ w.isObj = false := by
  cases v <;> cases w <;> simp [isObj]

section Makes

variable (hb : Distinct before) (ha : Distinct after)

include hb ha

/-- A member that goes is not there afterwards. -/
theorem lookup_patched_gone (hw : after.lookup k = none) :
    (mergeMembers before (mergePatch before after)).lookup k = none := by
  have hgone : (mergePatch before after).lookup k =
      if (before.lookup k).isSome then some .null else none := lookup_mergePatch_gone ha hw
  cases hv : before.lookup k with
  | none =>
    rw [hv, Option.isSome_none, if_neg Bool.false_ne_true] at hgone
    rw [lookup_mergeMembers_of_none hgone, hv]
  | some v =>
    rw [hv, Option.isSome_some, if_pos rfl] at hgone
    rw [lookup_mergeMembers_null (distinct_mergePatch hb ha) hgone]

variable (hnulls : KeepsNulls (.obj before) (.obj after))

include hnulls

/-- A member that comes is there. -/
theorem loosen_patched_new (hv : before.lookup k = none) (hw : after.lookup k = some w)
    (hproper : w.isProper = true) :
    ((mergeMembers before (mergePatch before after)).lookup k).map loosen = some w.loosen := by
  have hnone := hnulls.hasNoNull_new hv hw
  rw [lookup_mergeMembers_some (distinct_mergePatch hb ha) (lookup_mergePatch_new ha hv hw)
    hnone.ne_null, hv]
  exact congrArg some (loosen_merge_of_bare rfl hproper hnone)

/-- So is one that is replaced as a whole, or stays. -/
theorem loosen_patched_flat (hv : before.lookup k = some v) (hw : after.lookup k = some w)
    (hproper : w.isProper = true) (hflat : v.isObj = false ∨ w.isObj = false) :
    ((mergeMembers before (mergePatch before after)).lookup k).map loosen = some w.loosen := by
  have hsays := lookup_mergePatch_flat ha hv hw hflat
  by_cases hloose : v.looseEq w = true
  · rw [if_pos hloose] at hsays
    rw [lookup_mergeMembers_of_none hsays, hv]
    exact congrArg some (looseEq_iff.mp hloose)
  rw [if_neg hloose] at hsays
  have hne : w ≠ .null := by
    rintro rfl
    rw [hnulls.lookup hw, Option.some.injEq] at hv
    exact hloose (hv ▸ looseEq_self _)
  rw [lookup_mergeMembers_some (distinct_mergePatch hb ha) hsays hne, hv]
  refine congrArg some ?_
  cases w with
  | obj s' =>
    -- What was there is no object, so the patch starts from nothing.
    have hbare := hflat.resolve_right (by simp [isObj])
    exact loosen_merge_of_bare (membersOrNone_of_isObj hbare) hproper
      ((hnulls.member hv hw).hasNoNull_obj hbare)
  | _ => rfl

end Makes

/-- **The patch makes the second object of the first.** -/
theorem looseEq_merge_mergePatch : ∀ {before after : List Member}, d = .obj after →
    (obj before).isProper = true → (obj after).isProper = true →
      KeepsNulls (.obj before) (.obj after) →
        ((obj before).merge (.obj (mergePatch before after))).looseEq (.obj after) = true := by
  induction d using Doc.induct with
  | obj ns ih =>
    rintro before _ ⟨⟩ hbefore hafter hnulls
    obtain ⟨hb, -⟩ := isProper_obj.mp hbefore
    obtain ⟨ha, -⟩ := isProper_obj.mp hafter
    refine (looseEq_obj_iff (distinct_mergeMembers _ hb) ha).mpr fun k => ?_
    cases hw : ns.lookup k with
    | none => exact congrArg _ (lookup_patched_gone hb ha hw)
    | some w =>
      have hproper := isProper_of_lookup hafter hw
      cases hv : before.lookup k with
      | none => exact loosen_patched_new hb ha hnulls hv hw hproper
      | some v =>
        rcases objects_or_flat v w with ⟨s, s', rfl, rfl⟩ | hflat
        · -- Objects are patched member by member.
          have hinner := ih _ (mem_of_lookup hw) rfl (isProper_of_lookup hbefore hv) hproper
            (hnulls.member hv hw)
          exact (congrArg _ (lookup_merge_of_obj hb ha hv hw)).trans
            (congrArg some (looseEq_iff.mp hinner))
        · exact loosen_patched_flat hb ha hnulls hv hw hproper hflat
  | _ => rintro _ _ ⟨⟩

/-! ## Patches as differences -/

theorem eq_nil_iff_lookup {α : Type} {ms : List (String × α)} :
    ms = [] ↔ ∀ k, ms.lookup k = none := by
  constructor
  · rintro rfl k
    rfl
  · intro h
    cases ms with
    | nil => rfl
    | cons m ms =>
      have hm := h m.1
      rw [lookup_cons_eq_ite, if_pos rfl] at hm
      cases hm

/-- **There is nothing to patch between equal objects**, and between no others. -/
theorem mergePatch_eq_nil_iff : ∀ {before after : List Member}, d = .obj after →
    (obj before).isProper = true → (obj after).isProper = true →
      (mergePatch before after = [] ↔ (obj before).looseEq (.obj after) = true) := by
  induction d using Doc.induct with
  | obj ns ih =>
    rintro before _ ⟨⟩ hbefore hafter
    obtain ⟨ha, -⟩ := isProper_obj.mp hafter
    rw [eq_nil_iff_lookup, looseEq_obj_iff (isProper_obj.mp hbefore).1 ha]
    refine forall_congr' fun k => ?_
    cases hw : ns.lookup k with
    | none =>
      rw [lookup_mergePatch_gone ha hw]
      cases before.lookup k <;> simp
    | some w =>
      cases hv : before.lookup k with
      | none => simp [lookup_mergePatch_new ha hv hw]
      | some v =>
        rcases objects_or_flat v w with ⟨s, s', rfl, rfl⟩ | hflat
        · have hinner := ih _ (mem_of_lookup hw) rfl (isProper_of_lookup hbefore hv)
            (isProper_of_lookup hafter hw)
          rw [lookup_mergePatch_of_obj ha hv hw]
          simpa [looseEq_iff] using hinner
        · rw [lookup_mergePatch_flat ha hv hw hflat]
          simp [looseEq_iff]
  | _ => rintro _ _ ⟨⟩

/-- **A merge patch is the difference of two objects.** Laid over the first it makes the second, when
it does not have to put a null where there was none; and it is empty just when the two are equal. -/
theorem merge_mergePatch (hb : (obj before).IsJson) (ha : (obj after).IsJson) :
    (KeepsNulls (.obj before) (.obj after) →
      ((obj before).merge (.obj (mergePatch before after))).looseEq (.obj after) = true) ∧
    (mergePatch before after = [] ↔ (obj before).looseEq (.obj after) = true) :=
  ⟨looseEq_merge_mergePatch rfl hb.proper ha.proper, mergePatch_eq_nil_iff rfl hb.proper ha.proper⟩

/-! ### An object that is changed in many ways -/

/-- The members before: some stay, some go, and two are null. -/
def membersBefore : List Member := [
  ("name", "wb"),
  ("replicas", 1),
  ("owner", .null),
  ("gone", .arr [1, .null]),
  ("size", "small"),
  ("spec", .obj [("note", .null), ("limits", .obj [("cpu", 1)]), ("old", "x")])]

/-- The members afterwards, in another order. The nulls are the same, apart from one in a list. -/
def membersAfter : List Member := [
  ("owner", .null),
  ("spec", .obj [("limits", .obj [("cpu", 2), ("items", .arr [.null])]), ("note", .null)]),
  ("size", .obj [("cpu", 1), ("more", .empty)]),
  ("replicas", true),
  ("name", "wb"),
  ("label", .obj [("app", "wb")])]

/-- The patch makes the members afterwards of those before. -/
theorem membersBefore_patched : (obj membersBefore).IsJson ∧ (obj membersAfter).IsJson ∧
    KeepsNulls (.obj membersBefore) (.obj membersAfter) ∧
    ((obj membersBefore).merge (.obj (mergePatch membersBefore membersAfter))).looseEq
      (.obj membersAfter) = true ∧
    mergePatch membersBefore membersAfter ≠ [] ∧
    (obj membersBefore).looseEq (.obj membersAfter) = false := by
  have hb : (obj membersBefore).IsJson := ⟨by decide, by decide⟩
  have ha : (obj membersAfter).IsJson := ⟨by decide, by decide⟩
  have hnulls : KeepsNulls (.obj membersBefore) (.obj membersAfter) :=
    keepsNulls_of_nullPlaces (by decide)
  obtain ⟨hmakes, hnone⟩ := merge_mergePatch hb ha
  have hne : mergePatch membersBefore membersAfter ≠ [] := by decide
  exact ⟨hb, ha, hnulls, hmakes hnulls, hne, Bool.eq_false_iff.mpr fun h => hne (hnone.mpr h)⟩

end Workbench
