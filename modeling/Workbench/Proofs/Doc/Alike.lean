import Mathlib.Data.List.Nodup
import Workbench.Proofs.Doc.MergePatch
import Workbench.Proofs.Doc.Order

/-!
# Documents compared part by part

Documents are compared by forms in which the members of every object are sorted. When the members
have names of their own, this comes to looking at the parts: items by their places, members by their
names.

* `Doc.induct`: induction over the parts of a document;
* `sortMembers_eq_iff`: sorted members are the same when the look-ups are;
* `Doc.looseEq_obj_iff`, `Doc.same_obj_iff`: objects that are equal by value, and objects that are the
  same up to the order of members;
* **`Doc.alike_iff_same`**: `Doc.Alike` says without sorting that two documents are the same up to the
  order of members.
-/

namespace Workbench

open Doc

/-! ## Induction -/

/-- What holds of a document when it holds of its parts holds of every document. -/
@[elab_as_elim]
theorem Doc.induct {motive : Doc → Prop} (null : motive .null) (bool : ∀ b, motive (.bool b))
    (int : ∀ n, motive (.int n)) (real : ∀ r, motive (.real r)) (str : ∀ s, motive (.str s))
    (arr : ∀ ds, (∀ d ∈ ds, motive d) → motive (.arr ds))
    (obj : ∀ ms, (∀ m ∈ ms, motive m.2) → motive (.obj ms)) (d : Doc) : motive d :=
  @Doc.rec motive (fun ds => ∀ d ∈ ds, motive d) (fun ms => ∀ m ∈ ms, motive m.2)
    (fun m => motive m.2) null bool int real str arr obj (fun _ h => absurd h List.not_mem_nil)
    (fun _ _ hd hds => List.forall_mem_cons.mpr ⟨hd, hds⟩) (fun _ h => absurd h List.not_mem_nil)
    (fun _ _ hm hms => List.forall_mem_cons.mpr ⟨hm, hms⟩) (fun _ _ hd => hd) d

/-! ## Sorted members -/

section Sorted

variable {α β : Type} {ms ns : List (String × α)} {k : String} {v : α}

theorem perm_insertMember (m : String × α) : ∀ ms, (insertMember m ms).Perm (m :: ms)
  | [] => .refl _
  | n :: ms => by
    rw [insertMember]
    split
    · exact .refl _
    · exact ((perm_insertMember m ms).cons n).trans (.swap m n ms)

theorem perm_sortMembers : ∀ ms : List (String × α), (sortMembers ms).Perm ms
  | [] => .refl _
  | m :: ms => (perm_insertMember m _).trans ((perm_sortMembers ms).cons m)

theorem sorted_insertMember {m : String × α} : ∀ {ms : List (String × α)},
    ms.Pairwise (fun x y => x.1 ≤ y.1) → (insertMember m ms).Pairwise fun x y => x.1 ≤ y.1
  | [], _ => List.pairwise_singleton _ _
  | n :: ms, h => by
    obtain ⟨hn, hms⟩ := List.pairwise_cons.mp h
    rw [insertMember]
    split
    · next hlt =>
      refine List.pairwise_cons.mpr ⟨List.forall_mem_cons.mpr ⟨hlt.le, fun x hx => ?_⟩, h⟩
      exact hlt.le.trans (hn x hx)
    · next hle =>
      refine List.pairwise_cons.mpr ⟨fun x hx => ?_, sorted_insertMember hms⟩
      rcases List.mem_cons.mp ((perm_insertMember m ms).mem_iff.mp hx) with rfl | hx
      · exact not_lt.mp hle
      · exact hn x hx

theorem sorted_sortMembers : ∀ ms : List (String × α),
    (sortMembers ms).Pairwise fun x y => x.1 ≤ y.1
  | [] => .nil
  | _ :: ms => sorted_insertMember (sorted_sortMembers ms)

theorem lookup_eq_some_iff (h : Distinct ms) : ms.lookup k = some v ↔ (k, v) ∈ ms :=
  ⟨mem_of_lookup, fun hm => lookup_of_mem h hm⟩

theorem Distinct.perm (h : Distinct ms) (hperm : ms.Perm ns) : Distinct ns :=
  (hperm.map Prod.fst).nodup_iff.mp h

theorem lookup_perm (h : Distinct ms) (hperm : ms.Perm ns) : ns.lookup k = ms.lookup k := by
  refine Option.ext fun v => ?_
  rw [lookup_eq_some_iff h, lookup_eq_some_iff (h.perm hperm), hperm.mem_iff]

/-- **Sorted members are the same when the look-ups are.** -/
theorem sortMembers_eq_iff (h : Distinct ms) (h' : Distinct ns) :
    sortMembers ms = sortMembers ns ↔ ∀ k, ms.lookup k = ns.lookup k := by
  constructor
  · intro heq k
    rw [← lookup_perm h (perm_sortMembers ms).symm, heq, lookup_perm h' (perm_sortMembers ns).symm]
  · intro hlookup
    have hmem : ∀ m, m ∈ ms ↔ m ∈ ns := fun m => by
      rw [← lookup_eq_some_iff h, ← lookup_eq_some_iff h', hlookup]
    have hperm : ms.Perm ns :=
      (List.perm_ext_iff_of_nodup (List.Nodup.of_map _ h) (List.Nodup.of_map _ h')).mpr hmem
    refine List.Perm.eq_of_pairwise (fun m n hm hn hle hge => ?_) (sorted_sortMembers ms)
      (sorted_sortMembers ns) (((perm_sortMembers ms).trans hperm).trans (perm_sortMembers ns).symm)
    -- Two members of one name are one member.
    have hname : m.1 = n.1 := le_antisymm hle hge
    have hm' := lookup_of_mem h' ((hmem m).mp ((perm_sortMembers ms).mem_iff.mp hm))
    have hn' := lookup_of_mem h' ((perm_sortMembers ns).mem_iff.mp hn)
    rw [hname, hn', Option.some.injEq] at hm'
    exact Prod.ext hname hm'.symm

theorem lookup_map_snd (f : α → β) : ∀ ms : List (String × α),
    (ms.map fun m => (m.1, f m.2)).lookup k = (ms.lookup k).map f
  | [] => rfl
  | (j, v) :: ms => by
    rw [List.map_cons, lookup_cons_eq_ite, lookup_cons_eq_ite, lookup_map_snd f ms]
    split_ifs <;> rfl

theorem Distinct.map_snd (h : Distinct ms) (f : α → β) :
    Distinct (ms.map fun m => (m.1, f m.2)) := by
  rw [Distinct, List.map_map]
  exact h

end Sorted

/-! ## Objects -/

namespace Doc

variable {d e : Doc} {ds es : List Doc} {ms ns : List Member}

theorem isProper_of_lookup {k : String} {v : Doc} (h : (obj ms).isProper = true)
    (hk : ms.lookup k = some v) : v.isProper = true :=
  (isProper_obj.mp h).2 _ (mem_of_lookup hk)

/-- Objects are equal by value when they have members of the same names, and these are equal. -/
theorem looseEq_obj_iff (hms : Distinct ms) (hns : Distinct ns) :
    (obj ms).looseEq (.obj ns) = true ↔
      ∀ k, (ms.lookup k).map loosen = (ns.lookup k).map loosen := by
  rw [looseEq_iff, loosen, fold_obj, fold_obj, Doc.obj.injEq,
    sortMembers_eq_iff (hms.map_snd _) (hns.map_snd _)]
  exact forall_congr' fun k => by rw [lookup_map_snd, lookup_map_snd]

/-- Objects are the same up to the order of members when what is looked up is. -/
theorem same_obj_iff (hms : Distinct ms) (hns : Distinct ns) : (obj ms).same (.obj ns) = true ↔
    ∀ k, (ms.lookup k).map ordered = (ns.lookup k).map ordered := by
  rw [same_iff, ordered, fold_obj, fold_obj, Doc.obj.injEq,
    sortMembers_eq_iff (hms.map_snd _) (hns.map_snd _)]
  exact forall_congr' fun k => by rw [lookup_map_snd, lookup_map_snd]

theorem ordered_arr (ds : List Doc) : (arr ds).ordered = .arr (ds.map ordered) := fold_arr _ ds

/-! ## The same document -/

/-- The same document, whatever the order of members: equal parts stand in the same places of lists,
and under the same names of objects. -/
inductive Alike : Doc → Doc → Prop where
  | refl (d : Doc) : Alike d d
  | arr {ds es : List Doc} (length : ds.length = es.length)
    (items : ∀ (i : Nat) d e, ds[i]? = some d → es[i]? = some e → Alike d e) :
    Alike (.arr ds) (.arr es)
  | obj {ms ns : List Member} (names : ∀ k, (ms.lookup k).isSome = (ns.lookup k).isSome)
    (values : ∀ k v w, ms.lookup k = some v → ns.lookup k = some w → Alike v w) :
    Alike (.obj ms) (.obj ns)

theorem same_of_alike (h : Alike d e) : d.isProper = true → e.isProper = true → d.same e = true := by
  induction h with
  | refl d => exact fun _ _ => same_self d
  | @arr ds es hlength _ ih =>
    intro hd he
    rw [same_iff, ordered_arr, ordered_arr, Doc.arr.injEq]
    refine List.ext_getElem (by simpa using hlength) fun i hi hi' => ?_
    rw [List.length_map] at hi hi'
    rw [List.getElem_map, List.getElem_map]
    exact same_iff.mp (ih i _ _ (List.getElem?_eq_getElem hi) (List.getElem?_eq_getElem hi')
      (isProper_arr.mp hd _ (List.getElem_mem hi)) (isProper_arr.mp he _ (List.getElem_mem hi')))
  | @obj ms ns names _ ih =>
    intro hd he
    refine (same_obj_iff (isProper_obj.mp hd).1 (isProper_obj.mp he).1).mpr fun k => ?_
    have hk := names k
    cases hv : ms.lookup k with
    | none =>
      rw [hv] at hk
      rw [Option.isNone_iff_eq_none.mp (Option.isSome_eq_false_iff.mp hk.symm)]
    | some v =>
      rw [hv] at hk
      obtain ⟨w, hw⟩ := Option.isSome_iff_exists.mp hk.symm
      rw [hw]
      exact congrArg some (same_iff.mp
        (ih k v w hv hw (isProper_of_lookup hd hv) (isProper_of_lookup he hw)))

theorem eq_of_same_of_key? (hd : d.key?.isSome) (h : d.same e = true) : d = e := by
  cases d <;> cases e <;> simp_all [key?, same, ordered, fold, Fold.rebuild]

theorem alike_of_same : ∀ {e : Doc}, d.isProper = true → e.isProper = true → d.same e = true →
    Alike d e := by
  induction d using Doc.induct with
  | arr ds ih =>
    intro e hd he h
    cases e with
    | arr es =>
      rw [same_iff, ordered_arr, ordered_arr, Doc.arr.injEq] at h
      refine .arr (by simpa using congrArg List.length h) fun i d e hi hi' => ?_
      have hitem : (ds.map ordered)[i]? = (es.map ordered)[i]? := congrArg (·[i]?) h
      rw [List.getElem?_map, List.getElem?_map, hi, hi'] at hitem
      have hmem := List.mem_of_getElem? hi
      exact ih d hmem (isProper_arr.mp hd d hmem) (isProper_arr.mp he e (List.mem_of_getElem? hi'))
        (same_iff.mpr (Option.some.inj hitem))
    | _ => simp [same, ordered, fold, Fold.rebuild] at h
  | obj ms ih =>
    intro e hd he h
    cases e with
    | obj ns =>
      rw [same_obj_iff (isProper_obj.mp hd).1 (isProper_obj.mp he).1] at h
      refine .obj (fun k => ?_) fun k v w hv hw => ?_
      · rw [← Option.isSome_map, h k, Option.isSome_map]
      · have hk := h k
        rw [hv, hw] at hk
        exact ih _ (mem_of_lookup hv) (isProper_of_lookup hd hv) (isProper_of_lookup he hw)
          (same_iff.mpr (Option.some.inj hk))
    | _ => simp [same, ordered, fold, Fold.rebuild] at h
  | _ => exact fun _ _ h => eq_of_same_of_key? rfl h ▸ .refl _

/-- **Documents are the same up to the order of members when their parts are.** -/
theorem alike_iff_same (hd : d.isProper = true) (he : e.isProper = true) :
    Alike d e ↔ d.same e = true :=
  ⟨fun h => same_of_alike h hd he, alike_of_same hd he⟩

end Doc

end Workbench
