import Workbench.Doc.MergePatch
import Workbench.Proofs.Doc.Loose

/-!
# What a merge patch does

* `Doc.isProper`: the members of every object have names of their own;
* `lookup_mergeMembers`, `mergeMembers_setMember`: the members of an object that a patch was laid
  over, and those that the patch says nothing about;
* `valuePatch_self`: nothing has to be patched in what stays as it is;
* `lookup_mergePatch_of_obj`, `lookup_mergePatch_gone`, `lookup_mergePatch_new`,
  `lookup_mergePatch_flat`: what the patch from one object to another says about an object inside, and
  about a member that goes, that comes, and that is replaced as a whole;
* `lookup_merge_of_obj`, `lookup_merge_of_arr`: the members of the object that was patched;
* `lookup_mergePatch_of_eq`: the patch says nothing about a member that stays as it is.
-/

namespace Workbench

open Doc

/-! ## Proper documents -/

/-- The members have names of their own. -/
def Distinct {α : Type} (ms : List (String × α)) : Prop := (ms.map Prod.fst).Nodup

/-- The members of every object of a document have names of their own. -/
def Doc.isProper : Doc → Bool :=
  fold {
    null := true
    bool := fun _ => true
    int := fun _ => true
    real := fun _ => true
    str := fun _ => true
    arr := fun items => items.all id
    obj := fun ms => decide (ms.map Prod.fst).Nodup && ms.all Prod.snd }

theorem Doc.isProper_arr {ds : List Doc} :
    (arr ds).isProper = true ↔ ∀ d ∈ ds, d.isProper = true := by
  simp only [Doc.isProper, fold_arr, List.all_map, List.all_eq_true]
  rfl

theorem Doc.isProper_obj {ms : List Member} :
    (obj ms).isProper = true ↔ Distinct ms ∧ ∀ m ∈ ms, m.2.isProper = true := by
  simp only [Doc.isProper, fold_obj, Bool.and_eq_true, decide_eq_true_eq, List.all_map,
    List.all_eq_true, List.map_map, Distinct]
  rfl

variable {ms ns target : List Member} {k : String} {d : Doc}

theorem lookup_of_mem {α : Type} {ms : List (String × α)} (h : Distinct ms) {m : String × α}
    (hm : m ∈ ms) : ms.lookup m.1 = some m.2 := by
  induction ms with
  | nil => cases hm
  | cons n ms ih =>
    obtain ⟨j, v⟩ := n
    obtain ⟨hj, hms⟩ := List.nodup_cons.mp h
    rw [lookup_cons_eq_ite]
    rcases List.mem_cons.mp hm with rfl | hmem
    · rw [if_pos rfl]
    · have hne : m.1 ≠ j := by
        rintro rfl
        exact hj (List.mem_map.mpr ⟨m, hmem, rfl⟩)
      rw [if_neg hne, ih hms hmem]

theorem mem_of_lookup {α : Type} {ms : List (String × α)} {v : α} (h : ms.lookup k = some v) :
    (k, v) ∈ ms := by
  induction ms with
  | nil => cases h
  | cons n ms ih =>
    obtain ⟨j, w⟩ := n
    rw [lookup_cons_eq_ite] at h
    split_ifs at h with hk
    · cases h
      exact hk ▸ List.mem_cons_self
    · exact List.mem_cons_of_mem _ (ih h)

theorem lookup_eq_none_iff {α : Type} {ms : List (String × α)} :
    ms.lookup k = none ↔ k ∉ ms.map Prod.fst := by
  induction ms with
  | nil => simp
  | cons n ms ih =>
    obtain ⟨j, w⟩ := n
    rw [lookup_cons_eq_ite]
    split_ifs with hk
    · simp [hk]
    · simp [ih, hk]

theorem names_setMember {α : Type} (v : α) (ms : List (String × α)) : ∀ j,
    j ∈ (setMember k v ms).map Prod.fst ↔ j = k ∨ j ∈ ms.map Prod.fst := by
  intro j
  rw [← not_iff_not, ← lookup_eq_none_iff, lookup_setMember, not_or, ← lookup_eq_none_iff]
  split_ifs with h <;> simp [h]

theorem distinct_setMember {α : Type} (v : α) {ms : List (String × α)} (h : Distinct ms) :
    Distinct (setMember k v ms) := by
  induction ms with
  | nil => simp [setMember, Distinct]
  | cons n ms ih =>
    obtain ⟨j, w⟩ := n
    obtain ⟨hj, hms⟩ := List.nodup_cons.mp h
    rw [setMember]
    split_ifs with hjk
    · exact h
    · refine List.nodup_cons.mpr ⟨?_, ih hms⟩
      rw [names_setMember]
      exact not_or.mpr ⟨hjk, hj⟩

/-! ## Laying a patch over an object -/

theorem lookup_mergeMember_of_ne {j : String} (hk : k ≠ j) (d : Doc) :
    (mergeMember target (j, d)).lookup k = target.lookup k := by
  cases d <;> simp [mergeMember, lookup_dropMember, lookup_setMember, hk]

/-- The members of an object that a patch was laid over. -/
theorem lookup_mergeMembers {patch : List Member} (h : Distinct patch) :
    (mergeMembers target patch).lookup k =
      match patch.lookup k with
      | none => target.lookup k
      | some .null => none
      | some d => some (merge ((target.lookup k).getD .null) d) := by
  induction patch generalizing target with
  | nil => rfl
  | cons m patch ih =>
    obtain ⟨j, d⟩ := m
    obtain ⟨hj, hpatch⟩ := List.nodup_cons.mp h
    rw [mergeMembers, ih hpatch, lookup_cons_eq_ite]
    by_cases hk : k = j
    · subst hk
      rw [if_pos rfl, lookup_eq_none_iff.mpr hj]
      cases d <;> simp [mergeMember, lookup_dropMember, lookup_setMember]
    · rw [if_neg hk, lookup_mergeMember_of_ne hk]

theorem lookup_mergeMembers_of_none {patch : List Member} (hk : patch.lookup k = none) :
    (mergeMembers target patch).lookup k = target.lookup k := by
  induction patch generalizing target with
  | nil => rfl
  | cons m patch ih =>
    obtain ⟨j, d⟩ := m
    rw [lookup_cons_eq_ite] at hk
    split_ifs at hk with hkj
    rw [mergeMembers, ih hk, lookup_mergeMember_of_ne hkj]

/-- Members that a patch does not speak of may as well be set after it. -/
theorem mergeMembers_setMember {patch : List Member} {v : Doc} (hk : patch.lookup k = none)
    (hthere : (target.lookup k).isSome) :
    mergeMembers (setMember k v target) patch = setMember k v (mergeMembers target patch) := by
  induction patch generalizing target with
  | nil => rfl
  | cons m patch ih =>
    obtain ⟨j, d⟩ := m
    rw [lookup_cons_eq_ite] at hk
    split_ifs at hk with hkj
    have hstep : mergeMember (setMember k v target) (j, d) =
        setMember k v (mergeMember target (j, d)) := by
      have hlookup : (setMember k v target).lookup j = target.lookup j := by
        rw [lookup_setMember, if_neg (Ne.symm hkj)]
      have hcomm := fun w => setMember_comm hkj v w hthere
      cases d with
      | null => exact dropMember_setMember (Ne.symm hkj) v target
      | _ => simp only [mergeMember, hlookup, hcomm]
    rw [mergeMembers, mergeMembers, hstep, ih hk (by rwa [lookup_mergeMember_of_ne hkj])]

/-! ## The patch from one object to another -/

theorem memberPatch_shape (before : List Member) (k : String) (d : Doc) :
    memberPatch before (k, d) = [] ∨ ∃ p, memberPatch before (k, d) = [(k, p)] := by
  unfold memberPatch
  cases before.lookup k with
  | none => exact .inr ⟨d, rfl⟩
  | some old =>
    cases d with
    | obj after =>
      cases old with
      | obj ms =>
        simp only [valuePatch]
        split
        · exact .inl rfl
        · exact .inr ⟨_, rfl⟩
      | _ =>
        simp only [valuePatch]
        split
        · exact .inl rfl
        · exact .inr ⟨_, rfl⟩
    | _ =>
      simp only [valuePatch]
      split
      · exact .inl rfl
      · exact .inr ⟨_, rfl⟩

theorem names_memberPatches (before : List Member) : ∀ after : List Member, ∀ j,
    j ∈ (memberPatches before after).map Prod.fst → j ∈ after.map Prod.fst
  | [], _, h => h
  | (k, d) :: after, j, h => by
    rw [memberPatches, List.map_append, List.mem_append] at h
    rw [List.map_cons, List.mem_cons]
    rcases h with h | h
    · rcases memberPatch_shape before k d with hp | ⟨p, hp⟩
      · simp [hp] at h
      · exact .inl (by simpa [hp] using h)
    · exact .inr (names_memberPatches before after j h)

theorem distinct_memberPatches (before : List Member) : ∀ {after : List Member}, Distinct after →
    Distinct (memberPatches before after)
  | [], _ => List.nodup_nil
  | (k, d) :: after, h => by
    obtain ⟨hk, hafter⟩ := List.nodup_cons.mp h
    have hrest := distinct_memberPatches before hafter
    rw [memberPatches]
    rcases memberPatch_shape before k d with hp | ⟨p, hp⟩
    · rwa [hp]
    · rw [hp]
      exact List.nodup_cons.mpr ⟨fun h => hk (names_memberPatches before after k h), hrest⟩

theorem lookup_memberPatches (before : List Member) : ∀ {after : List Member}, Distinct after →
    (memberPatches before after).lookup k =
      (after.lookup k).bind fun d => (memberPatch before (k, d)).lookup k
  | [], _ => rfl
  | (j, d) :: after, h => by
    obtain ⟨hj, hafter⟩ := List.nodup_cons.mp h
    rw [memberPatches, List.lookup_append, lookup_memberPatches before hafter, lookup_cons_eq_ite]
    by_cases hk : k = j
    · subst hk
      rw [if_pos rfl, lookup_eq_none_iff.mpr hj, Option.bind_none, Option.or_none]
      rfl
    · have hnone : (memberPatch before (j, d)).lookup k = none := by
        rcases memberPatch_shape before j d with hp | ⟨p, hp⟩
        · rw [hp, List.lookup_nil]
        · rw [hp, lookup_cons_eq_ite, if_neg hk, List.lookup_nil]
      rw [if_neg hk, hnone, Option.none_or]

theorem lookup_removals (before after : List Member) : (removals before after).lookup k =
    if (before.lookup k).isSome ∧ after.lookup k = none then some .null else none := by
  unfold removals
  induction before with
  | nil => simp
  | cons m before ih =>
    obtain ⟨j, d⟩ := m
    rw [List.filter_cons]
    by_cases hk : k = j
    · subst hk
      cases hafter : after.lookup k with
      | none => simp
      | some e => simpa [hafter] using ih
    · rw [lookup_cons_eq_ite, if_neg hk]
      split
      · rw [List.map_cons, lookup_cons_eq_ite, if_neg hk, ih]
      · exact ih

theorem names_removals {before after : List Member} {j : String}
    (h : j ∈ (removals before after).map Prod.fst) : after.lookup j = none := by
  by_contra hj
  have hnone := lookup_removals (k := j) before after
  rw [if_neg (fun hand => hj hand.2), lookup_eq_none_iff] at hnone
  exact hnone h

theorem distinct_removals {before after : List Member} (h : Distinct before) :
    Distinct (removals before after) := by
  unfold Distinct removals
  rw [List.map_map]
  exact h.sublist (List.filter_sublist.map Prod.fst)

theorem distinct_mergePatch {before after : List Member} (hb : Distinct before)
    (ha : Distinct after) : Distinct (mergePatch before after) := by
  unfold Distinct mergePatch
  rw [List.map_append]
  refine List.nodup_append.mpr ⟨distinct_removals hb, distinct_memberPatches before ha, ?_⟩
  rintro j h₁ _ h₂ rfl
  exact lookup_eq_none_iff.mp (names_removals h₁) (names_memberPatches before after j h₂)

theorem lookup_mergePatch {before after : List Member} {d : Doc} (ha : Distinct after)
    (hk : after.lookup k = some d) :
    (mergePatch before after).lookup k = (memberPatch before (k, d)).lookup k := by
  rw [mergePatch, List.lookup_append, lookup_removals, if_neg (by simp [hk]), Option.none_or,
    lookup_memberPatches before ha, hk, Option.bind_some]

section Patched

variable {before after : List Member} {v w : Doc} (ha : Distinct after)

include ha

/-- An object inside is patched in turn, if at all. -/
theorem lookup_mergePatch_of_obj {s s' : List Member} (hk : before.lookup k = some (.obj s))
    (hk' : after.lookup k = some (.obj s')) : (mergePatch before after).lookup k =
      if (mergePatch s s').isEmpty then none else some (.obj (mergePatch s s')) := by
  rw [lookup_mergePatch ha hk', memberPatch, hk]
  change (if (mergePatch s s').isEmpty then [] else [(k, Doc.obj (mergePatch s s'))]).lookup k = _
  split
  · rfl
  · rw [lookup_cons_eq_ite, if_pos rfl]

/-- A member that goes is taken away. -/
theorem lookup_mergePatch_gone (hk' : after.lookup k = none) : (mergePatch before after).lookup k =
    if (before.lookup k).isSome then some .null else none := by
  rw [mergePatch, List.lookup_append, lookup_removals, lookup_memberPatches before ha, hk',
    Option.bind_none, Option.or_none]
  exact if_congr (and_iff_left rfl) rfl rfl

/-- A member that comes is said as a whole. -/
theorem lookup_mergePatch_new (hk : before.lookup k = none) (hk' : after.lookup k = some w) :
    (mergePatch before after).lookup k = some w := by
  rw [lookup_mergePatch ha hk', memberPatch, hk, lookup_cons_eq_ite, if_pos rfl]

/-- So is one that becomes an object or was one, but not both. All others are said when they differ by
value. -/
theorem lookup_mergePatch_flat (hk : before.lookup k = some v) (hk' : after.lookup k = some w)
    (hflat : v.isObj = false ∨ w.isObj = false) :
    (mergePatch before after).lookup k = if v.looseEq w then none else some w := by
  have hpatch : valuePatch k v w = if v.looseEq w then [] else [(k, w)] := by
    cases w with
    | obj _ =>
      cases v with
      | obj _ => simp [isObj] at hflat
      | _ => rfl
    | _ => rfl
  rw [lookup_mergePatch ha hk', memberPatch, hk]
  dsimp only
  rw [hpatch]
  split
  · rfl
  · rw [lookup_cons_eq_ite, if_pos rfl]

theorem lookup_mergePatch_arr {l' : List Doc} (hk' : after.lookup k = some (.arr l')) :
    (mergePatch before after).lookup k = none ∨
      (mergePatch before after).lookup k = some (.arr l') := by
  cases hk : before.lookup k with
  | none => exact .inr (lookup_mergePatch_new ha hk hk')
  | some v =>
    rw [lookup_mergePatch_flat ha hk hk' (.inr rfl)]
    split
    · exact .inl rfl
    · exact .inr rfl

theorem lookup_mergePatch_of_arr {l l' : List Doc} (hk : before.lookup k = some (.arr l))
    (hk' : after.lookup k = some (.arr l')) (hne : l.length ≠ l'.length) :
    (mergePatch before after).lookup k = some (.arr l') := by
  rw [lookup_mergePatch_flat ha hk hk' (.inr rfl), if_neg]
  rw [looseEq_iff, loosen_arr, loosen_arr]
  intro h
  have hlength := congrArg List.length (Doc.arr.inj h)
  rw [List.length_map, List.length_map] at hlength
  exact hne hlength

end Patched

section Merged

variable {before after : List Member} (hb : Distinct before) (ha : Distinct after)

include hb ha

/-- The object that was patched has the patched object inside. -/
theorem lookup_merge_of_obj {s s' : List Member} (hk : before.lookup k = some (.obj s))
    (hk' : after.lookup k = some (.obj s')) :
    (mergeMembers before (mergePatch before after)).lookup k =
      some (.obj (mergeMembers s (mergePatch s s'))) := by
  rw [lookup_mergeMembers (distinct_mergePatch hb ha), lookup_mergePatch_of_obj ha hk hk', hk]
  cases h : mergePatch s s' with
  | nil => rfl
  | cons m patch => rfl

/-- It has the list that was said. -/
theorem lookup_merge_of_arr {l l' : List Doc} (hk : before.lookup k = some (.arr l))
    (hk' : after.lookup k = some (.arr l')) (hne : l.length ≠ l'.length) :
    (mergeMembers before (mergePatch before after)).lookup k = some (.arr l') := by
  rw [lookup_mergeMembers (distinct_mergePatch hb ha), lookup_mergePatch_of_arr ha hk hk' hne]
  rfl

end Merged

/-! ## Objects that stay as they are -/

theorem removals_self (ms : List Member) : removals ms ms = [] := by
  have hnone : ms.filter (fun m => (ms.lookup m.1).isNone) = [] := by
    refine List.filter_eq_nil_iff.mpr fun m hm => ?_
    rw [Option.isNone_iff_eq_none, lookup_eq_none_iff, not_not]
    exact List.mem_map_of_mem hm
  rw [removals, hnone, List.map_nil]

mutual

theorem valuePatch_self (name : String) : ∀ {d : Doc}, d.isProper = true → valuePatch name d d = []
  | .obj ms, h => by
    obtain ⟨hms, hproper⟩ := isProper_obj.mp h
    have hnested : memberPatches ms ms = [] :=
      memberPatches_self (fun m hm => lookup_of_mem hms hm) hproper
    simp [valuePatch, hnested, removals_self]
  | .arr _, _ => by simp [valuePatch, looseEq_self]
  | .null, _ | .bool _, _ | .int _, _ | .real _, _ | .str _, _ => by
    simp [valuePatch, looseEq_self]

theorem memberPatches_self {before : List Member} : ∀ {ms : List Member},
    (∀ m ∈ ms, before.lookup m.1 = some m.2) → (∀ m ∈ ms, m.2.isProper = true) →
      memberPatches before ms = []
  | [], _, _ => rfl
  | (k, d) :: ms, h, hproper => by
    have hk := h (k, d) List.mem_cons_self
    have hd := valuePatch_self k (hproper (k, d) List.mem_cons_self)
    have hrest := memberPatches_self (fun m hm => h m (List.mem_cons_of_mem _ hm))
      fun m hm => hproper m (List.mem_cons_of_mem _ hm)
    rw [memberPatches, memberPatch, hk, hrest]
    simpa using hd

end

/-- A member that stays as it is is not patched. -/
theorem lookup_mergePatch_of_eq {before after : List Member} (ha : Distinct after)
    (hk : after.lookup k = before.lookup k) (hproper : ∀ m ∈ before, m.2.isProper = true) :
    (mergePatch before after).lookup k = none := by
  rw [mergePatch, List.lookup_append, lookup_removals, lookup_memberPatches before ha, hk]
  cases hlookup : before.lookup k with
  | none => simp
  | some d =>
    have hself := valuePatch_self k (hproper _ (mem_of_lookup hlookup))
    simp [memberPatch, hlookup, hself]

end Workbench
