import Mathlib.Tactic.Common
import Workbench.Doc.Access

/-!
# What accesses and edits do

* `bind_eq_ok_iff`: a composed access that succeeds is one of two accesses that succeed;
* `lookup_setMember`, `lookup_dropMember`: the members after an edit; `setMember_comm` and the like
  say in which order edits may be made;
* `Doc.require_eq_ok_iff`, `Doc.modify_eq_ok_iff` and the like: when an access or an edit succeeds,
  and what comes out;
* `Doc.SameBut`: two objects that differ in one member at most; an edit of that member makes such a
  pair.
-/

namespace Workbench

/-! ## Composed accesses -/

section Composed

variable {ε α β : Type}

@[simp] theorem ok_bind (a : α) (f : α → Except ε β) : (Except.ok a >>= f) = f a := rfl

@[simp] theorem error_bind (e : ε) (f : α → Except ε β) : (Except.error e >>= f) = .error e := rfl

@[simp] theorem pure_eq_ok (a : α) : (pure a : Except ε α) = .ok a := rfl

@[simp] theorem throw_eq_error (e : ε) : (throw e : Except ε α) = .error e := rfl

/-- A composed access succeeds when both parts do. -/
theorem bind_eq_ok_iff {x : Except ε α} {f : α → Except ε β} {b : β} :
    (x >>= f) = .ok b ↔ ∃ a, x = .ok a ∧ f a = .ok b := by
  cases x <;> simp

theorem map_eq_ok_iff {x : Except ε α} {f : α → β} {b : β} :
    x.map f = .ok b ↔ ∃ a, x = .ok a ∧ f a = b := by
  cases x <;> simp [Except.map]

end Composed

/-! ## Members -/

section Members

variable {α : Type} (name k : String)

theorem lookup_cons_eq_ite (w : α) (ms : List (String × α)) :
    List.lookup k ((name, w) :: ms) = if k = name then some w else ms.lookup k := by
  by_cases h : k = name
  · simp [h]
  · have hb : (k == name) = false := by simpa using h
    simp only [List.lookup_cons, hb, if_neg h]

theorem lookup_setMember (v : α) (ms : List (String × α)) :
    (setMember name v ms).lookup k = if k = name then some v else ms.lookup k := by
  induction ms with
  | nil => exact lookup_cons_eq_ite name k v []
  | cons m ms ih =>
    obtain ⟨j, w⟩ := m
    rw [setMember]
    by_cases hj : j = name
    · rw [if_pos hj, lookup_cons_eq_ite, lookup_cons_eq_ite, hj]
      split_ifs <;> rfl
    · rw [if_neg hj, lookup_cons_eq_ite, lookup_cons_eq_ite, ih]
      split_ifs with h₁ h₂
      · exact absurd (h₁.symm.trans h₂) hj
      all_goals rfl

theorem lookup_setMember_self (v : α) (ms : List (String × α)) :
    (setMember name v ms).lookup name = some v := by
  rw [lookup_setMember, if_pos rfl]

theorem lookup_dropMember (ms : List (String × α)) :
    (dropMember name ms).lookup k = if k = name then none else ms.lookup k := by
  induction ms with
  | nil => simp [dropMember]
  | cons m ms ih =>
    obtain ⟨j, w⟩ := m
    rw [dropMember, List.filter_cons, lookup_cons_eq_ite]
    by_cases hj : j = name
    · rw [if_neg (by simpa using hj), ← dropMember, ih, hj]
      split_ifs <;> rfl
    · rw [if_pos (by simpa using hj), lookup_cons_eq_ite, ← dropMember, ih]
      split_ifs with h₁ h₂
      · exact absurd (h₁.symm.trans h₂) hj
      all_goals rfl

theorem lookup_ensured (v : α) (ms : List (String × α)) :
    (if (ms.lookup name).isSome then ms else ms ++ [(name, v)]).lookup k =
      if k = name then some ((ms.lookup name).getD v) else ms.lookup k := by
  cases h : ms.lookup name with
  | some w =>
    rw [Option.isSome_some, if_pos rfl]
    split_ifs with hk
    · rw [hk, h, Option.getD_some]
    · rfl
  | none =>
    rw [Option.isSome_none, if_neg Bool.false_ne_true, List.lookup_append, lookup_cons_eq_ite]
    split_ifs with hk
    · rw [hk, h, Option.none_or, Option.getD_none]
    · rw [List.lookup_nil, Option.or_none]

variable {name k}

theorem setMember_setMember (v w : α) (ms : List (String × α)) :
    setMember name v (setMember name w ms) = setMember name v ms := by
  induction ms with
  | nil => simp [setMember]
  | cons m ms ih =>
    obtain ⟨j, x⟩ := m
    rw [setMember, setMember]
    split_ifs with hj
    · rw [setMember, if_pos hj]
    · rw [setMember, if_neg hj, ih]

theorem setMember_of_lookup {v : α} {ms : List (String × α)} (h : ms.lookup name = some v) :
    setMember name v ms = ms := by
  induction ms with
  | nil => cases h
  | cons m ms ih =>
    obtain ⟨j, w⟩ := m
    rw [lookup_cons_eq_ite] at h
    rw [setMember]
    by_cases hj : j = name
    · rw [if_pos hj.symm] at h
      cases h
      rw [if_pos hj]
    · rw [if_neg (Ne.symm hj)] at h
      rw [if_neg hj, ih h]

theorem setMember_eq_append {v : α} {ms : List (String × α)} (h : ms.lookup name = none) :
    setMember name v ms = ms ++ [(name, v)] := by
  induction ms with
  | nil => rfl
  | cons m ms ih =>
    obtain ⟨j, w⟩ := m
    rw [lookup_cons_eq_ite] at h
    have hj : name ≠ j := by
      intro hj
      rw [if_pos hj] at h
      cases h
    rw [if_neg hj] at h
    rw [setMember, if_neg (Ne.symm hj), ih h, List.cons_append]

/-- Members are set in any order when one of them is there already. -/
theorem setMember_comm (hne : name ≠ k) (v w : α) {ms : List (String × α)}
    (h : (ms.lookup name).isSome) :
    setMember name v (setMember k w ms) = setMember k w (setMember name v ms) := by
  induction ms with
  | nil => cases h
  | cons m ms ih =>
    obtain ⟨j, x⟩ := m
    by_cases hj : j = name
    · subst hj
      simp [setMember, hne]
    by_cases hk : j = k
    · subst hk
      simp [setMember, hj]
    rw [lookup_cons_eq_ite, if_neg (Ne.symm hj)] at h
    simp only [setMember, if_neg hj, if_neg hk, ih h]

theorem dropMember_setMember_self (v : α) (ms : List (String × α)) :
    dropMember name (setMember name v ms) = dropMember name ms := by
  induction ms with
  | nil => simp [setMember, dropMember]
  | cons m ms ih =>
    obtain ⟨j, x⟩ := m
    rw [setMember]
    by_cases hj : j = name
    · simp [dropMember, hj]
    · simpa [dropMember, hj] using ih

theorem dropMember_setMember (hne : name ≠ k) (v : α) (ms : List (String × α)) :
    dropMember name (setMember k v ms) = setMember k v (dropMember name ms) := by
  induction ms with
  | nil => simp [setMember, dropMember, hne.symm]
  | cons m ms ih =>
    obtain ⟨j, x⟩ := m
    rw [setMember]
    by_cases hk : j = k
    · subst hk
      simp [dropMember, setMember, hne.symm]
    by_cases hj : j = name
    · simpa [dropMember, setMember, hk, hj, hne] using ih
    · simpa [dropMember, setMember, hk, hj] using ih

theorem dropMember_of_lookup {ms : List (String × α)} (h : ms.lookup name = none) :
    dropMember name ms = ms := by
  refine List.filter_eq_self.mpr fun m hm => ?_
  have hne := bne_iff_ne.mp (List.lookup_eq_none_iff.mp h m hm)
  exact decide_eq_true (Ne.symm hne)

end Members

namespace Doc

variable {d e v w : Doc} {name k : String} {edit : Doc → Except Fault Doc}

/-! ## Accesses -/

theorem members_eq_ok_iff {ms : List Member} : d.members = .ok ms ↔ d = .obj ms := by
  cases d <;> simp [members]

theorem require_eq_ok_iff :
    d.require name = .ok v ↔ ∃ ms, d = .obj ms ∧ ms.lookup name = some v := by
  cases d with
  | obj ms => cases h : ms.lookup name <;> simp [require, members, h]
  | _ => simp [require, members]

theorem read_eq_ok_iff :
    d.read name = .ok v ↔ ∃ ms, d = .obj ms ∧ (ms.lookup name).getD .null = v := by
  cases d <;> simp [read, members]

@[simp] theorem require_obj (ms : List Member) :
    (obj ms).require name =
      match ms.lookup name with
      | some v => .ok v
      | none => .error (.missingMember name) := by
  cases h : ms.lookup name <;> simp [require, members, h]

@[simp] theorem read_obj (ms : List Member) :
    (obj ms).read name = .ok ((ms.lookup name).getD .null) := rfl

theorem eq_some_of_getD {x : Option Doc} (h : x.getD .null = v) (hv : v ≠ .null) : x = some v := by
  cases x with
  | none => exact absurd h.symm hv
  | some w => exact congrArg some h

theorem eq_some_of_getD_empty {x : Option Doc} {ms : List Member} (h : x.getD .empty = .obj ms)
    (hms : ms ≠ []) : x = some (.obj ms) := by
  cases x with
  | none => exact absurd (Doc.obj.inj h).symm hms
  | some w => exact congrArg some h

theorem items_eq_ok_iff {l : List Doc} : d.items = .ok l ↔ d = .arr l := by
  cases d <;> simp [items]

theorem elements_orElse {l : List Doc} (h : (d.orElse (.arr [])).elements = .ok l) :
    d = .arr l ∨ ∀ e ∈ l, ∃ s, e = .str s := by
  unfold orElse at h
  split at h
  · cases d with
    | arr ds =>
      cases h
      exact .inl rfl
    | obj ms =>
      cases h
      exact .inr (List.forall_mem_map.mpr fun m _ => ⟨m.1, rfl⟩)
    | str s =>
      cases h
      exact .inr (List.forall_mem_map.mpr fun c _ => ⟨String.singleton c, rfl⟩)
    | _ => cases h
  · cases h
    exact .inr fun _ h => absurd h List.not_mem_nil

/-! ## Edits -/

theorem put_eq_ok_iff :
    d.put name v = .ok e ↔ ∃ ms, d = .obj ms ∧ e = .obj (setMember name v ms) := by
  cases d <;> simp [put, members, eq_comm]

theorem remove_eq_ok_iff :
    d.remove name = .ok e ↔ ∃ ms, d = .obj ms ∧ e = .obj (dropMember name ms) := by
  cases d <;> simp [remove, members, eq_comm]

theorem ensure_eq_ok_iff :
    d.ensure name v = .ok e ↔ ∃ ms, d = .obj ms ∧
      e = .obj (if (ms.lookup name).isSome then ms else ms ++ [(name, v)]) := by
  simp only [ensure, bind_eq_ok_iff, members_eq_ok_iff, pure_eq_ok, Except.ok.injEq]
  simp only [eq_comm]

theorem modify_eq_ok_iff :
    d.modify name edit = .ok e ↔ ∃ ms v w, d = .obj ms ∧ ms.lookup name = some v ∧
      edit v = .ok w ∧ e = .obj (setMember name w ms) := by
  simp only [modify, bind_eq_ok_iff, require_eq_ok_iff, put_eq_ok_iff]
  constructor
  · rintro ⟨v, ⟨ms, rfl, hv⟩, w, hw, ns, hns, rfl⟩
    cases hns
    exact ⟨ms, v, w, rfl, hv, hw, rfl⟩
  · rintro ⟨ms, v, w, rfl, hv, hw, rfl⟩
    exact ⟨v, ⟨ms, rfl, hv⟩, w, hw, ms, rfl, rfl⟩

theorem ensure_obj {ms : List Member} (h : ms.lookup name = some w) :
    (obj ms).ensure name v = .ok (.obj ms) := by
  simp [ensure, members, h]

theorem modify_obj {ms : List Member} (h : ms.lookup name = some v) :
    (obj ms).modify name edit = edit v >>= fun w => .ok (.obj (setMember name w ms)) := by
  simp only [Doc.modify, require_obj, h, ok_bind]
  rfl

/-! ## Documents that differ in one member -/

/-- Two objects whose members other than `name` are the same. -/
def SameBut (name : String) (d e : Doc) : Prop :=
  ∃ ms ns, d = .obj ms ∧ e = .obj ns ∧ ∀ k, k ≠ name → ns.lookup k = ms.lookup k

theorem SameBut.refl (h : d.isObj) : SameBut name d d := by
  cases d with
  | obj ms => exact ⟨ms, ms, rfl, rfl, fun _ _ => rfl⟩
  | _ => cases h

theorem SameBut.trans (h : SameBut name d v) (h' : SameBut name v e) : SameBut name d e := by
  obtain ⟨ms, ns, rfl, rfl, hns⟩ := h
  obtain ⟨ns', os, hns', rfl, hos⟩ := h'
  cases hns'
  exact ⟨ms, os, rfl, rfl, fun k hk => (hos k hk).trans (hns k hk)⟩

theorem SameBut.isObj_left (h : SameBut name d e) : d.isObj := by
  obtain ⟨_, _, rfl, -, -⟩ := h
  rfl

theorem SameBut.isObj (h : SameBut name d e) : e.isObj := by
  obtain ⟨_, _, -, rfl, -⟩ := h
  rfl

theorem SameBut.require (h : SameBut name d e) (hk : k ≠ name) : e.require k = d.require k := by
  obtain ⟨ms, ns, rfl, rfl, hns⟩ := h
  rw [require_obj, require_obj, hns k hk]

theorem SameBut.read (h : SameBut name d e) (hk : k ≠ name) : e.read k = d.read k := by
  obtain ⟨ms, ns, rfl, rfl, hns⟩ := h
  rw [read_obj, read_obj, hns k hk]

theorem sameBut_put (h : d.put name v = .ok e) : SameBut name d e := by
  obtain ⟨ms, rfl, rfl⟩ := put_eq_ok_iff.mp h
  exact ⟨ms, _, rfl, rfl, fun k hk => by rw [lookup_setMember, if_neg hk]⟩

theorem sameBut_ensure (h : d.ensure name v = .ok e) : SameBut name d e := by
  obtain ⟨ms, rfl, rfl⟩ := ensure_eq_ok_iff.mp h
  exact ⟨ms, _, rfl, rfl, fun k hk => by rw [lookup_ensured, if_neg hk]⟩

theorem sameBut_modify (h : d.modify name edit = .ok e) : SameBut name d e := by
  obtain ⟨ms, v, w, rfl, -, -, rfl⟩ := modify_eq_ok_iff.mp h
  exact ⟨ms, _, rfl, rfl, fun k hk => by rw [lookup_setMember, if_neg hk]⟩

@[simp] theorem orElse_empty_obj (ms : List Member) : (obj ms).orElse .empty = .obj ms := by
  cases ms <;> rfl

theorem orElse_empty (h : d.isObj) : d.orElse .empty = d := by
  cases d with
  | obj ms => exact orElse_empty_obj ms
  | _ => cases h

theorem orElse_getD_null {x : Option Doc} (h : (x.getD .empty).isObj) :
    (x.getD .null).orElse .empty = x.getD .empty := by
  cases x with
  | none => rfl
  | some d => exact orElse_empty h

theorem require_of_put (h : d.put name v = .ok e) : e.require name = .ok v := by
  obtain ⟨ms, rfl, rfl⟩ := put_eq_ok_iff.mp h
  simp [lookup_setMember]

theorem require_of_modify (h : d.modify name edit = .ok e) :
    ∃ v w, d.require name = .ok v ∧ edit v = .ok w ∧ e.require name = .ok w := by
  obtain ⟨ms, v, w, rfl, hv, hw, rfl⟩ := modify_eq_ok_iff.mp h
  exact ⟨v, w, by simp [hv], hw, by simp [lookup_setMember]⟩

end Doc

end Workbench
