import Workbench.Proofs.Admission.Serviceable
import Workbench.Proofs.Doc.Within
import Workbench.Proofs.Others

/-!
# The image that a name and a tag stand for

Each tag of an image stream has items, and the newest one counts. Several streams may have one name,
and a stream may have a tag several times: they are gone through in the order of the listing, up to
the first tag with an item that can be used.

* `Image.IsUsable`: an item with a time that can be read and an image;
* `Image.NewestOf`: the image of the newest item, the first one when several are from one instant;
  `Image.exists_newest?` says that `newest?` finds it;
* `Image.FirstOf`: the first of several things that has an outcome;
* `Image.tagsOf`, `Image.Finds`: the tags that a selection goes through, and what it stands for;
  **`Image.finds_of_find?`** says that `find?` finds it.
-/

namespace Workbench

open Doc

namespace Image

variable {item d : Doc} {items tags streams es : List Doc} {m b : Made} {best m? : Option Made}
  {found : Option Doc} {tag name : String}

/-! ## Items -/

/-- The item has a time that can be read, and an image. -/
structure IsUsable (item : Doc) (m : Made) : Prop where
  created : ∃ text, item.at? [.member "created"] = some (.str text) ∧
    Timestamp.parse? text = some m.created
  reference : item.at? [.member "dockerImageReference"] = some m.reference
  truthy : m.reference.truthy = true

theorem isObj_of_made? (h : made? item = .ok m?) : item.isObj = true := by
  obtain ⟨_, hread, -⟩ := bind_eq_ok_iff.mp h
  obtain ⟨ms, rfl, -⟩ := read_eq_ok_iff.mp hread
  rfl

theorem made?_eq_some_iff : made? item = .ok (some m) ↔ IsUsable item m := by
  constructor
  · intro h
    obtain ⟨ms, rfl⟩ := isObj_iff.mp (isObj_of_made? h)
    rw [made?, read_obj, read_obj, ok_bind, ok_bind] at h
    split at h
    · next text hcreated =>
      split at h
      · next t hparse =>
        split at h
        · next htruthy =>
          cases h
          refine ⟨⟨text, ?_, hparse⟩, ?_, htruthy⟩
          · rw [at?_member, eq_some_of_getD hcreated (by simp)]
          · rw [at?_member]
            refine eq_some_of_getD rfl fun hnull => ?_
            change (ms.lookup "dockerImageReference").getD .null = .null at hnull
            rw [hnull] at htruthy
            cases htruthy
        · cases h
      · cases h
    · cases h
  · rintro ⟨⟨text, hcreated, hparse⟩, hreference, htruthy⟩
    cases item with
    | obj ms =>
      rw [at?_member] at hcreated hreference
      simp [made?, hcreated, hreference, hparse, htruthy]
    | _ => simp [Doc.at?] at hcreated

theorem isUsable_iff (h : made? item = .ok m?) : IsUsable item m ↔ m? = some m := by
  rw [← made?_eq_some_iff, h, Except.ok.injEq]

/-- The image that was made last of the items, and the first of those made at one instant. -/
def IsNewest (items : List Doc) (m : Made) : Prop :=
  ∃ before item after, items = before ++ item :: after ∧ IsUsable item m ∧
    (∀ e ∈ before, ∀ m', IsUsable e m' → m'.created.instant < m.created.instant) ∧
    ∀ e ∈ after, ∀ m', IsUsable e m' → m'.created.instant ≤ m.created.instant

/-- The image of the newest item is `found`, none when no item can be used. -/
def NewestOf (items : List Doc) : (found : Option Doc) → Prop
  | none => ∀ item ∈ items, ∀ m, ¬ IsUsable item m
  | some reference => ∃ m, IsNewest items m ∧ m.reference = reference

theorem later_cases (best : Option Made) (m : Made) :
    later best m = some m ∧ (∀ b, best = some b → b.created.instant < m.created.instant) ∨
      ∃ b, best = some b ∧ later best m = some b ∧ m.created.instant ≤ b.created.instant := by
  cases best with
  | none => exact .inl ⟨rfl, by simp⟩
  | some b =>
    rw [later]
    split
    · next hlt => exact .inl ⟨rfl, by simpa using hlt⟩
    · next hle => exact .inr ⟨b, rfl, rfl, not_lt.mp hle⟩

theorem IsNewest.cons (hitem : ∀ m', IsUsable item m' → m'.created.instant < m.created.instant)
    (h : IsNewest items m) : IsNewest (item :: items) m := by
  obtain ⟨before, e, after, rfl, he, hbefore, hafter⟩ := h
  exact ⟨item :: before, e, after, rfl, he, List.forall_mem_cons.mpr ⟨hitem, hbefore⟩, hafter⟩

theorem newestFrom_cases : ∀ {items : List Doc} {best : Option Made},
    newestFrom best items = .ok m? →
      m? = best ∧ (∀ item ∈ items, ∀ m, IsUsable item m →
        ∃ b, best = some b ∧ m.created.instant ≤ b.created.instant) ∨
      ∃ m, m? = some m ∧ IsNewest items m ∧
        ∀ b, best = some b → b.created.instant < m.created.instant
  | [], best, h => by
    cases h
    exact .inl ⟨rfl, by simp⟩
  | item :: items, best, h => by
    obtain ⟨made, hmade, h⟩ := bind_eq_ok_iff.mp h
    cases made with
    | none =>
      have hunusable : ∀ m, ¬ IsUsable item m := fun m hm => by
        cases (isUsable_iff hmade).mp hm
      rcases newestFrom_cases h with ⟨rfl, hrest⟩ | ⟨m, rfl, hnewest, hbest⟩
      · exact .inl ⟨rfl, List.forall_mem_cons.mpr ⟨fun m hm => absurd hm (hunusable m), hrest⟩⟩
      · exact .inr ⟨m, rfl, hnewest.cons fun m' hm' => absurd hm' (hunusable m'), hbest⟩
    | some m₁ =>
      have hm₁ : IsUsable item m₁ := (isUsable_iff hmade).mpr rfl
      have honly : ∀ m', IsUsable item m' → m' = m₁ := fun m' hm' =>
        (Option.some.inj ((isUsable_iff hmade).mp hm')).symm
      have hrest : newestFrom (later best m₁) items = .ok m? := h
      rcases later_cases best m₁ with ⟨hlater, hlt⟩ | ⟨b, rfl, hlater, hle⟩
      · -- The item is the best one so far.
        rw [hlater] at hrest
        rcases newestFrom_cases hrest with ⟨rfl, hnone⟩ | ⟨m, rfl, hnewest, hbest⟩
        · refine .inr ⟨m₁, rfl, ⟨[], item, items, rfl, hm₁, by simp, fun e he m' hm' => ?_⟩, hlt⟩
          obtain ⟨_, ⟨⟩, hle⟩ := hnone e he m' hm'
          exact hle
        · have hnewer := hbest m₁ rfl
          refine .inr ⟨m, rfl, hnewest.cons fun m' hm' => honly m' hm' ▸ hnewer, fun b hb => ?_⟩
          exact (hlt b hb).trans hnewer
      · rw [hlater] at hrest
        rcases newestFrom_cases hrest with ⟨rfl, hnone⟩ | ⟨m, rfl, hnewest, hbest⟩
        · refine .inl ⟨rfl, List.forall_mem_cons.mpr ⟨fun m' hm' => ⟨b, rfl, ?_⟩, hnone⟩⟩
          rwa [honly m' hm']
        · refine .inr ⟨m, rfl, hnewest.cons fun m' hm' => ?_, hbest⟩
          rw [honly m' hm']
          exact hle.trans_lt (hbest b rfl)

theorem newestOf_of_newest? (h : newest? items = .ok found) : NewestOf items found := by
  obtain ⟨m?, hm, hend⟩ := bind_eq_ok_iff.mp h
  cases hend
  rcases newestFrom_cases hm with ⟨rfl, hnone⟩ | ⟨m, rfl, hnewest, -⟩
  · intro item hitem m husable
    obtain ⟨_, hb, -⟩ := hnone item hitem m husable
    cases hb
  · exact ⟨m, hnewest, rfl⟩

/-- **The newest image of some items is found.** -/
theorem exists_newest? (h : ∀ item ∈ items, item.isObj = true) :
    ∃ found, newest? items = .ok found ∧ NewestOf items found := by
  obtain ⟨m?, hm⟩ := exists_newestFrom h none
  have hfound : newest? items = .ok (m?.map Made.reference) := by rw [newest?, hm]; rfl
  exact ⟨_, hfound, newestOf_of_newest? hfound⟩

-- `b` is of the instant of `a` and comes behind it; `c` and `e` cannot be used.
example : newest? [
    .obj [("created", "2024-01-01T12:00:00Z"), ("dockerImageReference", "a")],
    .obj [("created", "2024-01-01T14:00:00+02:00"), ("dockerImageReference", "b")],
    .obj [("created", "yesterday"), ("dockerImageReference", "c")],
    .obj [("created", "2024-01-01T11:00:00"), ("dockerImageReference", "d")],
    .obj [("created", "2024-01-02T00:00:00Z"), ("dockerImageReference", "")]] = .ok (some "a") := by
  decide +kernel

theorem isObj_of_newestFrom : ∀ {items : List Doc} {best : Option Made},
    newestFrom best items = .ok m? → ∀ item ∈ items, item.isObj = true
  | [], _, _ => by simp
  | item :: items, _, h => by
    obtain ⟨made, hmade, h⟩ := bind_eq_ok_iff.mp h
    refine List.forall_mem_cons.mpr ⟨isObj_of_made? hmade, ?_⟩
    cases made <;> exact isObj_of_newestFrom h

theorem isObj_of_newest? (h : newest? items = .ok found) : ∀ item ∈ items, item.isObj = true := by
  obtain ⟨_, hm, -⟩ := bind_eq_ok_iff.mp h
  exact isObj_of_newestFrom hm

/-! ## Tags -/

/-- The first of `as` that has an outcome, which `R` tells, has `found`. It is none when none of
them has one. -/
def FirstOf {α : Type} (R : α → Option Doc → Prop) (as : List α) : (found : Option Doc) → Prop
  | none => ∀ a ∈ as, R a none
  | some d => ∃ before a after, as = before ++ a :: after ∧ (∀ x ∈ before, R x none) ∧ R a (some d)

section FirstOf

variable {α : Type} {R : α → Option Doc → Prop} {as bs : List α} {a : α}

theorem FirstOf.append_some (h : FirstOf R as (some d)) (bs : List α) :
    FirstOf R (as ++ bs) (some d) := by
  obtain ⟨before, a, after, rfl, hbefore, ha⟩ := h
  exact ⟨before, a, after ++ bs, by simp, hbefore, ha⟩

theorem FirstOf.append_none (has : FirstOf R as none) (h : FirstOf R bs found) :
    FirstOf R (as ++ bs) found := by
  cases found with
  | none => exact List.forall_mem_append.mpr ⟨has, h⟩
  | some d =>
    obtain ⟨before, a, after, rfl, hbefore, ha⟩ := h
    exact ⟨as ++ before, a, after, by simp, List.forall_mem_append.mpr ⟨has, hbefore⟩, ha⟩

theorem firstOf_singleton (h : R a found) : FirstOf R [a] found := by
  cases found with
  | none => exact List.forall_mem_singleton.mpr h
  | some d => exact ⟨[], a, [], rfl, by simp, h⟩

end FirstOf

theorem looseEq_getD (x : Option Doc) (s : String) :
    (x.getD .null).looseEq (.str s) = decide (x = some (.str s)) := by
  rw [Bool.eq_iff_iff, looseEq_str_iff, decide_eq_true_iff]
  exact ⟨fun h => eq_some_of_getD h (by simp), fun h => by rw [h]; rfl⟩

theorem read_orElse_empty {x : Option Doc} {k : String}
    (h : ((x.getD .null).orElse .empty).read k = .ok d) :
    d = (x.bind (at? [.member k])).getD .null := by
  cases x with
  | none =>
    cases h
    rfl
  | some v =>
    cases v with
    | obj ms =>
      rw [Option.getD_some, orElse_empty_obj] at h
      cases h
      rw [Option.bind_some, at?_member]
    | _ =>
      rw [Option.getD_some, orElse] at h
      split at h
      · cases h
      · cases h
        rfl

theorem entriesOf_of_elements {x : Option Doc}
    (hes : ((x.getD .null).orElse (.arr [])).elements = .ok es)
    (hobj : ∀ e, es.head? = some e → e.isObj = true) : entriesOf x = es := by
  rcases elements_orElse hes with hlist | htexts
  · rw [eq_some_of_getD hlist (by simp)]
    rfl
  cases es with
  | cons e es =>
    obtain ⟨s, rfl⟩ := htexts e List.mem_cons_self
    cases hobj _ rfl
  | nil =>
    cases x with
    | none => rfl
    | some d =>
      cases d with
      | arr ds =>
        cases ds with
        | nil => rfl
        | cons d ds => cases hes
      | _ => rfl

/-- The items of a tag. -/
def itemsOf (t : Doc) : List Doc := entriesOf (t.at? [.member "items"])

/-- What a tag stands for. -/
def StandsFor (t : Doc) (found : Option Doc) : Prop := NewestOf (itemsOf t) found

def hasTag (tag : String) (t : Doc) : Bool := t.at? [.member "tag"] = some (.str tag)

def hasStreamName (name : String) (stream : Doc) : Bool :=
  stream.at? [.member "metadata", .member "name"] = some (.str name)

/-- The tags `tag` of a stream, in their order. -/
def tagsIn (tag : String) (stream : Doc) : List Doc :=
  (entriesOf (stream.at? [.member "status", .member "tags"])).filter (hasTag tag)

/-- The tags that a name and a tag go through, in the order of the listing. -/
def tagsOf (name tag : String) (streams : List Doc) : List Doc :=
  (streams.filter (hasStreamName name)).flatMap (tagsIn tag)

/-- A name and a tag stand for `found`: the newest image of the first of their tags that has an item
which can be used. -/
def Finds (name tag : String) (streams : List Doc) (found : Option Doc) : Prop :=
  FirstOf StandsFor (tagsOf name tag streams) found

theorem isObj_of_findTag? (h : findTag? (.str tag) tags = .ok found) :
    ∀ t, tags.head? = some t → t.isObj = true := by
  cases tags with
  | nil => simp
  | cons t tags =>
    rintro _ ⟨⟩
    obtain ⟨_, hread, -⟩ := bind_eq_ok_iff.mp h
    obtain ⟨ms, rfl, -⟩ := read_eq_ok_iff.mp hread
    rfl

theorem firstOf_of_findTag? : ∀ {tags : List Doc}, findTag? (.str tag) tags = .ok found →
    FirstOf StandsFor (tags.filter (hasTag tag)) found
  | [], h => by
    cases h
    exact fun _ h => absurd h List.not_mem_nil
  | t :: tags, h => by
    obtain ⟨v, hread, h⟩ := bind_eq_ok_iff.mp h
    obtain ⟨ms, rfl, rfl⟩ := read_eq_ok_iff.mp hread
    have htag : ((ms.lookup "tag").getD .null).looseEq (.str tag) = hasTag tag (.obj ms) := by
      rw [looseEq_getD, hasTag, at?_member]
    rw [htag] at h
    rw [List.filter_cons]
    cases hhas : hasTag tag (.obj ms) with
    | false =>
      rw [hhas] at h
      exact firstOf_of_findTag? h
    | true =>
      rw [hhas] at h
      obtain ⟨d, hitems, h⟩ := bind_eq_ok_iff.mp h
      cases (read_obj ms).symm.trans hitems
      obtain ⟨items, helements, h⟩ := bind_eq_ok_iff.mp h
      obtain ⟨newest, hnewest, h⟩ := bind_eq_ok_iff.mp h
      have hstands : StandsFor (.obj ms) newest := by
        have hobj := fun e he => isObj_of_newest? hnewest e (List.mem_of_mem_head? he)
        rw [StandsFor, itemsOf, at?_member, entriesOf_of_elements helements hobj]
        exact newestOf_of_newest? hnewest
      rw [if_pos rfl, ← List.singleton_append]
      cases newest with
      | none => exact (firstOf_singleton hstands).append_none (firstOf_of_findTag? h)
      | some d =>
        cases h
        exact (firstOf_singleton hstands).append_some _

/-- **A name and a tag stand for the newest image of the first tag that has one.** -/
theorem finds_of_find? : ∀ {streams : List Doc}, find? (.str name) (.str tag) streams = .ok found →
    Finds name tag streams found
  | [], h => by
    cases h
    exact fun _ h => absurd h List.not_mem_nil
  | stream :: streams, h => by
    obtain ⟨v, hread, h⟩ := bind_eq_ok_iff.mp h
    obtain ⟨ms, rfl, rfl⟩ := read_eq_ok_iff.mp hread
    obtain ⟨streamName, hname, h⟩ := bind_eq_ok_iff.mp h
    have hnamed : streamName.looseEq (.str name) = hasStreamName name (.obj ms) := by
      rw [read_orElse_empty hname, looseEq_getD, hasStreamName, Doc.at?]
    rw [hnamed] at h
    rw [Finds, tagsOf, List.filter_cons]
    cases hhas : hasStreamName name (.obj ms) with
    | false =>
      rw [hhas] at h
      exact finds_of_find? h
    | true =>
      rw [hhas] at h
      obtain ⟨d, hstatus, h⟩ := bind_eq_ok_iff.mp h
      cases (read_obj ms).symm.trans hstatus
      obtain ⟨tags, htags, h⟩ := bind_eq_ok_iff.mp h
      obtain ⟨ts, helements, h⟩ := bind_eq_ok_iff.mp h
      obtain ⟨reference?, hreference, h⟩ := bind_eq_ok_iff.mp h
      have hfirst : FirstOf StandsFor (tagsIn tag (.obj ms)) reference? := by
        rw [read_orElse_empty htags] at helements
        rw [tagsIn, Doc.at?, entriesOf_of_elements helements (isObj_of_findTag? hreference)]
        exact firstOf_of_findTag? hreference
      rw [if_pos rfl, List.flatMap_cons]
      cases reference? with
      | none => exact hfirst.append_none (finds_of_find? h)
      | some d =>
        cases h
        exact hfirst.append_some _

end Image

end Workbench
