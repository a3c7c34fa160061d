import Workbench.Proofs.Admission.Newest
import Workbench.Proofs.Timestamp

/-!
# Items of a registry

A registry writes the time of each item to the second, with a `Z` behind it. Such texts are in the
order of their instants, so the newest item is the one with the greatest text.

* `Image.WritesTime`, `Image.HasReference`: an item with such a time, and an item with an image;
* `Image.GreatestOf`: the image of the item with the greatest text, the first one when several have
  the same;
* **`Image.registry_chronological`**: how these texts are read, that their order is that of the
  instants, and which of the items is the newest.
-/

namespace Workbench

open Doc

namespace Image

variable {item e : Doc} {items : List Doc} {m : Made} {t u : Moment}

/-- The time of the item is written to the second, in UTC. -/
def WritesTime (item : Doc) (t : Moment) : Prop :=
  item.at? [.member "created"] = some (.str (t.text "Z"))

instance (item : Doc) (t : Moment) : Decidable (WritesTime item t) :=
  inferInstanceAs (Decidable (_ = _))

/-- The item has an image. -/
def HasReference (item reference : Doc) : Prop :=
  item.at? [.member "dockerImageReference"] = some reference ∧ reference.truthy = true

/-- Of the items with an image, `found` is the image of the one with the greatest text for its time,
and of the first one with this text. It is none when no item has an image. -/
def GreatestOf (items : List Doc) : (found : Option Doc) → Prop
  | none => ∀ item ∈ items, ∀ reference, ¬ HasReference item reference
  | some reference => ∃ before item after text, items = before ++ item :: after ∧
      HasReference item reference ∧ item.at? [.member "created"] = some (.str text) ∧
      (∀ e ∈ before, ∀ image other, HasReference e image →
        e.at? [.member "created"] = some (.str other) → other < text) ∧
      ∀ e ∈ after, ∀ image other, HasReference e image →
        e.at? [.member "created"] = some (.str other) → ¬ text < other

theorem WritesTime.isObj (h : WritesTime item t) : item.isObj = true := by
  cases item with
  | obj ms => rfl
  | _ => cases h

theorem WritesTime.isUsable_iff (h : WritesTime item t) :
    IsUsable item m ↔ m.created = t.timestamp ∧ HasReference item m.reference := by
  have hread : Timestamp.parse? (t.text "Z") = some t.timestamp := t.parse?_text (by simp)
  constructor
  · rintro ⟨⟨text, hcreated, hparse⟩, hreference, htruthy⟩
    cases h.symm.trans hcreated
    exact ⟨Option.some.inj (hparse.symm.trans hread), hreference, htruthy⟩
  · rintro ⟨hcreated, hreference, htruthy⟩
    exact ⟨⟨_, h, hcreated ▸ hread⟩, hreference, htruthy⟩

theorem WritesTime.instant_lt_iff {text other : String} (ht : WritesTime item t) (hu : WritesTime e u)
    (htext : item.at? [.member "created"] = some (.str text))
    (hother : e.at? [.member "created"] = some (.str other)) :
    t.timestamp.instant < u.timestamp.instant ↔ text < other := by
  cases ht.symm.trans htext
  cases hu.symm.trans hother
  rw [Moment.instant_lt_iff, Moment.text_lt_iff]

theorem greatestOf_of_newestOf {found : Option Doc} (hitems : ∀ item ∈ items, ∃ t, WritesTime item t)
    (h : NewestOf items found) : GreatestOf items found := by
  cases found with
  | none =>
    intro item hitem reference hreference
    obtain ⟨t, ht⟩ := hitems item hitem
    exact h item hitem ⟨t.timestamp, reference⟩ (ht.isUsable_iff.mpr ⟨rfl, hreference⟩)
  | some reference =>
    obtain ⟨m, ⟨before, item, after, rfl, husable, hbefore, hafter⟩, rfl⟩ := h
    obtain ⟨hearlier, hhere⟩ := List.forall_mem_append.mp hitems
    obtain ⟨⟨t, ht⟩, hlater⟩ := List.forall_mem_cons.mp hhere
    obtain ⟨hcreated, hreference⟩ := ht.isUsable_iff.mp husable
    refine ⟨before, item, after, t.text "Z", rfl, hreference, ht, ?_, ?_⟩
    · intro e he image other himage hother
      obtain ⟨u, hu⟩ := hearlier e he
      rw [← hu.instant_lt_iff ht hother ht, ← hcreated]
      exact hbefore e he ⟨u.timestamp, image⟩ (hu.isUsable_iff.mpr ⟨rfl, himage⟩)
    · intro e he image other himage hother
      obtain ⟨u, hu⟩ := hlater e he
      rw [← ht.instant_lt_iff hu ht hother, ← hcreated]
      exact not_lt.mpr (hafter e he ⟨u.timestamp, image⟩ (hu.isUsable_iff.mpr ⟨rfl, himage⟩))

/-- **The texts of a registry are in the order of their instants.** A moment that is written to the
second is read, and it is the same timestamp with `Z`, with `+00:00` and without a zone. Of two such
texts with `Z` the smaller one is that of the earlier instant. So the newest of some items with such
texts is the first one with the greatest text, of those with an image. -/
theorem registry_chronological :
    (∀ t : Moment, ∀ zone ∈ ["Z", "+00:00", ""],
      Timestamp.parse? (t.text zone) = some t.timestamp) ∧
    (∀ t u : Moment,
      (t.timestamp.instant < u.timestamp.instant ↔ t.text "Z" < u.text "Z") ∧
      (t.timestamp.instant = u.timestamp.instant ↔ t.text "Z" = u.text "Z")) ∧
    ∀ items, (∀ item ∈ items, ∃ t, WritesTime item t) →
      ∃ found, newest? items = .ok found ∧ GreatestOf items found := by
  refine ⟨fun t zone hzone => t.parse?_text hzone, fun t u => ⟨?_, ?_⟩, fun items hitems => ?_⟩
  · rw [Moment.instant_lt_iff, Moment.text_lt_iff]
  · exact Moment.instant_eq_iff t u (by simp)
  · have hobj : ∀ item ∈ items, item.isObj = true := fun item hitem =>
      (hitems item hitem).elim fun _ ht => ht.isObj
    obtain ⟨found, hfound, hnewest⟩ := exists_newest? hobj
    exact ⟨found, hfound, greatestOf_of_newestOf hitems hnewest⟩

/-- The last second before a leap day. -/
def leapEve : Moment :=
  ⟨⟨2024, 2, 28⟩, 23, 59, 59, by decide, by decide, by decide, by decide⟩

/-- The leap day, as it begins. -/
def leapDay : Moment := ⟨⟨2024, 2, 29⟩, 0, 0, 0, by decide, by decide, by decide, by decide⟩

/-- The day after it. -/
def leapMorrow : Moment := ⟨⟨2024, 3, 1⟩, 0, 0, 0, by decide, by decide, by decide, by decide⟩

/-- An item of a registry. -/
def itemOf (text reference : String) : Doc :=
  .obj [("created", .str text), ("dockerImageReference", .str reference)]

/-- Items around a leap day. The last one has no image. -/
def leapItems : List Doc := [
  itemOf "2024-02-28T23:59:59Z" "lab-1",
  itemOf "2024-02-29T00:00:00Z" "lab-2",
  itemOf "2024-02-29T00:00:00Z" "lab-3",
  itemOf "2024-03-01T00:00:00Z" ""]

/-- The first item of the leap day is the newest one with an image. -/
theorem leapItems_chronological : (∀ item ∈ leapItems, ∃ t, WritesTime item t) ∧
    newest? leapItems = .ok (some "lab-2") ∧ GreatestOf leapItems (some "lab-2") := by
  have hitems : ∀ item ∈ leapItems, ∃ t, WritesTime item t := by
    refine List.forall_mem_cons.mpr ⟨⟨leapEve, by decide +kernel⟩, ?_⟩
    refine List.forall_mem_cons.mpr ⟨⟨leapDay, by decide +kernel⟩, ?_⟩
    refine List.forall_mem_cons.mpr ⟨⟨leapDay, by decide +kernel⟩, ?_⟩
    exact List.forall_mem_singleton.mpr ⟨leapMorrow, by decide +kernel⟩
  obtain ⟨-, -, hnewest⟩ := registry_chronological
  obtain ⟨found, hfound, hgreatest⟩ := hnewest leapItems hitems
  have hread : newest? leapItems = .ok (some "lab-2") := by decide +kernel
  cases hread.symm.trans hfound
  exact ⟨hitems, hread, hgreatest⟩

end Image

end Workbench
