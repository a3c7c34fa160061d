import Workbench.Proofs.Doc.Canonical
import Workbench.Proofs.Doc.Places
import Workbench.Proofs.Doc.Printer

/-!
# What canonical texts tell

Two documents mean the same when their canonical texts are one text. The canonical texts are those of
the canonical documents with members in order, and a text tells its document, so this decides whether
the canonical documents are the same up to the order of members, and nothing else.

* `canonical_canonical`: what is canonical stays as it is;
* `not_isVacant_of_at?`: a canonical document has no vacant member, at any level;
* `canonical_setMember`, `canonical_setMember_vacant`: members that make no difference;
* `equivalent_iff_same`: what equal texts say of the canonical documents;
* **`equivalent_tells`**: what equivalence decides.
-/

namespace Workbench.Doc

variable {a b d : Doc} {ms : List Member} {p : Place}

/-! ## Canonical documents -/

theorem canonical_arr (ds : List Doc) : (arr ds).canonical = .arr (ds.map canonical) := fold_arr _ ds

theorem canonical_obj (ms : List Member) : (obj ms).canonical =
    .obj ((ms.map fun m => (m.1, m.2.canonical)).filter fun m => !m.2.isVacant) := fold_obj _ ms

/-- What is canonical stays as it is. -/
@[simp] theorem canonical_canonical (d : Doc) : d.canonical.canonical = d.canonical := by
  induction d using Doc.induct with
  | arr ds ih =>
    rw [canonical_arr, canonical_arr, List.map_map]
    exact congrArg _ (List.map_congr_left ih)
  | obj ms ih =>
    rw [canonical_obj, canonical_obj]
    have hfixed : ∀ m ∈ (ms.map fun m => (m.1, m.2.canonical)).filter fun m => !m.2.isVacant,
        (m.1, m.2.canonical) = id m := by
      intro m hm
      obtain ⟨n, hn, rfl⟩ := List.mem_map.mp (List.mem_of_mem_filter hm)
      exact Prod.ext rfl (ih n hn)
    rw [List.map_congr_left hfixed, List.map_id, List.filter_filter]
    simp only [Bool.and_self]
  | _ => rfl

theorem isProper_canonical (h : d.isProper = true) : d.canonical.isProper = true := by
  induction d using Doc.induct with
  | arr ds ih =>
    rw [canonical_arr, isProper_arr]
    exact List.forall_mem_map.mpr fun d hd => ih d hd (isProper_arr.mp h d hd)
  | obj ms ih =>
    obtain ⟨hms, hparts⟩ := isProper_obj.mp h
    rw [canonical_obj, isProper_obj]
    refine ⟨(hms.map_snd canonical).sublist (List.filter_sublist.map Prod.fst), fun m hm => ?_⟩
    obtain ⟨n, hn, rfl⟩ := List.mem_map.mp (List.mem_of_mem_filter hm)
    exact ih n hn (hparts n hn)
  | _ => exact h

theorem at?_canonical : ∀ {p : Place} {d e : Doc}, d.canonical.at? p = some e →
    ∃ f : Doc, e = f.canonical
  | [], d, _, h => ⟨d, (Option.some.inj h).symm⟩
  | .member k :: p, d, e, h => by
    cases d with
    | obj ms =>
      rw [canonical_obj, at?] at h
      obtain ⟨v, hv, hrest⟩ := Option.bind_eq_some_iff.mp h
      obtain ⟨m, -, hm⟩ := List.mem_map.mp (List.mem_of_mem_filter (mem_of_lookup hv))
      cases hm
      exact at?_canonical hrest
    | arr ds => rw [canonical_arr] at h; cases h
    | _ => cases h
  | .item i :: p, d, e, h => by
    cases d with
    | arr ds =>
      rw [canonical_arr, at?] at h
      obtain ⟨v, hv, hrest⟩ := Option.bind_eq_some_iff.mp h
      obtain ⟨f, -, rfl⟩ := List.mem_map.mp (List.mem_of_getElem? hv)
      exact at?_canonical hrest
    | obj ms => rw [canonical_obj] at h; cases h
    | _ => cases h

/-- No member of a canonical document is vacant, at any level. -/
theorem not_isVacant_of_at? (h : d.canonical.at? p = some (.obj ms)) {m : Member} (hm : m ∈ ms) :
    m.2.isVacant = false := by
  obtain ⟨f, hf⟩ := at?_canonical h
  cases f with
  | obj ns =>
    rw [canonical_obj, Doc.obj.injEq] at hf
    subst hf
    simpa using List.of_mem_filter hm
  | arr ds => rw [canonical_arr] at hf; cases hf
  | _ => cases hf

theorem isVacant_eq_false_iff : d.isVacant = false ↔ d ≠ .null ∧ d ≠ .arr [] ∧ d ≠ .obj [] := by
  match d with
  | .null | .bool _ | .int _ | .real _ | .str _ | .arr [] | .arr (_ :: _) | .obj [] | .obj (_ :: _) =>
    simp [isVacant]

/-! ## Members that mean the same -/

section Members

variable {k : String} {v w : Doc}

/-- A member is replaced by one that means the same. -/
theorem canonical_setMember (hlookup : ms.lookup k = some w) (hv : v.canonical = w.canonical) :
    (obj (setMember k v ms)).canonical = (obj ms).canonical := by
  have hmap : (setMember k v ms).map (fun m => (m.1, m.2.canonical)) =
      ms.map fun m => (m.1, m.2.canonical) := by
    induction ms with
    | nil => cases hlookup
    | cons m ms ih =>
      rw [lookup_cons_eq_ite] at hlookup
      rw [setMember]
      split at hlookup
      · next hk =>
        cases hlookup
        rw [if_pos hk.symm, List.map_cons, List.map_cons, hv]
      · next hk => rw [if_neg (Ne.symm hk), List.map_cons, List.map_cons, ih hlookup]
  rw [canonical_obj, canonical_obj, hmap]

end Members

/-! ## Equal texts -/

/-- Documents mean the same when their canonical documents are the same up to the order of members. -/
theorem equivalent_iff_same : a.equivalent b = true ↔ a.canonical.same b.canonical = true := by
  rw [equivalent_iff, canonicalText, canonicalText, compactText_injective.eq_iff, same_iff]

theorem equivalent_canonical (a : Doc) : a.equivalent a.canonical = true := by
  rw [equivalent_iff_same, canonical_canonical, same_self]

/-- **What equivalence decides.** Two documents mean the same just when their canonical documents have
the same parts at the same places. The canonical document means what the document does, is its own
canonical document, and has no vacant member at any level. -/
theorem equivalent_tells (ha : a.isProper = true) (hb : b.isProper = true) :
    (a.equivalent b = true ↔ Alike a.canonical b.canonical) ∧
    a.canonical.canonical = a.canonical ∧ a.equivalent a.canonical = true ∧
    ∀ p ms, a.canonical.at? p = some (.obj ms) →
      ∀ m ∈ ms, m.2 ≠ .null ∧ m.2 ≠ .arr [] ∧ m.2 ≠ .obj [] := by
  refine ⟨?_, canonical_canonical a, equivalent_canonical a, fun p ms h m hm => ?_⟩
  · rw [equivalent_iff_same, alike_iff_same (isProper_canonical ha) (isProper_canonical hb)]
  · exact isVacant_eq_false_iff.mp (not_isVacant_of_at? h hm)

/-! ### Two documents that mean the same -/

/-- A document with empty members, and a text with characters that are escaped. -/
def sparse : Doc := .obj [
  ("spec", .obj [("note", "a\\b\nü𝄞"), ("args", .arr [])]),
  ("items", .arr [.null, .obj [("b", .null)], 1, .real (.finite ⟨false, 15, -1, .inr (by decide)⟩)]),
  ("status", .obj [("conditions", .arr [])])]

/-- The same without empty members, in another order. -/
def compacted : Doc := .obj [
  ("items", .arr [.null, .empty, 1, .real (.finite ⟨false, 15, -1, .inr (by decide)⟩)]),
  ("spec", .obj [("note", "a\\b\nü𝄞")])]

/-- Empty members and the order of members make no difference. One and true differ. -/
theorem sparse_tells : sparse.isProper = true ∧ compacted.isProper = true ∧
    sparse.equivalent compacted = true ∧ Alike sparse.canonical compacted.canonical ∧
    ¬ Alike (arr [1]).canonical (arr [true]).canonical := by
  have hsparse : sparse.isProper = true := by decide
  have hcompacted : compacted.isProper = true := by decide
  have hequal : sparse.equivalent compacted = true := by decide
  have hdiffer : ¬ (arr [1]).equivalent (arr [true]) = true := by decide
  exact ⟨hsparse, hcompacted, hequal, (equivalent_tells hsparse hcompacted).1.mp hequal,
    fun h => hdiffer ((equivalent_tells (by decide) (by decide)).1.mpr h)⟩

end Workbench.Doc
