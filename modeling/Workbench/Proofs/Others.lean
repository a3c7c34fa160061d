import Workbench.Proofs.Doc.Places
import Workbench.Proofs.Entries

/-!
# Lists that keep the entries of other names

The operator puts its own entries into lists that belong to a user, and edits some that are there.
The entries of other names stay as they are, and in their order.

* `Doc.nameOf?`, `Doc.hasName`, `Doc.hasNameIn`: the name of an entry, and entries of one name or of
  some names;
* `Doc.apply_named_cases`: what becomes of the first entry of a name;
* `Doc.others`, `Doc.NamesDiffer`: the entries of other names, and lists in which no name repeats;
* `Doc.KeepsOthers`: a list with the same entries of other names;
* **`Entries.Gains.keepsOthers`**, **`Doc.keepsOthers_set`**: entries that are put in, and one that
  is edited.
-/

namespace Workbench

namespace Doc

variable {c c' d e key : Doc} {es names : List Doc} {x y z : Option Doc}

/-! ## Names -/

/-- The name of an entry, if it has one. -/
def nameOf? (e : Doc) : Option Doc := e.at? [.member "name"]

/-- The entry has a text for its name. -/
def hasName (s : String) (e : Doc) : Bool := nameOf? e = some (.str s)

/-- The entry has one of some names. -/
def hasNameIn (names : List Doc) (e : Doc) : Bool :=
  (nameOf? e).any fun name => names.any name.looseEq

/-- The entries of other names. -/
def others (names es : List Doc) : List Doc := es.filter fun e => !hasNameIn names e

/-- No two entries have equal names. -/
def NamesDiffer (es : List Doc) : Prop :=
  (es.map nameOf?).Pairwise fun x y => ∀ a b, x = some a → y = some b → a.looseEq b = false

/-- The entries of a list, none when it is no list. -/
def entriesOf : Option Doc → List Doc
  | some (.arr es) => es
  | _ => []

theorem entriesOf_of_not_truthy (h : ¬ (x.getD .null).truthy = true) :
    entriesOf x = [] := by
  cases x with
  | none => rfl
  | some d =>
    cases d with
    | arr ds =>
      cases ds with
      | nil => rfl
      | cons d ds => exact absurd rfl h
    | _ => rfl

/-- The list has the same entries of other names afterwards, and still no name repeats. -/
def KeepsOthers (names : List Doc) (x y : Option Doc) : Prop :=
  NamesDiffer (entriesOf x) →
    NamesDiffer (entriesOf y) ∧ others names (entriesOf y) = others names (entriesOf x)

theorem KeepsOthers.refl (names : List Doc) (x : Option Doc) : KeepsOthers names x x :=
  fun hx => ⟨hx, rfl⟩

theorem KeepsOthers.trans (h : KeepsOthers names x y) (h' : KeepsOthers names y z) :
    KeepsOthers names x z := fun hx =>
  have hy := h hx
  ⟨(h' hy.1).1, (h' hy.1).2.trans hy.2⟩

theorem nameOf?_eq_some_iff {name : Doc} : nameOf? e = some name ↔ e.require "name" = .ok name := by
  rw [require_eq_ok_iff, nameOf?]
  cases e with
  | obj ms => cases h : ms.lookup "name" <;> simp [at?, h]
  | _ => simp [at?]

theorem SameBut.nameOf?_eq {k : String} (h : SameBut k d e) (hk : "name" ≠ k) :
    nameOf? e = nameOf? d := by
  refine Option.ext fun name => ?_
  rw [nameOf?_eq_some_iff, nameOf?_eq_some_iff, h.require hk]

theorem hasName_iff {s : String} : hasName s e = true ↔ nameOf? e = some (.str s) := decide_eq_true_iff

theorem hasName_eq {s : String} (h : e.read "name" = .ok key) :
    hasName s e = decide (key = .str s) := by
  obtain ⟨ms, rfl, rfl⟩ := read_eq_ok_iff.mp h
  rw [hasName, decide_eq_decide, nameOf?_eq_some_iff, require_eq_ok_iff]
  constructor
  · rintro ⟨_, ⟨⟩, hms⟩
    rw [hms, Option.getD_some]
  · exact fun h => ⟨ms, rfl, eq_some_of_getD h (by simp)⟩

theorem hasName_of_read_ne {s : String} (h : ∃ name, e.read "name" = .ok name ∧ name ≠ .str s) :
    hasName s e = false := by
  obtain ⟨name, hname, hne⟩ := h
  rw [hasName_eq hname]
  exact decide_eq_false hne

/-- The first entry of the name is edited, or there is none and entries are added. -/
theorem apply_named_cases {f : FirstEdit} {es' : List Doc} (h : f.apply es = .ok es') :
    (∃ before e e' after, es = before ++ e :: after ∧ es' = before ++ e' :: after ∧
      (∀ d ∈ before, hasName f.name d = false) ∧ hasName f.name e = true ∧ f.edit e = .ok e') ∨
    (∀ d ∈ es, hasName f.name d = false) ∧ es' = es ++ f.added := by
  rcases FirstEdit.apply_cases h with
    ⟨before, e, e', after, hes, hes', hbefore, he, hedit⟩ | ⟨hes, hes'⟩
  · refine .inl ⟨before, e, e', after, hes, hes', fun d hd => hasName_of_read_ne (hbefore d hd), ?_,
      hedit⟩
    rw [hasName_eq he]
    exact decide_eq_true rfl
  · exact .inr ⟨fun d hd => hasName_of_read_ne (hes d hd), hes'⟩

theorem exists_nameOf? (h : Entries.keyOf e = .ok key) :
    ∃ a, nameOf? e = some a ∧ a.loosen = key := by
  obtain ⟨name, hname, -⟩ := bind_eq_ok_iff.mp h
  obtain ⟨name', hread, hkey⟩ := Entries.keyOf_eq_ok h
  obtain ⟨ms, rfl, hms⟩ := require_eq_ok_iff.mp hname
  obtain rfl : name = name' := by simpa [hms] using hread
  exact ⟨name, nameOf?_eq_some_iff.mpr hname, hkey⟩

theorem hasNameIn_of_keyOf {s : String} (hs : .str s ∈ names) (h : Entries.keyOf e = .ok (.str s)) :
    hasNameIn names e = true := by
  obtain ⟨a, ha, hloose⟩ := exists_nameOf? h
  rw [hasNameIn, ha, Option.any_some, List.any_eq_true]
  exact ⟨.str s, hs, looseEq_iff.mpr hloose⟩

theorem NamesDiffer.keys (h : NamesDiffer es) : es.Pairwise fun d e =>
    ∀ key, Entries.keyOf d = .ok key → Entries.keyOf e ≠ .ok key := by
  refine (List.pairwise_map.mp h).imp fun {d e} hde key hd he => ?_
  obtain ⟨a, ha, rfl⟩ := exists_nameOf? hd
  obtain ⟨b, hb, hba⟩ := exists_nameOf? he
  have hne := hde a b ha hb
  rw [looseEq_iff.mpr hba.symm] at hne
  cases hne

theorem others_cons (h : hasNameIn names e = true) : others names (e :: es) = others names es := by
  rw [others, List.filter_cons, if_neg (by simp [h]), others]

theorem others_cons_congr {es' : List Doc} (h : others names es' = others names es) :
    others names (e :: es') = others names (e :: es) := by
  simp only [others, List.filter_cons] at h ⊢
  rw [h]

/-! ## One entry -/

theorem others_set : ∀ {es : List Doc} {i : Nat}, es[i]? = some c → nameOf? c' = nameOf? c →
    hasNameIn names c = true → others names (es.set i c') = others names es
  | [], _, hc, _, _ => by cases hc
  | d :: es, 0, hc, hname, hnamed => by
    cases hc
    have hnamed' : hasNameIn names c' = true := by rw [hasNameIn, hname, ← hasNameIn, hnamed]
    rw [List.set_cons_zero, others_cons hnamed, others_cons hnamed']
  | d :: es, i + 1, hc, hname, hnamed => by
    rw [List.set_cons_succ]
    exact others_cons_congr (others_set hc hname hnamed)

theorem NamesDiffer.set {i : Nat} (hes : NamesDiffer es) (hc : es[i]? = some c)
    (hname : nameOf? c' = nameOf? c) : NamesDiffer (es.set i c') := by
  have hsame : (es.set i c').map nameOf? = es.map nameOf? := by
    obtain ⟨hi, rfl⟩ := List.getElem?_eq_some_iff.mp hc
    rw [List.map_set, hname, ← List.map_set, List.set_getElem_self]
  rw [NamesDiffer, hsame]
  exact hes

/-- **An entry of one of the names is edited**, and keeps its name. -/
theorem keepsOthers_set {i : Nat} (hc : es[i]? = some c) (hname : nameOf? c' = nameOf? c)
    (hnamed : hasNameIn names c = true) :
    KeepsOthers names (some (.arr es)) (some (.arr (es.set i c'))) :=
  fun hes => ⟨hes.set hc hname, others_set hc hname hnamed⟩

end Doc

namespace Entries

open Doc

variable {E F : Entries} {e : Doc} {es names : List Doc} {x : Option Doc} {s : String}

/-! ## Entries that are put in -/

theorem IsKeyed.namesDiffer (h : E.IsKeyed) : NamesDiffer E.toList := by
  refine List.pairwise_map.mpr (List.pairwise_map.mpr ?_)
  refine (List.pairwise_map.mp h.nodup).imp_of_mem fun {p q} hp hq hne a b ha hb => ?_
  obtain ⟨a', ha', hpkey⟩ := exists_nameOf? (h.keyOf_eq p hp)
  obtain ⟨b', hb', hqkey⟩ := exists_nameOf? (h.keyOf_eq q hq)
  cases ha.symm.trans ha'
  cases hb.symm.trans hb'
  rw [← Bool.not_eq_true, looseEq_iff, hpkey, hqkey]
  exact hne

theorem others_set (hs : .str s ∈ names) (he : keyOf e = .ok (.str s)) : ∀ {l : List (Doc × Doc)},
    (∀ p ∈ l, keyOf p.2 = .ok p.1) →
      others names ((set (.str s) e l).map Prod.snd) = others names (l.map Prod.snd)
  | [], _ => others_cons (hasNameIn_of_keyOf hs he)
  | p :: l, hkeys => by
    obtain ⟨hp, hl⟩ := List.forall_mem_cons.mp hkeys
    rw [set]
    split
    · next hkey =>
      rw [List.map_cons, List.map_cons, others_cons (hasNameIn_of_keyOf hs he),
        others_cons (hasNameIn_of_keyOf hs (hkey ▸ hp))]
    · rw [List.map_cons, List.map_cons]
      exact others_cons_congr (others_set hs he hl)

theorem others_foldlM {ss : List String} (hss : ∀ s ∈ ss, .str s ∈ names) {more : List Doc}
    (hmore : AreNamed more ss) (hE : E.IsKeyed) (h : more.foldlM insert E = .ok F) :
    others names F.toList = others names E.toList := by
  induction hmore generalizing E with
  | nil =>
    cases h
    rfl
  | cons he _ ih =>
    obtain ⟨hs, hss⟩ := List.forall_mem_cons.mp hss
    rw [List.foldlM_cons] at h
    obtain ⟨G, hG, h⟩ := bind_eq_ok_iff.mp h
    rw [ih hss (hE.insert hG) h]
    obtain ⟨key, hkey, rfl⟩ := insert_eq_ok hG
    have hnamed := keyOf_eq_str_iff.mpr he
    cases hnamed.symm.trans hkey
    exact others_set hs hnamed hE.keyOf_eq

theorem eq_nil_of_texts {l : List Doc} (htexts : ∀ e ∈ l, ∃ s, e = .str s) (h : ofList l = .ok E) :
    l = [] := by
  obtain ⟨keyed, rfl, hkeys⟩ := keys_of_foldlM h
  refine List.map_eq_nil_iff.mpr (List.eq_nil_iff_forall_not_mem.mpr fun p hp => ?_)
  obtain ⟨s, hs⟩ := htexts _ (List.mem_map_of_mem hp)
  have hkey := hkeys p hp
  rw [hs] at hkey
  cases hkey

theorem toList_eq_entriesOf (hx : NamesDiffer (entriesOf x)) (h : ofDoc (x.getD .null) = .ok E) :
    E.toList = entriesOf x := by
  have hread := h
  unfold ofDoc at h
  split at h
  · next htruthy =>
    obtain ⟨l, hl, hlist⟩ := bind_eq_ok_iff.mp h
    have hl' : ((x.getD .null).orElse (.arr [])).elements = .ok l := by
      rw [orElse, if_pos htruthy, hl]
    rcases elements_orElse hl' with harr | htexts
    · obtain rfl : x = some (.arr l) := eq_some_of_getD harr (by simp)
      exact toList_ofDoc hl' hx.keys hread
    · obtain rfl := eq_nil_of_texts htexts hlist
      cases hlist
      rcases x with _ | d
      · rfl
      cases d with
      | arr es =>
        cases hl
        rfl
      | _ => rfl
  · next hfalsy =>
    cases h
    exact (entriesOf_of_not_truthy hfalsy).symm

/-- **The entries of other names stay when some are put in.** -/
theorem Gains.keepsOthers {more : List Doc} {ss : List String} (h : Gains (x.getD .null) more F)
    (hmore : AreNamed more ss) (hss : ∀ s ∈ ss, .str s ∈ names) :
    KeepsOthers names x (some (.arr F.toList)) := by
  refine fun hx => ⟨h.isKeyed.namesDiffer, ?_⟩
  obtain ⟨E, hE, hF⟩ := h
  rw [entriesOf, others_foldlM hss hmore (isKeyed_ofDoc hE) hF, toList_eq_entriesOf hx hE]

end Entries

end Workbench
