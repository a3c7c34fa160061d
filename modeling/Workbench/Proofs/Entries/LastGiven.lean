import Mathlib.Data.List.Induction
import Workbench.Proofs.Others

/-!
# One entry a name

A list of named entries is given entry by entry. It keeps one entry for each name, in the place where
the name was given first and with the contents that were given last. Names are equal by value, so
`1` and `true` are one name.

* `Entries.key?`: what the name of an entry counts as; `Entries.key?_eq_iff` says that it tells names
  apart by value;
* `Entries.map_fst_set`, `Entries.key?_of_insert`, `Entries.mem_insert`: one more entry, and what it
  does to the names and to the entries;
* `Entries.IsLast`, `Entries.LastGiven`: the entries given last, in the order of their names;
  **`Entries.lastGiven_of_foldlM`** says that these are what is kept;
* **`Entries.gains_lastGiven`**: the same for a list that is read and then added to, with the entries
  that stay in place, and what can be put in again.
-/

namespace Workbench

open Doc

namespace Entries

variable {E F : Entries} {d e key : Doc} {es given items more : List Doc} {l : List (Doc × Doc)}
  {p : Doc × Doc} {i : Nat}

/-! ## Keys -/

/-- What the name of an entry counts as, if it has a name and that is no list or object. -/
def key? (e : Doc) : Option Doc := (nameOf? e).bind Doc.key?

/-- Both entries have names, and these are equal by value. -/
def SameName (d e : Doc) : Prop :=
  ∃ a b, nameOf? d = some a ∧ nameOf? e = some b ∧ a.looseEq b = true

theorem keyOf_eq_ok_iff : keyOf e = .ok key ↔ key? e = some key := by
  rw [keyOf, bind_eq_ok_iff, key?, Option.bind_eq_some_iff]
  refine exists_congr fun name => ?_
  rw [nameOf?_eq_some_iff, asKey]
  cases name.key? <;> simp

theorem key?_eq_some_loosen {name : Doc} (hname : nameOf? e = some name)
    (hkey : (key? e).isSome = true) : key? e = some name.loosen := by
  rw [key?, hname, Option.bind_some] at hkey ⊢
  cases name <;> first | rfl | cases hkey

/-- Keys are equal when names are equal by value. -/
theorem key?_eq_iff (hd : (key? d).isSome = true) (he : (key? e).isSome = true) :
    key? d = key? e ↔ SameName d e := by
  obtain ⟨_, hdkey⟩ := Option.isSome_iff_exists.mp hd
  obtain ⟨_, hekey⟩ := Option.isSome_iff_exists.mp he
  obtain ⟨a, ha, -⟩ := Option.bind_eq_some_iff.mp hdkey
  obtain ⟨b, hb, -⟩ := Option.bind_eq_some_iff.mp hekey
  rw [key?_eq_some_loosen ha hd, key?_eq_some_loosen hb he, Option.some.injEq, ← looseEq_iff]
  constructor
  · exact fun h => ⟨a, b, ha, hb, h⟩
  · rintro ⟨a', b', ha', hb', h⟩
    cases ha.symm.trans ha'
    cases hb.symm.trans hb'
    exact h

theorem keyOf_ne (h : key? d ≠ key? e) : keyOf d ≠ keyOf e := by
  intro heq
  refine h (Option.ext fun key => ?_)
  rw [← keyOf_eq_ok_iff, heq, keyOf_eq_ok_iff]

theorem IsKeyed.map_key? (h : E.IsKeyed) : E.toList.map key? = (E.keyed.map Prod.fst).map some := by
  rw [toList, List.map_map, List.map_map]
  exact List.map_congr_left fun p hp => keyOf_eq_ok_iff.mp (h.keyOf_eq p hp)

theorem IsKeyed.nodup_key? (h : E.IsKeyed) : (E.toList.map key?).Nodup := by
  rw [h.map_key?]
  exact h.nodup.map fun _ _ => Option.some.inj

/-! ## One more entry -/

/-- The keys stay, and a new one comes last. -/
theorem map_fst_set (l : List (Doc × Doc)) : (set key e l).map Prod.fst =
    if key ∈ l.map Prod.fst then l.map Prod.fst else l.map Prod.fst ++ [key] := by
  induction l with
  | nil => rfl
  | cons p l ih =>
    rw [set]
    by_cases hkey : p.1 = key
    · rw [if_pos hkey, if_pos (hkey ▸ List.mem_cons_self), List.map_cons, List.map_cons]
    · rw [if_neg hkey, List.map_cons, ih, List.map_cons]
      by_cases hthere : key ∈ l.map Prod.fst
      · rw [if_pos hthere, if_pos (List.mem_cons_of_mem _ hthere)]
      · rw [if_neg hthere, if_neg fun h => (List.mem_cons.mp h).elim (Ne.symm hkey) hthere,
          List.cons_append]

theorem getElem?_set_of_ne (hp : l[i]? = some p) (hne : p.1 ≠ key) : (set key e l)[i]? = some p := by
  induction l generalizing i with
  | nil => cases hp
  | cons q l ih =>
    rw [set]
    cases i with
    | zero =>
      cases hp
      rw [if_neg hne]
      rfl
    | succ i =>
      split
      · exact hp
      · exact ih hp

/-- The names stay, and a new one comes last. -/
theorem key?_of_insert (hE : E.IsKeyed) (h : E.insert e = .ok F) : F.toList.map key? =
    if key? e ∈ E.toList.map key? then E.toList.map key? else E.toList.map key? ++ [key? e] := by
  have hF := hE.insert h
  obtain ⟨key, hkey, rfl⟩ := insert_eq_ok h
  have hmem : some key ∈ (E.keyed.map Prod.fst).map some ↔ key ∈ E.keyed.map Prod.fst :=
    List.mem_map_of_injective fun _ _ => Option.some.inj
  rw [hF.map_key?, hE.map_key?, keyOf_eq_ok_iff.mp hkey, map_fst_set]
  simp only [hmem]
  split
  · rfl
  · rw [List.map_append, List.map_singleton]

/-- What is there is the entry itself, or was there under another name. -/
theorem mem_insert (hE : E.IsKeyed) (h : E.insert e = .ok F) (hd : d ∈ F.toList) :
    d = e ∨ d ∈ E.toList ∧ key? d ≠ key? e := by
  have hF := hE.insert h
  have he := mem_insert_self h
  by_cases hkey : key? d = key? e
  · exact .inl (List.inj_on_of_nodup_map hF.nodup_key? hd he hkey)
  · obtain ⟨key, -, rfl⟩ := insert_eq_ok h
    obtain ⟨p, hp, rfl⟩ := List.mem_map.mp hd
    rcases of_mem_set hp with rfl | hp
    · exact .inl rfl
    · exact .inr ⟨List.mem_map_of_mem hp, hkey⟩

theorem getElem?_insert_of_ne (hE : E.IsKeyed) (h : E.insert e = .ok F) (hd : E.toList[i]? = some d)
    (hne : key? d ≠ key? e) : F.toList[i]? = some d := by
  obtain ⟨key, hkey, rfl⟩ := insert_eq_ok h
  rw [toList, List.getElem?_map, Option.map_eq_some_iff] at hd ⊢
  obtain ⟨p, hp, rfl⟩ := hd
  refine ⟨p, getElem?_set_of_ne hp fun heq => hne ?_, rfl⟩
  rw [keyOf_eq_ok_iff.mp hkey, keyOf_eq_ok_iff.mp (hE.keyOf_eq p (List.mem_of_getElem? hp)), heq]

theorem exists_insert (E : Entries) (h : (key? e).isSome = true) : ∃ F, E.insert e = .ok F := by
  obtain ⟨key, hkey⟩ := Option.isSome_iff_exists.mp h
  exact ⟨_, by rw [insert, keyOf_eq_ok_iff.mpr hkey, ok_bind, pure_eq_ok]⟩

/-! ## Entries given one after the other -/

/-- The entry is the last one given under its name. -/
def IsLast (e : Doc) (given : List Doc) : Prop :=
  ∃ before after, given = before ++ e :: after ∧ ∀ d ∈ after, key? d ≠ key? e

theorem IsLast.append_left (h : IsLast e given) (es : List Doc) : IsLast e (es ++ given) := by
  obtain ⟨before, after, rfl, hafter⟩ := h
  exact ⟨es ++ before, after, (List.append_assoc _ _ _).symm, hafter⟩

theorem IsLast.concat (h : IsLast e given) (hne : key? e ≠ key? d) : IsLast e (given ++ [d]) := by
  obtain ⟨before, after, rfl, hafter⟩ := h
  refine ⟨before, after ++ [d], by rw [List.append_assoc, List.cons_append], fun x hx => ?_⟩
  rcases List.mem_append.mp hx with hx | hx
  · exact hafter x hx
  · rw [List.mem_singleton.mp hx]
    exact hne.symm

/-- The entries that are kept of those given: one a name, each the last one given, and in the order in
which the names were given first. -/
structure LastGiven (given kept : List Doc) : Prop where
  names : kept.map key? = (given.map key?).eraseDups
  differ : NamesDiffer kept
  last : ∀ e ∈ kept, IsLast e given

theorem eraseDups_concat {α : Type} [BEq α] [LawfulBEq α] [DecidableEq α] (as : List α) (a : α) :
    (as ++ [a]).eraseDups = if a ∈ as then as.eraseDups else as.eraseDups ++ [a] := by
  rw [List.eraseDups_append, List.removeAll, List.filter_singleton]
  by_cases ha : a ∈ as
  · simp [ha]
  · simp [ha, show [a].eraseDups = [a] from rfl]

theorem exists_foldlM (E : Entries) (h : ∀ e ∈ given, (key? e).isSome = true) :
    ∃ F, given.foldlM insert E = .ok F := by
  induction given generalizing E with
  | nil => exact ⟨E, rfl⟩
  | cons e given ih =>
    obtain ⟨he, hgiven⟩ := List.forall_mem_cons.mp h
    obtain ⟨G, hG⟩ := exists_insert E he
    obtain ⟨F, hF⟩ := ih G hgiven
    exact ⟨F, by rw [List.foldlM_cons, hG, ok_bind, hF]⟩

/-- **What is kept are the entries given last.** -/
theorem lastGiven_of_foldlM (h : given.foldlM insert empty = .ok F) : LastGiven given F.toList := by
  have hF := isKeyed_foldlM isKeyed_empty h
  suffices hkept : F.toList.map key? = (given.map key?).eraseDups ∧ ∀ e ∈ F.toList, IsLast e given from
    ⟨hkept.1, hF.namesDiffer, hkept.2⟩
  clear hF
  -- The last entry given decides: the induction is from the end of the list.
  induction given using List.reverseRecOn generalizing F with
  | nil =>
    cases h
    exact ⟨rfl, nofun⟩
  | append_singleton given e ih =>
    rw [List.foldlM_append] at h
    obtain ⟨G, hG, h⟩ := bind_eq_ok_iff.mp h
    rw [List.foldlM_cons] at h
    obtain ⟨_, hinsert, h⟩ := bind_eq_ok_iff.mp h
    cases h
    obtain ⟨hnames, hlast⟩ := ih hG
    have hkeyed := isKeyed_foldlM isKeyed_empty hG
    refine ⟨?_, fun d hd => ?_⟩
    · rw [key?_of_insert hkeyed hinsert, hnames, List.map_append, List.map_singleton, eraseDups_concat]
      simp only [List.mem_eraseDups]
    · rcases mem_insert hkeyed hinsert hd with rfl | ⟨hd, hne⟩
      · exact ⟨given, [], rfl, nofun⟩
      · exact (hlast d hd).concat hne

theorem mem_of_isLast (h : given.foldlM insert empty = .ok F) (he : IsLast e given) :
    e ∈ F.toList := by
  obtain ⟨before, after, rfl, hafter⟩ := he
  rw [List.foldlM_append] at h
  obtain ⟨E, hE, h⟩ := bind_eq_ok_iff.mp h
  rw [List.foldlM_cons] at h
  obtain ⟨G, hG, h⟩ := bind_eq_ok_iff.mp h
  exact mem_foldlM_of_ne ((isKeyed_foldlM isKeyed_empty hE).insert hG) h (mem_insert_self hG)
    fun d hd => keyOf_ne (hafter d hd).symm

theorem getElem?_foldlM_of_ne (hE : E.IsKeyed) (h : more.foldlM insert E = .ok F)
    (hd : E.toList[i]? = some d) (hne : ∀ e ∈ more, key? e ≠ key? d) : F.toList[i]? = some d := by
  induction more generalizing E with
  | nil =>
    cases h
    exact hd
  | cons e more ih =>
    obtain ⟨hne, hmore⟩ := List.forall_mem_cons.mp hne
    rw [List.foldlM_cons] at h
    obtain ⟨G, hG, h⟩ := bind_eq_ok_iff.mp h
    exact ih (hE.insert hG) h (getElem?_insert_of_ne hE hG hd hne.symm) hmore

theorem ofDoc_arr (es : List Doc) : ofDoc (.arr es) = ofList es := by
  cases es <;> rfl

theorem gains_arr_iff : Gains (.arr items) more F ↔ (items ++ more).foldlM insert empty = .ok F := by
  rw [Gains, ofDoc_arr, List.foldlM_append, bind_eq_ok_iff]
  rfl

/-- **Every name keeps its first place and its last entry.** A list of entries with names is read, and
more entries are put in. What is there then is, for each of the names in the order in which they were
given first, the entry that was given last. So an entry whose name was given once stays in its place,
and nothing changes when what is there is read again and the last entries are put in again. -/
theorem gains_lastGiven (hnamed : ∀ e ∈ items ++ more, (key? e).isSome = true) :
    (∀ d ∈ items ++ more, ∀ e ∈ items ++ more, key? d = key? e ↔ SameName d e) ∧
    ∃ F, Gains (.arr items) more F ∧ LastGiven (items ++ more) F.toList ∧
      (NamesDiffer items → ∀ (i : Nat) e, items[i]? = some e → (∀ d ∈ more, key? d ≠ key? e) →
        F.toList[i]? = some e) ∧
      ∀ again, (∀ e ∈ again, IsLast e more) → Gains (.arr F.toList) again F := by
  obtain ⟨F, hF⟩ := exists_foldlM empty hnamed
  have hkeyed := isKeyed_foldlM isKeyed_empty hF
  refine ⟨fun d hd e he => key?_eq_iff (hnamed d hd) (hnamed e he), F, gains_arr_iff.mpr hF,
    lastGiven_of_foldlM hF, fun hdiffer i e he hne => ?_, fun again hagain => ?_⟩
  · obtain ⟨E, hE, hmore⟩ := gains_arr_iff.mpr hF
    have hitems : E.toList = items := toList_ofList hdiffer.keys (by rwa [← ofDoc_arr])
    exact getElem?_foldlM_of_ne (isKeyed_ofDoc hE) hmore (hitems ▸ he) hne
  · exact gains_of_mem hkeyed fun e he => mem_of_isLast hF ((hagain e he).append_left items)

/-- Entries under `1`, under `x`, and under `true`, which is the first name again. -/
def numberedEntries : List Doc := [
  .obj [("name", 1), ("value", "first")],
  .obj [("name", "x"), ("value", "second")],
  .obj [("name", true), ("value", "third")]]

/-- More of them, under `1.0` and under the text `1`. -/
def moreNumberedEntries : List Doc := [
  .obj [("name", .real (.finite ⟨false, 1, 0, .inr (by decide)⟩)), ("value", "fourth")],
  .obj [("name", "1"), ("value", "fifth")]]

/-- The number keeps its place and is `1.0` in the end, and `x` stays where it is. -/
theorem numberedEntries_lastGiven :
    (∀ e ∈ numberedEntries ++ moreNumberedEntries, (key? e).isSome = true) ∧
    ∃ F, Gains (.arr numberedEntries) moreNumberedEntries F ∧
      F.toList = [
        .obj [("name", .real (.finite ⟨false, 1, 0, .inr (by decide)⟩)), ("value", "fourth")],
        .obj [("name", "x"), ("value", "second")],
        .obj [("name", "1"), ("value", "fifth")]] ∧
      LastGiven (numberedEntries ++ moreNumberedEntries) F.toList ∧ Gains (.arr F.toList) [] F := by
  have hnamed : ∀ e ∈ numberedEntries ++ moreNumberedEntries, (key? e).isSome = true := by
    decide +kernel
  obtain ⟨-, F, hF, hlast, -, hagain⟩ := gains_lastGiven hnamed
  refine ⟨hnamed, F, hF, ?_, hlast, hagain [] nofun⟩
  cases gains_arr_iff.mp hF
  rfl

end Entries

end Workbench
