import Mathlib.Data.List.Nodup
import Workbench.Entries
import Workbench.Proofs.Doc.Loose

/-!
# What is put into a list twice

An entry that was put into a list is there, and putting it in once more changes nothing. The same
holds of an entry that was put in before others of other names.

* `Entries.IsKeyed`: one entry a key; `Entries.insert_of_mem`, `Entries.mem_insert_self` and
  `Entries.mem_insert_of_ne` say what a second insertion meets;
* `Entries.ofDoc_toList`, `Entries.toList_ofList`: a list of entries read again, and one whose names
  do not repeat;
* `FirstEdit`: an edit of the first entry of a name, of which `putEntry` is one;
* **`FirstEdit.apply_again`**, **`FirstEdit.apply_other`**: it changes nothing when it is made again, at
  once or after an edit of another name;
* `putEntries_again`, `FirstEdit.apply_putEntries`: the same for several entries put in.
-/

namespace Workbench

open Doc

namespace Entries

variable {E F : Entries} {e x key : Doc} {l : List (Doc × Doc)} {p : Doc × Doc}

/-! ## Entries under their keys -/

/-- Every entry is kept under the key of its name, and no key repeats. -/
structure IsKeyed (E : Entries) : Prop where
  keyOf_eq : ∀ p ∈ E.keyed, keyOf p.2 = .ok p.1
  nodup : (E.keyed.map Prod.fst).Nodup

theorem isKeyed_empty : empty.IsKeyed := ⟨fun _ h => absurd h List.not_mem_nil, List.nodup_nil⟩

theorem set_of_not_mem (h : key ∉ l.map Prod.fst) : set key e l = l ++ [(key, e)] := by
  induction l with
  | nil => rfl
  | cons p l ih =>
    obtain ⟨hne, hrest⟩ := not_or.mp (List.mem_cons.not.mp h)
    rw [set, if_neg (Ne.symm hne), ih hrest, List.cons_append]

theorem mem_set_self : ∀ l : List (Doc × Doc), (key, e) ∈ set key e l
  | [] => List.mem_cons_self
  | (k, d) :: l => by
    rw [set]
    split
    · next hk => exact hk ▸ List.mem_cons_self
    · exact List.mem_cons_of_mem _ (mem_set_self l)

theorem mem_set_of_ne (hp : p ∈ l) (hne : p.1 ≠ key) : p ∈ set key e l := by
  induction l with
  | nil => cases hp
  | cons q l ih =>
    rw [set]
    rcases List.mem_cons.mp hp with rfl | hp
    · rw [if_neg hne]
      exact List.mem_cons_self
    · split
      · exact List.mem_cons_of_mem _ hp
      · exact List.mem_cons_of_mem _ (ih hp)

theorem of_mem_set : ∀ {l : List (Doc × Doc)}, p ∈ set key e l → p = (key, e) ∨ p ∈ l
  | [], hp => .inl (List.mem_singleton.mp hp)
  | (k, d) :: l, hp => by
    rw [set] at hp
    split at hp
    · next hk =>
      exact (List.mem_cons.mp hp).imp (fun h => hk ▸ h) (List.mem_cons_of_mem _)
    · rcases List.mem_cons.mp hp with rfl | hp
      · exact .inr List.mem_cons_self
      · exact (of_mem_set hp).imp_right (List.mem_cons_of_mem _)

theorem set_of_mem (hnodup : (l.map Prod.fst).Nodup) (h : (key, e) ∈ l) : set key e l = l := by
  induction l with
  | nil => cases h
  | cons p l ih =>
    obtain ⟨hnotin, hnodup⟩ := List.nodup_cons.mp hnodup
    rw [set]
    rcases List.mem_cons.mp h with rfl | h
    · rw [if_pos rfl]
    · rw [if_neg, ih hnodup h]
      exact fun hk => hnotin (hk ▸ List.mem_map_of_mem h)

theorem keys_set_subset (l : List (Doc × Doc)) {k : Doc} (h : k ∈ (set key e l).map Prod.fst) :
    k = key ∨ k ∈ l.map Prod.fst := by
  obtain ⟨p, hp, rfl⟩ := List.mem_map.mp h
  exact (of_mem_set hp).imp (congrArg Prod.fst) List.mem_map_of_mem

theorem nodup_set (h : (l.map Prod.fst).Nodup) : ((set key e l).map Prod.fst).Nodup := by
  induction l with
  | nil => exact List.nodup_cons.mpr ⟨List.not_mem_nil, List.nodup_nil⟩
  | cons p l ih =>
    obtain ⟨hnotin, hnodup⟩ := List.nodup_cons.mp h
    rw [set]
    split
    · exact h
    · next hk =>
      refine List.nodup_cons.mpr ⟨fun hp => ?_, ih hnodup⟩
      exact (keys_set_subset l hp).elim hk hnotin

theorem keyOf_eq_ok (h : keyOf e = .ok key) : ∃ name, e.read "name" = .ok name ∧ name.loosen = key := by
  obtain ⟨name, hname, hkey⟩ := bind_eq_ok_iff.mp h
  obtain ⟨ms, rfl, hms⟩ := require_eq_ok_iff.mp hname
  refine ⟨name, by rw [read_obj, hms, Option.getD_some], ?_⟩
  unfold asKey at hkey
  cases name <;> simp_all [key?]

theorem keyOf_eq_str_iff {s : String} : keyOf e = .ok (.str s) ↔ e.require "name" = .ok (.str s) := by
  constructor
  · intro h
    obtain ⟨name, hname, hloose⟩ := keyOf_eq_ok h
    obtain ⟨name', hname', -⟩ := bind_eq_ok_iff.mp h
    obtain ⟨ms, rfl, hms⟩ := require_eq_ok_iff.mp hname'
    obtain rfl : name' = name := by simpa [hms] using hname
    rw [hname', loosen_eq_str_iff.mp hloose]
  · intro h
    rw [keyOf, h]
    rfl

/-! ## Insertions -/

theorem insert_eq_ok (h : E.insert e = .ok F) :
    ∃ key, keyOf e = .ok key ∧ F = ⟨set key e E.keyed⟩ := by
  obtain ⟨key, hkey, h⟩ := bind_eq_ok_iff.mp h
  exact ⟨key, hkey, (Except.ok.inj h).symm⟩

theorem IsKeyed.insert (hE : E.IsKeyed) (h : E.insert e = .ok F) : F.IsKeyed := by
  obtain ⟨key, hkey, rfl⟩ := insert_eq_ok h
  refine ⟨fun p hp => ?_, nodup_set hE.nodup⟩
  rcases of_mem_set hp with rfl | hp
  · exact hkey
  · exact hE.keyOf_eq p hp

/-- **An entry that is there is not put in again.** -/
theorem insert_of_mem (hE : E.IsKeyed) (h : e ∈ E.toList) : E.insert e = .ok E := by
  obtain ⟨p, hp, rfl⟩ := List.mem_map.mp h
  rw [insert, hE.keyOf_eq p hp, ok_bind, set_of_mem hE.nodup hp]
  rfl

/-- An entry that was put in is there. -/
theorem mem_insert_self (h : E.insert e = .ok F) : e ∈ F.toList := by
  obtain ⟨key, -, rfl⟩ := insert_eq_ok h
  exact List.mem_map_of_mem (mem_set_self _)

/-- So are the entries of other names that were there before. -/
theorem mem_insert_of_ne (hE : E.IsKeyed) (h : E.insert e = .ok F) (hx : x ∈ E.toList)
    (hne : keyOf x ≠ keyOf e) : x ∈ F.toList := by
  obtain ⟨key, hkey, rfl⟩ := insert_eq_ok h
  obtain ⟨p, hp, rfl⟩ := List.mem_map.mp hx
  refine List.mem_map_of_mem (mem_set_of_ne hp fun hpkey => hne ?_)
  rw [hE.keyOf_eq p hp, hkey, hpkey]

theorem foldlM_insert : ∀ {l : List (Doc × Doc)} (before : List (Doc × Doc)),
    (∀ p ∈ l, keyOf p.2 = .ok p.1) → ((before ++ l).map Prod.fst).Nodup →
      (l.map Prod.snd).foldlM insert ⟨before⟩ = .ok ⟨before ++ l⟩
  | [], before, _, _ => by rw [List.append_nil]; rfl
  | p :: l, before, hkeys, hnodup => by
    obtain ⟨hp, hl⟩ := List.forall_mem_cons.mp hkeys
    have hnew : p.1 ∉ before.map Prod.fst := by
      rw [List.map_append, List.map_cons] at hnodup
      exact fun h => (List.nodup_append.mp hnodup).2.2 _ h _ List.mem_cons_self rfl
    rw [List.append_cons] at hnodup ⊢
    have hinsert : insert ⟨before⟩ p.2 = .ok ⟨before ++ [p]⟩ := by
      rw [insert, hp, ok_bind, set_of_not_mem hnew]
      rfl
    rw [List.map_cons, List.foldlM_cons, hinsert, ok_bind]
    exact foldlM_insert _ hl hnodup

theorem ofList_toList (hE : E.IsKeyed) : ofList E.toList = .ok E :=
  foldlM_insert [] hE.keyOf_eq hE.nodup

theorem ofDoc_toList (hE : E.IsKeyed) : ofDoc (.arr E.toList) = .ok E := by
  obtain ⟨_ | ⟨p, l⟩⟩ := E
  · rfl
  · exact ofList_toList hE

theorem isKeyed_foldlM : ∀ {es : List Doc} {E F : Entries}, E.IsKeyed →
    es.foldlM insert E = .ok F → F.IsKeyed
  | [], _, _, hE, h => by
    cases h
    exact hE
  | e :: es, E, F, hE, h => by
    rw [List.foldlM_cons] at h
    obtain ⟨G, hG, h⟩ := bind_eq_ok_iff.mp h
    exact isKeyed_foldlM (hE.insert hG) h

theorem isKeyed_ofDoc {d : Doc} (h : ofDoc d = .ok E) : E.IsKeyed := by
  unfold ofDoc at h
  split at h
  · obtain ⟨es, -, h⟩ := bind_eq_ok_iff.mp h
    exact isKeyed_foldlM isKeyed_empty h
  · cases h
    exact isKeyed_empty

theorem keys_of_foldlM : ∀ {es : List Doc} {E F : Entries}, es.foldlM insert E = .ok F →
    ∃ l : List (Doc × Doc), l.map Prod.snd = es ∧ ∀ p ∈ l, keyOf p.2 = .ok p.1
  | [], _, _, _ => ⟨[], rfl, fun _ h => absurd h List.not_mem_nil⟩
  | e :: es, E, F, h => by
    rw [List.foldlM_cons] at h
    obtain ⟨G, hG, h⟩ := bind_eq_ok_iff.mp h
    obtain ⟨key, hkey, -⟩ := insert_eq_ok hG
    obtain ⟨l, rfl, hl⟩ := keys_of_foldlM h
    exact ⟨(key, e) :: l, rfl, List.forall_mem_cons.mpr ⟨hkey, hl⟩⟩

/-- **Entries whose keys do not repeat are read as they are.** -/
theorem toList_ofList {es : List Doc}
    (hes : es.Pairwise fun d e => ∀ key, keyOf d = .ok key → keyOf e ≠ .ok key)
    (h : ofList es = .ok E) : E.toList = es := by
  obtain ⟨l, rfl, hl⟩ := keys_of_foldlM h
  have hnodup : (l.map Prod.fst).Nodup := by
    refine List.pairwise_map.mpr ((List.pairwise_map.mp hes).imp_of_mem fun hp hq hne heq => ?_)
    exact hne _ (hl _ hp) (heq ▸ hl _ hq)
  cases (foldlM_insert [] hl hnodup).symm.trans h
  rfl

theorem toList_ofDoc {d : Doc} {es : List Doc} (hd : (d.orElse (.arr [])).elements = .ok es)
    (hes : es.Pairwise fun d e => ∀ key, keyOf d = .ok key → keyOf e ≠ .ok key)
    (h : ofDoc d = .ok E) : E.toList = es := by
  unfold ofDoc at h
  unfold orElse at hd
  split at h
  · next htruthy =>
    rw [if_pos htruthy] at hd
    rw [hd, ok_bind] at h
    exact toList_ofList hes h
  · next hfalsy =>
    rw [if_neg hfalsy] at hd
    cases hd
    cases h
    rfl

/-! ## Several entries put in -/

/-- The entries of a document, and some more. -/
def Gains (d : Doc) (more : List Doc) (F : Entries) : Prop :=
  ∃ E, ofDoc d = .ok E ∧ more.foldlM insert E = .ok F

variable {more : List Doc} {names : List String}

theorem mem_foldlM_of_ne : ∀ {more : List Doc} {E F : Entries}, E.IsKeyed →
    more.foldlM insert E = .ok F → x ∈ E.toList → (∀ e ∈ more, keyOf x ≠ keyOf e) → x ∈ F.toList
  | [], _, _, _, h, hx, _ => by
    cases h
    exact hx
  | e :: more, E, F, hE, h, hx, hne => by
    obtain ⟨hne, hmore⟩ := List.forall_mem_cons.mp hne
    rw [List.foldlM_cons] at h
    obtain ⟨G, hG, h⟩ := bind_eq_ok_iff.mp h
    exact mem_foldlM_of_ne (hE.insert hG) h (mem_insert_of_ne hE hG hx hne) hmore

theorem foldlM_of_mem (hE : E.IsKeyed) : ∀ {more : List Doc}, (∀ e ∈ more, e ∈ E.toList) →
    more.foldlM insert E = .ok E
  | [], _ => rfl
  | e :: more, h => by
    obtain ⟨he, hmore⟩ := List.forall_mem_cons.mp h
    rw [List.foldlM_cons, insert_of_mem hE he, ok_bind]
    exact foldlM_of_mem hE hmore

theorem Gains.isKeyed {d : Doc} (h : Gains d more F) : F.IsKeyed := by
  obtain ⟨E, hE, hF⟩ := h
  exact isKeyed_foldlM (isKeyed_ofDoc hE) hF

/-- **Entries that are there are not put in again.** -/
theorem gains_of_mem (hF : F.IsKeyed) (h : ∀ e ∈ more, e ∈ F.toList) :
    Gains (.arr F.toList) more F := ⟨F, ofDoc_toList hF, foldlM_of_mem hF h⟩

theorem Gains.mem_of_ne (h : Gains (.arr E.toList) more F) (hE : E.IsKeyed) (hx : x ∈ E.toList)
    (hne : ∀ e ∈ more, keyOf x ≠ keyOf e) : x ∈ F.toList := by
  obtain ⟨E', hE', hF⟩ := h
  cases (ofDoc_toList hE).symm.trans hE'
  exact mem_foldlM_of_ne hE hF hx hne

end Entries

/-- A list of entries, each with its name. -/
def AreNamed (entries : List Doc) (names : List String) : Prop :=
  List.Forall₂ (fun e name => e.require "name" = .ok (.str name)) entries names

namespace Entries

variable {E F : Entries} {more : List Doc} {names : List String}

theorem keyOf_ne_of_named {x : Doc} {name : String} (hx : x.require "name" = .ok (.str name))
    (hmore : AreNamed more names) (hname : name ∉ names) : ∀ e ∈ more, keyOf x ≠ keyOf e := by
  induction hmore with
  | nil => exact fun _ h => absurd h List.not_mem_nil
  | cons he _ ih =>
    obtain ⟨hne, hrest⟩ := not_or.mp (List.mem_cons.not.mp hname)
    refine List.forall_mem_cons.mpr ⟨?_, ih hrest⟩
    rw [keyOf_eq_str_iff.mpr hx, keyOf_eq_str_iff.mpr he]
    simpa using hne

theorem mem_foldlM (hmore : AreNamed more names) (hnames : names.Nodup) (hE : E.IsKeyed)
    (h : more.foldlM insert E = .ok F) : ∀ e ∈ more, e ∈ F.toList := by
  induction hmore generalizing E with
  | nil => exact fun _ h => absurd h List.not_mem_nil
  | cons he hmore ih =>
    obtain ⟨hnotin, hnodup⟩ := List.nodup_cons.mp hnames
    rw [List.foldlM_cons] at h
    obtain ⟨G, hG, h⟩ := bind_eq_ok_iff.mp h
    have hGkeyed := hE.insert hG
    refine List.forall_mem_cons.mpr ⟨?_, ih hnodup hGkeyed h⟩
    exact mem_foldlM_of_ne hGkeyed h (mem_insert_self hG) (keyOf_ne_of_named he hmore hnotin)

/-- **Entries of different names that were put in are there.** -/
theorem Gains.mem {d : Doc} (h : Gains d more F) (hmore : AreNamed more names)
    (hnames : names.Nodup) : ∀ e ∈ more, e ∈ F.toList := by
  obtain ⟨E, hE, hF⟩ := h
  exact mem_foldlM hmore hnames (isKeyed_ofDoc hE) hF

end Entries

/-! ## Edits of the first entry of a name -/

/-- An edit of the first entry with a name. If there is none, some entries are added. -/
structure FirstEdit where
  name : String
  edit : Doc → Except Fault Doc
  added : List Doc

namespace FirstEdit

variable {f g : FirstEdit} {e name : Doc} {es : List Doc}

/-- The list after the edit. -/
def apply (f : FirstEdit) : List Doc → Except Fault (List Doc)
  | [] => .ok f.added
  | e :: es => do
    if (← e.read "name").looseEq f.name then return (← f.edit e) :: es
    else return e :: (← f.apply es)

theorem apply_cons (h : e.read "name" = .ok name) : f.apply (e :: es) =
    if name = .str f.name then (f.edit e).map (· :: es) else (f.apply es).map (e :: ·) := by
  rw [apply, h, ok_bind]
  by_cases hname : name = .str f.name
  · rw [if_pos (looseEq_str_iff.mpr hname), if_pos hname]
    cases f.edit e <;> rfl
  · rw [if_neg (looseEq_str_iff.not.mpr hname), if_neg hname]
    cases f.apply es <;> rfl

/-- An edited entry keeps the name, and is edited no further; so is an added one. -/
structure Settles (f : FirstEdit) : Prop where
  edit {e e' : Doc} : e.read "name" = .ok (.str f.name) → f.edit e = .ok e' →
    e'.read "name" = .ok (.str f.name) ∧ f.edit e' = .ok e'
  added : ∀ e ∈ f.added, e.read "name" = .ok (.str f.name) ∧ f.edit e = .ok e

/-- **The edit changes nothing when it is made again.** -/
theorem apply_again (hf : f.Settles) : ∀ {es es' : List Doc}, f.apply es = .ok es' →
    f.apply es' = .ok es'
  | [], es', h => by
    cases h
    cases hadded : f.added with
    | nil => rw [apply, hadded]
    | cons e es =>
      obtain ⟨hname, hedit⟩ := hf.added e (hadded ▸ List.mem_cons_self)
      rw [apply_cons hname, if_pos rfl, hedit]
      rfl
  | e :: es, es', h => by
    obtain ⟨name, hname, -⟩ := bind_eq_ok_iff.mp h
    rw [apply_cons hname] at h
    split at h
    · next hwanted =>
      obtain ⟨e', he', rfl⟩ := map_eq_ok_iff.mp h
      obtain ⟨hname', hagain⟩ := hf.edit (hwanted ▸ hname) he'
      rw [apply_cons hname', if_pos rfl, hagain]
      rfl
    · next hne =>
      obtain ⟨rest, hrest, rfl⟩ := map_eq_ok_iff.mp h
      rw [apply_cons hname, if_neg hne, apply_again hf hrest]
      rfl

theorem apply_absent : ∀ {es : List Doc},
    (∀ e ∈ es, ∃ name, e.read "name" = .ok name ∧ name ≠ .str f.name) →
      f.apply es = .ok (es ++ f.added)
  | [], _ => rfl
  | e :: es, h => by
    obtain ⟨⟨name, hname, hne⟩, hes⟩ := List.forall_mem_cons.mp h
    rw [apply_cons hname, if_neg hne, apply_absent hes]
    rfl

theorem apply_cases : ∀ {es es' : List Doc}, f.apply es = .ok es' →
    (∃ before e e' after, es = before ++ e :: after ∧ es' = before ++ e' :: after ∧
      (∀ d ∈ before, ∃ name, d.read "name" = .ok name ∧ name ≠ .str f.name) ∧
      e.read "name" = .ok (.str f.name) ∧ f.edit e = .ok e') ∨
    (∀ d ∈ es, ∃ name, d.read "name" = .ok name ∧ name ≠ .str f.name) ∧ es' = es ++ f.added
  | [], es', h => by
    cases h
    exact .inr ⟨by simp, rfl⟩
  | e :: es, es', h => by
    obtain ⟨name, hname, -⟩ := bind_eq_ok_iff.mp h
    rw [apply_cons hname] at h
    split at h
    · next hwanted =>
      obtain ⟨e', he', rfl⟩ := map_eq_ok_iff.mp h
      exact .inl ⟨[], e, e', es, rfl, rfl, by simp, hwanted ▸ hname, he'⟩
    · next hother =>
      obtain ⟨rest, hrest, rfl⟩ := map_eq_ok_iff.mp h
      have hhead : ∃ name, e.read "name" = .ok name ∧ name ≠ .str f.name := ⟨name, hname, hother⟩
      rcases apply_cases hrest with ⟨before, d, d', after, rfl, rfl, hbefore, hd, hd'⟩ | ⟨hes, rfl⟩
      · exact .inl ⟨e :: before, d, d', after, rfl, rfl,
          List.forall_mem_cons.mpr ⟨hhead, hbefore⟩, hd, hd'⟩
      · exact .inr ⟨List.forall_mem_cons.mpr ⟨hhead, hes⟩, rfl⟩

/-- **An edit that changes nothing still does so after an edit of another name.** -/
theorem apply_other (hne : f.name ≠ g.name) (hf : f.Settles) : ∀ {es es' : List Doc},
    g.apply es = .ok es → f.apply es = .ok es' → g.apply es' = .ok es'
  | [], es', hg, h => by
    cases h
    have habsent : ∀ e ∈ f.added, ∃ name, e.read "name" = .ok name ∧ name ≠ .str g.name :=
      fun e he => ⟨_, (hf.added e he).1, by rwa [Ne, Doc.str.injEq]⟩
    rw [apply_absent habsent, Except.ok.inj hg, List.append_nil]
  | e :: es, es', hg, h => by
    obtain ⟨name, hname, -⟩ := bind_eq_ok_iff.mp h
    rw [apply_cons hname] at h hg
    split at h
    · next hwanted =>
      have hother : name ≠ .str g.name := by rwa [hwanted, Ne, Doc.str.injEq]
      obtain ⟨e', he', rfl⟩ := map_eq_ok_iff.mp h
      rw [if_neg hother] at hg
      obtain ⟨rest, hrest, heq⟩ := map_eq_ok_iff.mp hg
      obtain rfl : rest = es := (List.cons.inj heq).2
      rw [apply_cons (hf.edit (hwanted ▸ hname) he').1, if_neg (by rwa [Doc.str.injEq]), hrest]
      rfl
    · obtain ⟨rest, hrest, rfl⟩ := map_eq_ok_iff.mp h
      rw [apply_cons hname]
      split at hg
      · next hwanted =>
        obtain ⟨e', he', heq⟩ := map_eq_ok_iff.mp hg
        obtain rfl : e' = e := (List.cons.inj heq).1
        rw [if_pos hwanted, he']
        rfl
      · next hother =>
        obtain ⟨rest', hrest', heq⟩ := map_eq_ok_iff.mp hg
        obtain rfl : rest' = es := (List.cons.inj heq).2
        rw [if_neg hother, apply_other hne hf hrest' hrest]
        rfl

/-! ## Entries put in -/

/-- An entry that replaces the first one of its name. -/
def put (e : Doc) (name : String) : FirstEdit where
  name := name
  edit _ := .ok e
  added := [e]

end FirstEdit

section Put

variable {e : Doc} {name : String} {entries items items' : List Doc} {names : List String}
  {g : FirstEdit}

theorem read_of_require (h : e.require "name" = .ok (.str name)) :
    e.read "name" = .ok (.str name) := by
  obtain ⟨ms, rfl, hms⟩ := require_eq_ok_iff.mp h
  rw [read_obj, hms, Option.getD_some]

theorem putEntry_eq (h : e.require "name" = .ok (.str name)) (es : List Doc) :
    putEntry e es = (FirstEdit.put e name).apply es := by
  induction es with
  | nil => rfl
  | cons d es ih =>
    rw [putEntry, FirstEdit.apply, ih, h]
    rfl

theorem FirstEdit.put_settles (h : e.require "name" = .ok (.str name)) :
    (FirstEdit.put e name).Settles where
  edit := by
    rintro _ _ - ⟨⟩
    exact ⟨read_of_require h, rfl⟩
  added := by
    intro d hd
    rw [List.mem_singleton.mp hd]
    exact ⟨read_of_require h, rfl⟩

/-- An edit that changes nothing still does so after entries of other names were put in. -/
theorem FirstEdit.apply_putEntries (hnamed : AreNamed entries names) (hg : g.name ∉ names)
    (hitems : g.apply items = .ok items)
    (h : entries.foldlM (fun items e => putEntry e items) items = .ok items') :
    g.apply items' = .ok items' := by
  induction hnamed generalizing items with
  | nil =>
    cases h
    exact hitems
  | cons he _ ih =>
    obtain ⟨hne, hrest⟩ := not_or.mp (List.mem_cons.not.mp hg)
    rw [List.foldlM_cons] at h
    obtain ⟨items₁, h₁, h⟩ := bind_eq_ok_iff.mp h
    rw [putEntry_eq he] at h₁
    exact ih hrest (apply_other (Ne.symm hne) (put_settles he) hitems h₁) h

/-- **Entries of different names that were put in are there, and change nothing any more.** -/
theorem putEntries_again (hnamed : AreNamed entries names) (hnames : names.Nodup)
    (h : entries.foldlM (fun items e => putEntry e items) items = .ok items') :
    entries.foldlM (fun items e => putEntry e items) items' = .ok items' := by
  have hfixed : ∀ e ∈ entries, putEntry e items' = .ok items' := by
    induction hnamed generalizing items with
    | nil => exact fun _ h => absurd h List.not_mem_nil
    | cons he hnamed ih =>
      obtain ⟨hnotin, hnodup⟩ := List.nodup_cons.mp hnames
      rw [List.foldlM_cons] at h
      obtain ⟨items₁, h₁, h⟩ := bind_eq_ok_iff.mp h
      refine List.forall_mem_cons.mpr ⟨?_, ih hnodup h⟩
      rw [putEntry_eq he] at h₁ ⊢
      have hagain := FirstEdit.apply_again (FirstEdit.put_settles he) h₁
      exact FirstEdit.apply_putEntries hnamed hnotin hagain h
  clear h hnamed
  induction entries with
  | nil => rfl
  | cons e entries ih =>
    obtain ⟨he, hentries⟩ := List.forall_mem_cons.mp hfixed
    rw [List.foldlM_cons, he, ok_bind]
    exact ih hentries

end Put

end Workbench
