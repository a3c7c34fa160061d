import Workbench.Admission.Image
import Workbench.Proofs.Others
import Workbench.TrustBundle.Mount

/-!
# Edits of the primary container, made twice

An image that was picked and a bundle that was mounted are found again when the container is edited
once more.

* `Image.HasImage`: a container with the image that was picked; `Image.putImage_hasImage` and
  `Image.HasImage.putImage` say that the image is put in once;
* `Image.Chosen`: what becomes of a container whose image may be picked; **`Image.chosen_again`**: it
  is the same the next time;
* **`TrustBundle.mountInContainer_again`**, `Image.Chosen.mount`: a container with the bundle, which
  keeps its image;
* `Notebook.Primary`: the container named like the notebook among all containers.
-/

namespace Workbench

open Doc

/-! ## The picked image -/

namespace Image

variable {c c' selection reference : Doc} {found : Except Trouble (Option Doc)}

/-- The variable for the image, set where it is there. -/
def setVariable (selection : Doc) : FirstEdit where
  name := variableName
  edit v := do (← v.put "value" selection).remove "valueFrom"
  added := []

theorem putVariable_eq (selection : Doc) (env : List Doc) :
    putVariable selection env = (setVariable selection).apply env := by
  induction env with
  | nil => rfl
  | cons v env ih =>
    rw [putVariable, FirstEdit.apply, ih]
    refine bind_congr fun name => if_congr Iff.rfl ?_ rfl
    rw [setVariable, bind_assoc]

theorem setVariable_settles (selection : Doc) : (setVariable selection).Settles where
  edit {v v'} hname h := by
    obtain ⟨w, hput, hremove⟩ := bind_eq_ok_iff.mp h
    obtain ⟨ms, rfl, rfl⟩ := put_eq_ok_iff.mp hput
    obtain ⟨_, hms, rfl⟩ := remove_eq_ok_iff.mp hremove
    cases hms
    have hvalue : (dropMember "valueFrom" (setMember "value" selection ms)).lookup "value" =
        some selection := by
      rw [lookup_dropMember, if_neg (by decide), lookup_setMember_self]
    refine ⟨?_, bind_eq_ok_iff.mpr ⟨_, put_eq_ok_iff.mpr ⟨_, rfl, rfl⟩, ?_⟩⟩
    · rw [read_obj] at hname ⊢
      rw [lookup_dropMember, if_neg (by decide), lookup_setMember, if_neg (by decide), ← hname]
    · rw [setMember_of_lookup hvalue]
      refine remove_eq_ok_iff.mpr ⟨_, rfl, ?_⟩
      have hgone := lookup_dropMember "valueFrom" "valueFrom" (setMember "value" selection ms)
      rw [if_pos rfl] at hgone
      rw [dropMember_of_lookup hgone]
  added := fun _ h => absurd h List.not_mem_nil

/-- A container with the image that was picked: the variable for it is set wherever it is there. -/
structure HasImage (reference selection : Doc) (ms : List Member) : Prop where
  image : ms.lookup "image" = some reference
  env : ((ms.lookup "env").getD .null).truthy = true → ∃ env, ms.lookup "env" = some (.arr env) ∧
    (setVariable selection).apply env = .ok env

theorem putImage_hasImage (h : putImage reference selection c = .ok c') :
    ∃ ms, c' = .obj ms ∧ HasImage reference selection ms := by
  obtain ⟨_, hput, h⟩ := bind_eq_ok_iff.mp h
  obtain ⟨ms, rfl, rfl⟩ := put_eq_ok_iff.mp hput
  rw [read_obj, ok_bind] at h
  split at h
  · obtain ⟨items, hitems, h⟩ := bind_eq_ok_iff.mp h
    obtain ⟨env, henv, h⟩ := bind_eq_ok_iff.mp h
    obtain ⟨_, hms, rfl⟩ := put_eq_ok_iff.mp h
    cases hms
    rw [putVariable_eq] at henv
    refine ⟨_, rfl, ?_, fun _ => ⟨env, lookup_setMember_self _ _ _, ?_⟩⟩
    · rw [lookup_setMember, if_neg (by decide), lookup_setMember_self]
    · exact FirstEdit.apply_again (setVariable_settles selection) henv
  · next hfalsy =>
    cases h
    exact ⟨_, rfl, lookup_setMember_self _ _ _, fun htruthy => absurd htruthy hfalsy⟩

theorem HasImage.putImage {ms : List Member} (h : HasImage reference selection ms) :
    putImage reference selection (.obj ms) = .ok (.obj ms) := by
  have hput : (Doc.obj ms).put "image" reference = .ok (.obj ms) := by
    rw [Doc.put, members, ok_bind, setMember_of_lookup h.image]
    rfl
  rw [Image.putImage, hput, ok_bind, read_obj, ok_bind]
  split
  · next htruthy =>
    obtain ⟨env, hlookup, henv⟩ := h.env htruthy
    rw [hlookup, Option.getD_some]
    change (putVariable selection env >>= _) = _
    rw [putVariable_eq, henv, ok_bind, Doc.put, members, ok_bind, setMember_of_lookup hlookup]
    rfl
  · rfl

/-- The image of a container comes from the registry of the cluster. -/
def isFinal (c : Doc) : Except Fault Bool := do
  ((← c.read "image").orElse "").contains clusterRegistry

/-- What becomes of a container: `found` is the image that the selection stands for. -/
inductive Chosen (selection : Doc) (found : Except Trouble (Option Doc)) (c : Doc) : Doc → Prop where
  | final (h : isFinal c = .ok true) : Chosen selection found c c
  | unknown (h : isFinal c = .ok false) (hfound : found = .ok none) : Chosen selection found c c
  | picked {reference c' : Doc} (h : isFinal c = .ok false) (hfound : found = .ok (some reference))
      (hput : putImage reference selection c = .ok c') : Chosen selection found c c'

theorem sameBut_putImage (h : putImage reference selection c = .ok c') :
    ∃ c₁, SameBut "image" c c₁ ∧ SameBut "env" c₁ c' := by
  obtain ⟨c₁, hput, h⟩ := bind_eq_ok_iff.mp h
  obtain ⟨env, -, h⟩ := bind_eq_ok_iff.mp h
  refine ⟨c₁, sameBut_put hput, ?_⟩
  split at h
  · obtain ⟨_, -, h⟩ := bind_eq_ok_iff.mp h
    obtain ⟨_, -, h⟩ := bind_eq_ok_iff.mp h
    exact sameBut_put h
  · cases h
    exact .refl (sameBut_put hput).isObj

theorem read_putImage {k : String} (h : putImage reference selection c = .ok c') (hk : k ≠ "image")
    (hk' : k ≠ "env") : c'.read k = c.read k := by
  obtain ⟨_, himage, henv⟩ := sameBut_putImage h
  rw [henv.read hk', himage.read hk]

theorem Chosen.read_name (h : Chosen selection found c c') : c'.read "name" = c.read "name" := by
  cases h with
  | picked _ _ hput => exact read_putImage hput (by decide) (by decide)
  | _ => rfl

theorem Chosen.nameOf?_eq (h : Chosen selection found c c') : nameOf? c' = nameOf? c := by
  cases h with
  | picked _ _ hput =>
    obtain ⟨_, himage, henv⟩ := sameBut_putImage hput
    rw [henv.nameOf?_eq (by decide), himage.nameOf?_eq (by decide)]
  | _ => rfl

theorem contains_of_number?_eq_none (h : reference.number? = none) (text : String) :
    ∃ b, (reference.orElse "").contains (.str text) = .ok b := by
  have hobj : ∀ ms, (Doc.obj ms).contains (.str text) = .ok (ms.lookup text).isSome :=
    fun ms => contains_obj_str ms text
  unfold orElse
  split
  · next htruthy =>
    cases reference with
    | obj ms => exact ⟨_, hobj ms⟩
    | arr ds => exact ⟨_, rfl⟩
    | str s => exact ⟨_, rfl⟩
    | null => cases htruthy
    | _ => cases h
  · exact ⟨_, rfl⟩

/-- **A container whose image was picked, or need not be, stays as it is.** -/
theorem chosen_again (hreference : ∀ reference, found = .ok (some reference) →
    reference.number? = none) (h : Chosen selection found c c') : Chosen selection found c' c' := by
  cases h with
  | final h => exact .final h
  | unknown h hfound => exact .unknown h hfound
  | @picked reference _ h hfound hput =>
    obtain ⟨ms, rfl, himage⟩ := putImage_hasImage hput
    obtain ⟨b, hb⟩ := contains_of_number?_eq_none (hreference reference hfound) clusterRegistry
    have hfinal : isFinal (.obj ms) = .ok b := by
      rw [isFinal, read_obj, himage.image, ok_bind, Option.getD_some]
      exact hb
    cases b with
    | true => exact .final hfinal
    | false => exact .picked hfinal hfound himage.putImage

end Image

/-! ## The mounted bundle -/

namespace TrustBundle

variable {c c' d d' : Doc} {key : String} {entries items items' : List Doc} {names : List String}

/-- Entries that were put in under a name. -/
def HasEntries (key : String) (entries : List Doc) (d : Doc) : Prop :=
  ∃ ms items, d = .obj ms ∧ ms.lookup key = some (.arr items) ∧
    entries.foldlM (fun items e => putEntry e items) items = .ok items

theorem putEntries_eq_ok (h : putEntries key entries d = .ok d') : ∃ ms items items', d = .obj ms ∧
    ((ms.lookup key).getD .null = .null ∧ items = [] ∨ ms.lookup key = some (.arr items)) ∧
      entries.foldlM (fun items e => putEntry e items) items = .ok items' ∧
        d' = .obj (setMember key (.arr items') ms) := by
  obtain ⟨found, hfound, h⟩ := bind_eq_ok_iff.mp h
  obtain ⟨ms, rfl, rfl⟩ := read_eq_ok_iff.mp hfound
  have hput : ∀ {items}, (entries.foldlM (fun items e => putEntry e items) items >>= fun items' =>
      (Doc.obj ms).put key (.arr items')) = .ok d' → ∃ items',
        entries.foldlM (fun items e => putEntry e items) items = .ok items' ∧
          d' = .obj (setMember key (.arr items') ms) := by
    intro items h
    obtain ⟨items', hfold, h⟩ := bind_eq_ok_iff.mp h
    obtain ⟨_, hms, rfl⟩ := put_eq_ok_iff.mp h
    cases hms
    exact ⟨items', hfold, rfl⟩
  dsimp only at h
  split at h
  · next hnull =>
    obtain ⟨items', hfold, rfl⟩ := hput h
    exact ⟨ms, [], items', rfl, .inl ⟨hnull, rfl⟩, hfold, rfl⟩
  · next hnull =>
    obtain ⟨items, hitems, h⟩ := bind_eq_ok_iff.mp h
    obtain ⟨items', hfold, rfl⟩ := hput h
    exact ⟨ms, items, items', rfl, .inr (eq_some_of_getD (items_eq_ok_iff.mp hitems) (by simp)),
      hfold, rfl⟩

theorem putEntries_hasEntries (hnamed : AreNamed entries names) (hnames : names.Nodup)
    (h : putEntries key entries d = .ok d') : HasEntries key entries d' := by
  obtain ⟨ms, items, items', rfl, -, hfold, rfl⟩ := putEntries_eq_ok h
  exact ⟨_, items', rfl, lookup_setMember_self _ _ _, putEntries_again hnamed hnames hfold⟩

theorem HasEntries.putEntries (h : HasEntries key entries d) : putEntries key entries d = .ok d := by
  obtain ⟨ms, items, rfl, hlookup, hfold⟩ := h
  rw [TrustBundle.putEntries, read_obj, hlookup, ok_bind]
  dsimp only [Option.getD_some]
  rw [if_neg (by simp)]
  change (entries.foldlM (fun items e => putEntry e items) items >>= fun items =>
    (Doc.obj ms).put key (.arr items)) = _
  rw [hfold, ok_bind, Doc.put, members, ok_bind, setMember_of_lookup hlookup]
  rfl

theorem sameBut_putEntries (h : putEntries key entries d = .ok d') : SameBut key d d' := by
  obtain ⟨ms, _, items', rfl, -, -, rfl⟩ := putEntries_eq_ok h
  exact ⟨ms, _, rfl, rfl, fun k hk => by rw [lookup_setMember, if_neg hk]⟩

theorem HasEntries.sameBut {k : String} (h : HasEntries key entries d) (hd : SameBut k d d')
    (hne : key ≠ k) : HasEntries key entries d' := by
  obtain ⟨ms, items, rfl, hlookup, hfold⟩ := h
  obtain ⟨_, ns, hms, rfl, hns⟩ := hd
  cases hms
  exact ⟨ns, items, rfl, by rw [hns key hne, hlookup], hfold⟩

theorem areNamed_pointers : AreNamed (variableNames.map pointer) variableNames :=
  List.forall₂_map_left_iff.mpr (List.forall₂_same.mpr fun _ _ => rfl)

theorem areNamed_volumeMount : AreNamed [volumeMount] [volumeName] := .cons rfl .nil

/-- **A container with the bundle stays as it is.** -/
theorem mountInContainer_again (h : mountInContainer c = .ok c') : mountInContainer c' = .ok c' := by
  obtain ⟨c₁, h₁, h₂⟩ := bind_eq_ok_iff.mp h
  have henv := putEntries_hasEntries areNamed_pointers (by decide) h₁
  have hmounts := putEntries_hasEntries areNamed_volumeMount (by decide) h₂
  have henv' := henv.sameBut (sameBut_putEntries h₂) (by decide)
  rw [mountInContainer, henv'.putEntries, ok_bind, hmounts.putEntries]

theorem sameBut_mountInContainer (h : mountInContainer c = .ok c') :
    ∃ c₁, SameBut "env" c c₁ ∧ SameBut "volumeMounts" c₁ c' := by
  obtain ⟨c₁, h₁, h₂⟩ := bind_eq_ok_iff.mp h
  exact ⟨c₁, sameBut_putEntries h₁, sameBut_putEntries h₂⟩

theorem read_mountInContainer (h : mountInContainer c = .ok c') (hk : key ≠ "env")
    (hk' : key ≠ "volumeMounts") : c'.read key = c.read key := by
  obtain ⟨_, henv, hmounts⟩ := sameBut_mountInContainer h
  rw [hmounts.read hk', henv.read hk]

theorem nameOf?_of_mountInContainer (h : mountInContainer c = .ok c') :
    nameOf? c' = nameOf? c := by
  obtain ⟨_, henv, hmounts⟩ := sameBut_mountInContainer h
  rw [hmounts.nameOf?_eq (by decide), henv.nameOf?_eq (by decide)]

end TrustBundle

namespace Image

variable {c c' selection reference : Doc} {found : Except Trouble (Option Doc)}

/-- A container with an image that was picked keeps it when the bundle is mounted. -/
theorem HasImage.mount {ms : List Member} (himage : HasImage reference selection ms)
    (h : TrustBundle.mountInContainer (.obj ms) = .ok c') :
    ∃ ns, c' = .obj ns ∧ HasImage reference selection ns := by
  obtain ⟨c₁, h₁, h₂⟩ := bind_eq_ok_iff.mp h
  obtain ⟨_, items, env, hms, hitems, hfold, rfl⟩ := TrustBundle.putEntries_eq_ok h₁
  cases hms
  obtain ⟨_, ns, hms, rfl, hns⟩ := TrustBundle.sameBut_putEntries h₂
  cases hms
  have henv : ns.lookup "env" = some (.arr env) := by
    rw [hns _ (by decide), lookup_setMember_self]
  refine ⟨ns, rfl, ?_, fun _ => ⟨env, henv, ?_⟩⟩
  · rw [hns _ (by decide), lookup_setMember, if_neg (by decide), himage.image]
  · -- The pointers have other names than the variable for the image.
    have hother : variableName ∉ TrustBundle.variableNames := by decide
    refine FirstEdit.apply_putEntries TrustBundle.areNamed_pointers hother ?_ hfold
    rcases hitems with ⟨-, rfl⟩ | hitems
    · rfl
    · cases items with
      | nil => rfl
      | cons e es =>
        obtain ⟨_, hlookup, hfixed⟩ := himage.env (by rw [hitems]; rfl)
        cases hitems.symm.trans hlookup
        exact hfixed

/-- **A container whose image was picked, or need not be, keeps it when the bundle is mounted.** -/
theorem Chosen.mount (h : Chosen selection found c c)
    (hmount : TrustBundle.mountInContainer c = .ok c') : Chosen selection found c' c' := by
  have hfinal : isFinal c' = isFinal c := by
    rw [isFinal, isFinal, TrustBundle.read_mountInContainer hmount (by decide) (by decide)]
  cases h with
  | final h => exact .final (hfinal.trans h)
  | unknown h hfound => exact .unknown (hfinal.trans h) hfound
  | picked h hfound hput =>
    obtain ⟨ms, rfl, himage⟩ := putImage_hasImage hput
    obtain ⟨ns, rfl, himage'⟩ := himage.mount hmount
    exact .picked (hfinal.trans h) hfound himage'.putImage

end Image

/-! ## The primary container -/

namespace Notebook

variable {name c c' : Doc} {cs cs' : List Doc} {ps ps' : List Member} {i : Nat}

/-- The names of containers. -/
def names (cs : List Doc) : List (Except Fault Doc) := cs.map (·.read "name")

theorem names_set (hc : cs[i]? = some c) (hname : c'.read "name" = c.read "name") :
    names (cs.set i c') = names cs := by
  obtain ⟨hi, rfl⟩ := List.getElem?_eq_some_iff.mp hc
  calc names (cs.set i c') = (names cs).set i (c'.read "name") := List.map_set
    _ = (names cs).set i (cs[i].read "name") := by rw [hname]
    _ = names (cs.set i cs[i]) := List.map_set.symm
    _ = names cs := by rw [List.set_getElem_self]

theorem indexOfName?_congr : ∀ {cs cs' : List Doc}, names cs' = names cs →
    indexOfName? name cs' = indexOfName? name cs
  | [], [], _ => rfl
  | [], _ :: _, h => by cases h
  | _ :: _, [], h => by cases h
  | c :: cs, c' :: cs', h => by
    have hname : c'.read "name" = c.read "name" := (List.cons.inj h).1
    rw [indexOfName?, indexOfName?, indexOfName?_congr (List.cons.inj h).2, hname]

theorem indexOfName?_cons {found : Doc} (h : c.read "name" = .ok found) :
    indexOfName? name (c :: cs) = if found.looseEq name && !name.isUnordered then .ok (some 0)
      else (indexOfName? name cs).map (Option.map (· + 1)) := by
  rw [indexOfName?, h, ok_bind]
  split
  · rfl
  · cases indexOfName? name cs <;> rfl

theorem indexOfName?_set {other : String} (hne : name ≠ .str other)
    (hc : c.require "name" = .ok (.str other)) : ∀ {l : List (Doc × Doc)} {found : Option Nat},
      (∀ p ∈ l, Entries.keyOf p.2 = .ok p.1) → indexOfName? name (l.map Prod.snd) = .ok found →
        indexOfName? name ((Entries.set other c l).map Prod.snd) = .ok found ∧
          ∀ i, found = some i →
            ((Entries.set other c l).map Prod.snd)[i]? = (l.map Prod.snd)[i]? := by
  have hunlike : ∀ {d : Doc}, d.require "name" = .ok (.str other) → ∀ cs, indexOfName? name (d :: cs) =
      (indexOfName? name cs).map (Option.map (· + 1)) := by
    intro d hd cs
    rw [indexOfName?_cons (read_of_require hd), if_neg]
    simpa using fun h => absurd h hne
  intro l
  induction l with
  | nil =>
    intro found _ hfound
    cases hfound
    exact ⟨hunlike hc [], fun _ h => by cases h⟩
  | cons p l ih =>
    intro found hkeys hfound
    obtain ⟨hp, hl⟩ := List.forall_mem_cons.mp hkeys
    rw [List.map_cons] at hfound
    rw [Entries.set]
    split
    · next hkey =>
      rw [hkey, Entries.keyOf_eq_str_iff] at hp
      rw [hunlike hp] at hfound
      obtain ⟨found', hfound', rfl⟩ := map_eq_ok_iff.mp hfound
      refine ⟨by rw [List.map_cons, hunlike hc, hfound']; rfl, fun i hi => ?_⟩
      obtain ⟨j, -, rfl⟩ := Option.map_eq_some_iff.mp hi
      rfl
    · obtain ⟨pname, hpname, -⟩ := bind_eq_ok_iff.mp hfound
      rw [indexOfName?_cons hpname] at hfound
      rw [List.map_cons, indexOfName?_cons hpname]
      split at hfound
      · next hwanted =>
        cases hfound
        exact ⟨if_pos hwanted, fun i hi => by cases hi; rfl⟩
      · next hother =>
        obtain ⟨found', hfound', rfl⟩ := map_eq_ok_iff.mp hfound
        obtain ⟨hset, hthere⟩ := ih hl hfound'
        refine ⟨by rw [if_neg hother, hset]; rfl, fun i hi => ?_⟩
        obtain ⟨j, hj, rfl⟩ := Option.map_eq_some_iff.mp hi
        exact hthere j hj

/-- The containers of a pod template, the empty list when there are none. -/
def containersIn (ps : List Member) : Doc := ((ps.lookup "containers").getD .null).orElse (.arr [])

/-- The index of the container with a name. -/
def primaryIn? (name : Doc) (ps : List Member) : Except Fault (Option Nat) := do
  indexOfName? name (← (containersIn ps).elements)

/-- The container with a name is the one at `i`. -/
structure Primary (name : Doc) (ps : List Member) (cs : List Doc) (i : Nat) (c : Doc) : Prop where
  containers : ps.lookup "containers" = some (.arr cs)
  index : indexOfName? name cs = .ok (some i)
  there : cs[i]? = some c

theorem there_of_indexOfName? : ∀ {cs : List Doc} {i : Nat}, indexOfName? name cs = .ok (some i) →
    ∃ c, cs[i]? = some c
  | [], _, h => by cases h
  | c :: cs, i, h => by
    obtain ⟨found, -, h⟩ := bind_eq_ok_iff.mp h
    split at h
    · cases h
      exact ⟨c, rfl⟩
    · obtain ⟨j?, hj, h⟩ := bind_eq_ok_iff.mp h
      cases j? with
      | none => cases h
      | some j =>
        cases h
        obtain ⟨d, hd⟩ := there_of_indexOfName? hj
        exact ⟨d, hd⟩

theorem containersIn_arr (h : ps.lookup "containers" = some (.arr cs)) :
    containersIn ps = .arr cs := by
  rw [containersIn, h]
  cases cs <;> rfl

theorem primaryIn?_arr (h : ps.lookup "containers" = some (.arr cs)) :
    primaryIn? name ps = indexOfName? name cs := by
  rw [primaryIn?, containersIn_arr h]
  rfl

theorem Primary.primaryIn? (h : Primary name ps cs i c) : primaryIn? name ps = .ok (some i) := by
  rw [primaryIn?_arr h.containers, h.index]

theorem primary_of_primaryIn? (h : Notebook.primaryIn? name ps = .ok (some i)) :
    ∃ cs c, Primary name ps cs i c := by
  obtain ⟨l, hl, hindex⟩ := bind_eq_ok_iff.mp h
  rcases elements_orElse hl with hcs | hstr
  · obtain ⟨c, hc⟩ := there_of_indexOfName? hindex
    exact ⟨l, c, eq_some_of_getD hcs (by simp), hindex, hc⟩
  · cases l with
    | nil => cases hindex
    | cons e l =>
      obtain ⟨s, rfl⟩ := hstr e List.mem_cons_self
      cases hindex

theorem Primary.replace (h : Primary name ps cs i c) (hname : c'.read "name" = c.read "name") :
    Primary name (setMember "containers" (.arr (cs.set i c')) ps) (cs.set i c') i c' where
  containers := lookup_setMember_self _ _ _
  index := by
    rw [indexOfName?_congr (names_set h.there hname), h.index]
  there := List.getElem?_set_self (List.getElem?_eq_some_iff.mp h.there).1

theorem Primary.of_lookup (h : Primary name ps cs i c)
    (hps : ps'.lookup "containers" = ps.lookup "containers") : Primary name ps' cs i c :=
  ⟨hps.trans h.containers, h.index, h.there⟩

theorem Primary.unique {j : Nat} (h : Primary name ps cs i c) (h' : Primary name ps cs' j c') :
    cs' = cs ∧ j = i ∧ c' = c := by
  have hcs : cs' = cs := by simpa [h'.containers] using h.containers
  subst hcs
  have hi : j = i := by simpa [h'.index] using h.index
  subst hi
  exact ⟨rfl, rfl, by simpa [h'.there] using h.there⟩

theorem Primary.replace_self (h : Primary name ps cs i c) :
    setMember "containers" (.arr (cs.set i c)) ps = ps := by
  obtain ⟨hi, hc⟩ := List.getElem?_eq_some_iff.mp h.there
  rw [← hc, List.set_getElem_self, setMember_of_lookup h.containers]

end Notebook

end Workbench
