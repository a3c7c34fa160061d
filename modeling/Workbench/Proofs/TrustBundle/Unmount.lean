import Workbench.Proofs.Others
import Workbench.Proofs.Shape
import Workbench.Proofs.TrustBundle.Withdrawn
import Workbench.Proofs.Within

/-!
# Mounts and volumes without the bundle

Mounts are taken away from one container, by their names; volumes are taken away by the config map
behind them. Whether the mounts still fit the volumes depends on how the notebook uses the bundle.

* `Tells`, `Tells.listUnder_dropEntries`: the entries that are left in a list;
* `Notebook.volumes`, `Notebook.mounts`, `Notebook.MountsDeclared`: the mounts of all containers, and
  notebooks in which each of them names a volume;
* `TrustBundle.Unmounted`, `TrustBundle.unmounted_of_unmount`: what is left of a notebook;
* `TrustBundle.exists_unmount`: the bundle can be taken out of every notebook of the right shape;
* `TrustBundle.GoTogether`, `TrustBundle.goTogether_of_own`: the mounts that go are those whose
  volumes go, and they are when the bundle has a name of its own in one container;
* **`TrustBundle.unmount_consistent_iff`**: only then every mount still names a volume, and no mount
  of a volume that stays is taken away;
* `TrustBundle.unmount_breaks_mounts`: a notebook that mounts the bundle under another name.
-/

namespace Workbench

open Doc

/-! ## Entries that are left -/

/-- The list under a name, empty when there is none. -/
def Doc.listUnder (k : String) (d : Doc) : List Doc := entriesOf (d.at? [.member k])

theorem Doc.listUnder_obj (k : String) (ms : List Member) :
    (obj ms).listUnder k = entriesOf (ms.lookup k) := by
  rw [listUnder, at?_member]

theorem Doc.SameBut.listUnder {d e : Doc} {j k : String} (h : SameBut j d e) (hk : k ≠ j) :
    e.listUnder k = d.listUnder k := by
  obtain ⟨ms, ns, rfl, rfl, hns⟩ := h
  rw [listUnder_obj, listUnder_obj, hns k hk]

/-- A test that has a result for objects alone, told by a truth value. -/
structure Tells (drops : Doc → Except Fault Bool) (holds : Doc → Bool) : Prop where
  isObj : ∀ {e b}, drops e = .ok b → e.isObj = true
  eq : ∀ {e b}, drops e = .ok b → b = holds e

namespace Tells

variable {drops : Doc → Except Fault Bool} {holds : Doc → Bool} {es : List Doc} {d d' : Doc}
  {ms : List Member} {k : String} {changed : Bool}

theorem keepUnless_eq_ok_iff (h : Tells drops holds) {kept : List Doc} :
    keepUnless drops es = .ok kept ↔
      (∀ e ∈ es, drops e = .ok (holds e)) ∧ kept = es.filter fun e => !holds e := by
  induction es generalizing kept with
  | nil => simp [keepUnless, eq_comm]
  | cons e es ih =>
    simp only [keepUnless, bind_eq_ok_iff, pure_eq_ok, Except.ok.injEq, List.forall_mem_cons,
      List.filter_cons]
    constructor
    · rintro ⟨drop, hdrop, rest, hrest, rfl⟩
      obtain ⟨hes, rfl⟩ := ih.mp hrest
      cases h.eq hdrop
      refine ⟨⟨hdrop, hes⟩, ?_⟩
      cases holds e <;> rfl
    · rintro ⟨⟨he, hes⟩, rfl⟩
      refine ⟨_, he, _, ih.mpr ⟨hes, rfl⟩, ?_⟩
      cases holds e <;> rfl

theorem eq_entriesOf (hes : d.elements = .ok es) (hobj : ∀ e ∈ es, e.isObj = true) :
    entriesOf (some d) = es := by
  cases d with
  | arr ds =>
    cases hes
    rfl
  | obj ms =>
    cases hes
    cases ms with
    | nil => rfl
    | cons m ms => cases hobj (.str m.1) List.mem_cons_self
  | str s =>
    cases hes
    cases hs : s.toList with
    | nil => rfl
    | cons c cs =>
      rw [hs] at hobj
      cases hobj (.str (String.singleton c)) List.mem_cons_self
  | _ => cases hes

theorem entriesOf_getD (x : Option Doc) : entriesOf (some (x.getD .null)) = entriesOf x := by
  cases x <;> rfl

/-- The entries that are left are those of which the test does not hold. -/
theorem listUnder_dropEntries (h : Tells drops holds)
    (hdrop : TrustBundle.dropEntries k drops d = .ok (changed, d')) :
    d'.listUnder k = (d.listUnder k).filter fun e => !holds e := by
  obtain ⟨found, hfound, hdrop⟩ := bind_eq_ok_iff.mp hdrop
  obtain ⟨ms, rfl, rfl⟩ := read_eq_ok_iff.mp hfound
  split at hdrop
  · obtain ⟨⟨dropped, left⟩, hleft, hdrop⟩ := bind_eq_ok_iff.mp hdrop
    obtain ⟨_, hput, hdrop⟩ := bind_eq_ok_iff.mp hdrop
    cases hdrop
    obtain ⟨_, hms, rfl⟩ := put_eq_ok_iff.mp hput
    cases hms
    obtain ⟨es, hes, hleft⟩ := bind_eq_ok_iff.mp hleft
    obtain ⟨kept, hkept, hleft⟩ := bind_eq_ok_iff.mp hleft
    obtain ⟨htests, rfl⟩ := h.keepUnless_eq_ok_iff.mp hkept
    have hentries := eq_entriesOf hes fun e he => h.isObj (htests e he)
    rw [listUnder_obj, listUnder_obj, lookup_setMember_self, ← entriesOf_getD (ms.lookup k), hentries]
    split at hleft
    · next hlength =>
      cases hleft
      rw [hentries, List.filter_eq_self.mpr (List.length_filter_eq_length_iff.mp hlength)]
    · cases hleft
      rfl
  · next hfalsy =>
    cases hdrop
    rw [listUnder_obj, entriesOf_of_not_truthy hfalsy]
    rfl

theorem dropEntries_obj (h : Tells drops holds) (hes : ItemsAre k ms es)
    (htests : ∀ e ∈ es, ∃ b, drops e = .ok b) :
    TrustBundle.dropEntries k drops (.obj ms) = .ok (es.any holds,
      .obj (if es.any holds then setMember k (.arr (es.filter fun e => !holds e)) ms else ms)) := by
  rw [TrustBundle.dropEntries, read_obj, ok_bind]
  split
  · next htruthy =>
    have hlist : ms.lookup k = some (.arr es) := by
      refine hes.resolve_right fun hnull => ?_
      rw [hnull.2] at htruthy
      cases htruthy
    have hkept : keepUnless drops es = .ok (es.filter fun e => !holds e) := by
      refine h.keepUnless_eq_ok_iff.mpr ⟨fun e he => ?_, rfl⟩
      obtain ⟨b, hb⟩ := htests e he
      rw [hb, h.eq hb]
    have hany : (es.filter fun e => !holds e).length = es.length ↔ es.any holds = false := by
      simp [List.length_filter_eq_length_iff]
    rw [dropWhere, hlist, Option.getD_some, elements, ok_bind, hkept, ok_bind]
    by_cases hholds : es.any holds = true
    · rw [if_neg (by rw [hany, hholds]; decide), hholds]
      rfl
    · rw [if_pos (hany.mpr (Bool.eq_false_of_not_eq_true hholds)), if_neg hholds]
      simp [hholds, put, members, setMember_of_lookup hlist]
  · next hfalsy =>
    have hempty : es = [] := by
      rcases hes with hlist | ⟨rfl, -⟩
      · rw [hlist] at hfalsy
        cases es with
        | nil => rfl
        | cons e es => exact absurd rfl hfalsy
      · rfl
    rw [hempty]
    rfl

theorem exists_dropEntries (h : Tells drops holds) (hes : ItemsAre k ms es)
    (htests : ∀ e ∈ es, ∃ b, drops e = .ok b) : ∃ changed ms',
      TrustBundle.dropEntries k drops (.obj ms) = .ok (changed, .obj ms') :=
  ⟨_, _, h.dropEntries_obj hes htests⟩

end Tells

/-! ## What is taken away -/

namespace TrustBundle

variable {e v : Doc} {b : Bool}

theorem tells_memberIsOneOf (names : List String) :
    Tells (memberIsOneOf "name" (.arr (names.map .str))) (hasNameIn (names.map .str)) := by
  have hread : ∀ {e b}, memberIsOneOf "name" (.arr (names.map .str)) e = .ok b → ∃ ms, e = .obj ms ∧
      b = (names.map Doc.str).any ((ms.lookup "name").getD .null).looseEq := by
    intro e b h
    obtain ⟨name, hname, h⟩ := bind_eq_ok_iff.mp h
    obtain ⟨ms, rfl, rfl⟩ := read_eq_ok_iff.mp hname
    cases h
    exact ⟨ms, rfl, rfl⟩
  refine ⟨fun h => ?_, fun h => ?_⟩
  · obtain ⟨ms, rfl, -⟩ := hread h
    rfl
  · obtain ⟨ms, rfl, rfl⟩ := hread h
    rw [hasNameIn, nameOf?, at?_member]
    cases ms.lookup "name" with
    | some name => rfl
    | none => simp [looseEq_str_iff]

theorem exists_memberIsOneOf (values : List Doc) (he : e.isObj = true) :
    ∃ b, memberIsOneOf "name" (.arr values) e = .ok b := by
  obtain ⟨ms, rfl⟩ := isObj_iff.mp he
  exact ⟨_, rfl⟩

/-- The volume holds the bundle. -/
def isBundle (v : Doc) : Bool :=
  decide (v.at? [.member "configMap", .member "name"] = some (.str bundleConfigMap))

theorem tells_isBackedBy : Tells (Notebook.isBackedBy bundleConfigMap) isBundle := by
  refine ⟨fun h => ?_, fun h => ?_⟩
  · obtain ⟨_, hread, -⟩ := bind_eq_ok_iff.mp h
    obtain ⟨ms, rfl, -⟩ := read_eq_ok_iff.mp hread
    rfl
  · obtain ⟨_, hread, h⟩ := bind_eq_ok_iff.mp h
    obtain ⟨ms, rfl, rfl⟩ := read_eq_ok_iff.mp hread
    have hplace : (obj ms).at? [.member "configMap", .member "name"] =
        ((ms.lookup "configMap").getD .null).at? [.member "name"] := by
      rw [at?]
      cases ms.lookup "configMap" <;> rfl
    rw [isBundle, hplace]
    split at h
    · obtain ⟨_, hname, h⟩ := bind_eq_ok_iff.mp h
      obtain ⟨source, hsource, rfl⟩ := read_eq_ok_iff.mp hname
      cases h
      rw [hsource, at?_member, Bool.eq_iff_iff, looseEq_str_iff, decide_eq_true_iff]
      exact ⟨fun h => eq_some_of_getD h (by simp), fun h => by rw [h]; rfl⟩
    · next hfalsy =>
      -- Nothing is read from what counts as empty.
      cases h
      cases hsource : (ms.lookup "configMap").getD .null with
      | obj source =>
        cases source with
        | nil => rfl
        | cons m source => exact absurd (by rw [hsource]; rfl) hfalsy
      | _ => rfl

/-- A volume whose config map, if it has one, is an object. -/
def isVolume : Doc → Bool := memberFits "configMap" (orNull isObj)

theorem exists_isBackedBy (h : isVolume v = true) (name : Doc) :
    ∃ b, Notebook.isBackedBy name v = .ok b := by
  obtain ⟨ms, rfl, hms⟩ := memberFits_iff.mp h
  have hsource : (ms.lookup "configMap").getD .null = .null ∨
      ((ms.lookup "configMap").getD .null).isObj = true := by
    cases hfound : ms.lookup "configMap" with
    | none => exact .inl rfl
    | some source => exact orNull_iff.mp (hms source hfound)
  rw [Notebook.isBackedBy, read_obj, ok_bind]
  rcases hsource with hnull | hobj
  · rw [hnull]
    exact ⟨_, rfl⟩
  · obtain ⟨source, hsource⟩ := isObj_iff.mp hobj
    rw [hsource, read_obj]
    split <;> exact ⟨_, rfl⟩

end TrustBundle

/-! ## Mounts and volumes -/

namespace Notebook

/-- The entries of a list in the specification of the pod template. -/
def podList (k : String) (nb : Notebook) : List Doc := entriesOf (nb.at? (podSpecPlace k))

/-- The volumes that a notebook declares. -/
def volumes (nb : Notebook) : List Doc := nb.podList "volumes"

/-- The mounts of each container in a list of containers. A pod template has several such lists. -/
def mounts (k : String) (nb : Notebook) : List (List Doc) :=
  (nb.podList k).map (Doc.listUnder "volumeMounts")

/-- A mount names a volume. -/
def NamesVolume (m v : Doc) : Prop := (nameOf? m).isSome = true ∧ nameOf? v = nameOf? m

instance (m v : Doc) : Decidable (NamesVolume m v) := inferInstanceAs (Decidable (_ ∧ _))

/-- Every mount of every container in a list names a volume that is declared. -/
def MountsDeclared (k : String) (nb : Notebook) : Prop :=
  ∀ ms ∈ nb.mounts k, ∀ m ∈ ms, ∃ v ∈ nb.volumes, NamesVolume m v

instance (k : String) (nb : Notebook) : Decidable (nb.MountsDeclared k) :=
  inferInstanceAs (Decidable (∀ ms ∈ nb.mounts k, ∀ m ∈ ms, ∃ v ∈ nb.volumes, NamesVolume m v))

/-- The containers of a list still have their mounts of the volumes that are declared. -/
def KeepsMounts (k : String) (nb nb' : Notebook) : Prop :=
  ∀ (j : Nat) ms, (nb.mounts k)[j]? = some ms → ∃ ms', (nb'.mounts k)[j]? = some ms' ∧
    ∀ m ∈ ms, (∃ v ∈ nb'.volumes, NamesVolume m v) → m ∈ ms'

theorem Opens.podList {nb nb₀ : Notebook} {ps : List Member} (h : nb.Opens nb₀ ps) (k : String) :
    nb.podList k = entriesOf (ps.lookup k) := by
  rw [Notebook.podList, h.at?]

end Notebook

namespace TrustBundle

open Notebook

/-- The names of the mounts that are taken away. -/
def mountNames : List Doc := [.str volumeName]

/-- What is left of a container: its variables and mounts are those of other names. -/
structure ContainerLeft (c c' : Doc) : Prop where
  frame : ChangedWithin [[.member "env"], [.member "volumeMounts"]] c c'
  env : c'.listUnder "env" = others (variableNames.map .str) (c.listUnder "env")
  mounts : c'.listUnder "volumeMounts" = others mountNames (c.listUnder "volumeMounts")

/-- What is left of a notebook: one of its containers, and the volumes that do not hold the bundle. -/
structure Unmounted (i : Nat) (nb without : Notebook) : Prop where
  frame : ChangedWithin [podSpecPlace "containers", podSpecPlace "volumes"] nb without
  container : ∃ c c', (nb.podList "containers")[i]? = some c ∧ ContainerLeft c c' ∧
    without.podList "containers" = (nb.podList "containers").set i c'
  volumes : without.volumes = nb.volumes.filter fun v => !isBundle v

variable {nb nb₀ without : Notebook} {c c' : Doc} {i : Nat} {k : String} {changed : Bool}

theorem containerLeft_of_unmountInContainer (h : unmountInContainer c = .ok (changed, c')) :
    ContainerLeft c c' := by
  have hframe := changedWithin_unmountInContainer h
  obtain ⟨⟨_, c₁⟩, h₁, h⟩ := bind_eq_ok_iff.mp h
  obtain ⟨⟨_, c₂⟩, h₂, h⟩ := bind_eq_ok_iff.mp h
  cases h
  refine ⟨hframe, ?_, ?_⟩
  · rw [(sameBut_dropEntries h₂).listUnder (by decide)]
    exact (tells_memberIsOneOf variableNames).listUnder_dropEntries h₁
  · rw [← (sameBut_dropEntries h₁).listUnder (show "volumeMounts" ≠ "env" by decide)]
    exact (tells_memberIsOneOf [volumeName]).listUnder_dropEntries h₂

/-- **What is left of a notebook without the bundle.** -/
theorem unmounted_of_unmount (hprimary : nb.primaryIndex? = .ok (some i))
    (h : unmount nb = .ok (changed, without)) : Unmounted i nb without := by
  obtain ⟨nb₀, ps, hopens⟩ := opens_of_primaryIndex? hprimary
  obtain ⟨name, hname, -⟩ := bind_eq_ok_iff.mp hprimary
  obtain ⟨cs, j, c, c', ps', _, _, hthere, hcontainer, hvolumes, -, hreplaced⟩ :=
    (unmount_eq_ok_iff hname hopens).mp h
  rw [hopens.primaryIndex? hname, hthere.primaryIn?] at hprimary
  cases hprimary
  have hleft := hreplaced.hasPodSpec.opens
  have hcs : nb.podList "containers" = cs := by
    rw [hopens.podList, hthere.containers]
    rfl
  obtain ⟨_, _, hps, hps', hothers⟩ := sameBut_dropEntries hvolumes
  cases hps
  cases hps'
  have hspec : ChangedWithin [[.member "containers"], [.member "volumes"]] (.obj ps)
      (.obj (setMember "containers" (.arr (cs.set i c')) ps')) := by
    refine changedWithin_members (List.cons_ne_nil "containers" ["volumes"]) fun k hk => ?_
    obtain ⟨hcontainers, hrest⟩ := not_or.mp (List.mem_cons.not.mp hk)
    rw [lookup_setMember, if_neg hcontainers, hothers k (List.mem_singleton.not.mp hrest)]
  refine ⟨hopens.changedWithin (by simp) hspec hreplaced, ⟨c, c', ?_, ?_, ?_⟩, ?_⟩
  · rw [hcs, hthere.there]
  · exact containerLeft_of_unmountInContainer hcontainer
  · rw [hleft.podList, lookup_setMember_self, hcs]
    rfl
  · rw [volumes, volumes, hleft.podList, hopens.podList, lookup_setMember, if_neg (by decide),
      ← listUnder_obj, ← listUnder_obj]
    exact tells_isBackedBy.listUnder_dropEntries hvolumes

theorem exists_unmountInContainer (h : Shape.isContainer c = true) :
    ∃ changed c', unmountInContainer c = .ok (changed, c') := by
  obtain ⟨⟨hentry, henv⟩, hmounts⟩ := Shape.isContainer_iff.mp h
  obtain ⟨ms, rfl⟩ := isObj_iff.mp (Shape.isObj_of_isEntry hentry)
  obtain ⟨vars, hvars, hobj⟩ := mayList_obj.mp henv
  obtain ⟨_, ns, h₁⟩ := (tells_memberIsOneOf variableNames).exists_dropEntries hvars
    fun e he => exists_memberIsOneOf _ (hobj e he)
  have hns : mayList "volumeMounts" isObj (.obj ns) = true := by
    rw [mayList, memberFits_of_sameBut (sameBut_dropEntries h₁) (by decide)]
    exact hmounts
  obtain ⟨mounts, hmounts, hobj⟩ := mayList_obj.mp hns
  obtain ⟨_, os, h₂⟩ := (tells_memberIsOneOf [volumeName]).exists_dropEntries hmounts
    fun e he => exists_memberIsOneOf _ (hobj e he)
  exact ⟨_, _, bind_eq_ok_iff.mpr ⟨_, h₁, bind_eq_ok_iff.mpr ⟨_, h₂, rfl⟩⟩⟩

/-- The bundle can be taken out of every notebook of the right shape. -/
theorem exists_unmount (hshape : Shape.hasTemplate (Shape.isPodSpec Shape.isContainer) nb = true)
    (hvolumes : ∀ v ∈ nb.volumes, isVolume v = true) (hprimary : nb.primaryIndex? = .ok (some i)) :
    ∃ changed without, unmount nb = .ok (changed, without) := by
  obtain ⟨nb₀, ps, hopens, hps⟩ := opens_of_hasTemplate hshape
  obtain ⟨name, hname, -⟩ := bind_eq_ok_iff.mp hprimary
  rw [hopens.primaryIndex? hname] at hprimary
  obtain ⟨cs, c, hthere⟩ := primary_of_primaryIn? hprimary
  obtain ⟨hcontainers, hlist⟩ := Shape.isPodSpec_iff.mp hps
  obtain ⟨_, c', hcontainer⟩ := exists_unmountInContainer
    (forall_of_mayList hcontainers hthere.containers c (List.mem_of_getElem? hthere.there))
  obtain ⟨vs, hvs, -⟩ := mayList_obj.mp hlist
  have hvs' : nb.volumes = vs := by
    rw [volumes, hopens.podList]
    rcases hvs with hvs | ⟨rfl, hnull⟩
    · rw [hvs]
      rfl
    · rw [← Tells.entriesOf_getD, hnull]
      rfl
  obtain ⟨_, ps', hdrop⟩ := tells_isBackedBy.exists_dropEntries hvs
    fun v hv => exists_isBackedBy (hvolumes v (hvs' ▸ hv)) _
  obtain ⟨without, hreplaced⟩ := hopens.hasPodSpec.replace
    (.obj (setMember "containers" (.arr (cs.set i c')) ps'))
  exact ⟨_, without, (unmount_eq_ok_iff hname hopens).mpr
    ⟨cs, i, c, c', ps', _, _, hthere, hcontainer, hdrop, rfl, hreplaced⟩⟩

/-! ## Mounts that go with their volumes -/

/-- A mount of the container at `j` in a list is one of those that are taken away from the primary
container, which is the one at `i`. -/
def Goes (i : Nat) (k : String) (j : Nat) (m : Doc) : Prop :=
  k = "containers" ∧ j = i ∧ hasNameIn mountNames m = true

instance (i : Nat) (k : String) (j : Nat) (m : Doc) : Decidable (Goes i k j m) :=
  inferInstanceAs (Decidable (_ ∧ _ ∧ _))

/-- The mounts that are taken away are those whose volumes all hold the bundle. -/
def GoTogether (i : Nat) (k : String) (nb : Notebook) : Prop :=
  ∀ (j : Nat) ms, (nb.mounts k)[j]? = some ms → ∀ m ∈ ms,
    (Goes i k j m ↔ ∀ v ∈ nb.volumes, NamesVolume m v → isBundle v = true)

namespace Unmounted

variable (h : Unmounted i nb without)

include h

theorem podList_eq (hcontainers : k ≠ "containers") (hvolumes : k ≠ "volumes") :
    without.podList k = nb.podList k := by
  rw [podList, podList, h.frame.outside]
  simp [Place.Apart, podSpecPlace, hcontainers, hvolumes, eq_comm]

theorem mounts_eq (hk : k ≠ "volumes") (j : Nat) : (without.mounts k)[j]? =
    ((nb.mounts k)[j]?).map fun ms => ms.filter fun m => !decide (Goes i k j m) := by
  by_cases hprimary : k = "containers" ∧ j = i
  · obtain ⟨rfl, rfl⟩ := hprimary
    obtain ⟨c, c', hc, hleft, hcs⟩ := h.container
    rw [mounts, mounts, hcs, List.getElem?_map, List.getElem?_map, List.getElem?_set_self
      (List.getElem?_eq_some_iff.mp hc).1, hc, Option.map_some, Option.map_some, hleft.mounts, others]
    simp [Goes]
  · have hstays : ∀ m, ¬ Goes i k j m := fun m hgoes => hprimary ⟨hgoes.1, hgoes.2.1⟩
    have hsame : (without.podList k)[j]? = (nb.podList k)[j]? := by
      by_cases hcontainers : k = "containers"
      · obtain ⟨c, c', -, -, hcs⟩ := h.container
        rw [hcontainers, hcs, List.getElem?_set_ne fun hj => hprimary ⟨hcontainers, hj.symm⟩]
      · rw [h.podList_eq hcontainers hk]
    rw [mounts, mounts, List.getElem?_map, List.getElem?_map, hsame]
    simp [hstays, Function.comp_def]

theorem declared_iff {m : Doc} : (∃ v ∈ without.volumes, NamesVolume m v) ↔
    ¬ ∀ v ∈ nb.volumes, NamesVolume m v → isBundle v = true := by
  rw [h.volumes]
  simp only [List.mem_filter, Bool.not_eq_true', not_forall, Bool.not_eq_true, exists_prop]
  exact exists_congr fun v => by tauto

theorem consistent_iff (hk : k ≠ "volumes") :
    without.MountsDeclared k ∧ KeepsMounts k nb without ↔ GoTogether i k nb := by
  have hmem : ∀ {ms : List Doc} {j : Nat} {m : Doc},
      m ∈ (ms.filter fun m => !decide (Goes i k j m)) ↔ m ∈ ms ∧ ¬ Goes i k j m := by simp
  constructor
  · rintro ⟨hdeclared, hkeeps⟩ j ms hms m hm
    have hleft := h.mounts_eq hk j
    rw [hms, Option.map_some] at hleft
    rw [← not_iff_not, ← h.declared_iff]
    constructor
    · exact fun hstays => hdeclared _ (List.mem_of_getElem? hleft) m (hmem.mpr ⟨hm, hstays⟩)
    · intro hdecl
      obtain ⟨ms', hms', hall⟩ := hkeeps j ms hms
      cases hleft.symm.trans hms'
      exact (hmem.mp (hall m hm hdecl)).2
  · intro htogether
    refine ⟨fun ms' hms' m hm => ?_, fun j ms hms => ?_⟩
    · obtain ⟨j, hj⟩ := List.getElem?_of_mem hms'
      rw [h.mounts_eq hk, Option.map_eq_some_iff] at hj
      obtain ⟨ms, hms, rfl⟩ := hj
      obtain ⟨hm, hstays⟩ := hmem.mp hm
      rw [h.declared_iff, ← htogether j ms hms m hm]
      exact hstays
    · refine ⟨_, by rw [h.mounts_eq hk, hms, Option.map_some], fun m hm hdecl =>
        hmem.mpr ⟨hm, ?_⟩⟩
      rwa [htogether j ms hms m hm, ← h.declared_iff]

end Unmounted

/-- Only the primary container mounts the bundle, by a name that no other volume has. -/
theorem goTogether_of_own (hdeclared : nb.MountsDeclared k)
    (hvolumes : ∀ v ∈ nb.volumes, isBundle v = true ↔ nameOf? v = some (.str volumeName))
    (hmounts : ∀ (j : Nat) ms, (nb.mounts k)[j]? = some ms → ∀ m ∈ ms,
      nameOf? m = some (.str volumeName) → k = "containers" ∧ j = i) : GoTogether i k nb := by
  have hnamed : ∀ {m}, hasNameIn mountNames m = true ↔ nameOf? m = some (.str volumeName) := by
    intro m
    rw [hasNameIn, mountNames]
    cases nameOf? m <;> simp [looseEq_str_iff]
  intro j ms hms m hm
  obtain ⟨v, hv, hname⟩ := hdeclared ms (List.mem_of_getElem? hms) m hm
  constructor
  · rintro ⟨-, -, hm⟩ v hv hname
    rw [hvolumes v hv, hname.2, ← hnamed, hm]
  · intro hall
    have hbundle := (hvolumes v hv).mp (hall v hv hname)
    rw [hname.2] at hbundle
    obtain ⟨hcontainers, hj⟩ := hmounts j ms hms m hm hbundle
    exact ⟨hcontainers, hj, hnamed.mpr hbundle⟩

/-- **The bundle is taken out.** Of the primary container the variables and the mounts of other names
are left, and the volumes that are left are those that do not hold the bundle. Every mount that is left
names a volume that is left, and no mount of such a volume is taken away, if and only if the mounts
that are taken away are those whose volumes are. This holds for every list of containers. -/
theorem unmount_consistent_iff
    (hshape : Shape.hasTemplate (Shape.isPodSpec Shape.isContainer) nb = true)
    (hvolumes : ∀ v ∈ nb.volumes, isVolume v = true) (hprimary : nb.primaryIndex? = .ok (some i)) :
    ∃ changed without, unmount nb = .ok (changed, without) ∧ Unmounted i nb without ∧
      ∀ k, k ≠ "volumes" →
        (without.MountsDeclared k ∧ KeepsMounts k nb without ↔ GoTogether i k nb) := by
  obtain ⟨changed, without, hunmount⟩ := exists_unmount hshape hvolumes hprimary
  have hleft := unmounted_of_unmount hprimary hunmount
  exact ⟨changed, without, hunmount, hleft, fun k hk => hleft.consistent_iff hk⟩

/-! ### Two notebooks with the bundle -/

/-- A volume with the files of a user. -/
def dataVolume : Doc :=
  .obj [("name", "data"), ("persistentVolumeClaim", .obj [("claimName", "files")])]

/-- Its mount. -/
def dataMount : Doc := .obj [("name", "data"), ("mountPath", "/opt/app-root/src")]

/-- A notebook with a container of its own name, and one before it that fetches the files. -/
def notebookWith (env mounts volumes : List Doc) : Notebook :=
  .obj [
    ("metadata", .obj [("name", "wb"), ("namespace", "project")]),
    ("spec", .obj [("template", .obj [("spec", .obj [
      ("initContainers", .arr [.obj [("name", "fetch"), ("volumeMounts", .arr [dataMount])]]),
      ("containers", .arr [.obj [
        ("name", "wb"),
        ("env", .arr env),
        ("volumeMounts", .arr mounts)]]),
      ("volumes", .arr volumes)])])])]

/-- A notebook that mounts the bundle as the operator does. -/
def mountedNotebook : Notebook :=
  notebookWith [pointer "SSL_CERT_FILE"] [dataMount, volumeMount] [dataVolume, volume]

/-- The files of the user stay mounted, and every mount names a volume. -/
theorem mountedNotebook_consistent :
    mountedNotebook.primaryIndex? = .ok (some 0) ∧
      ∃ changed without, unmount mountedNotebook = .ok (changed, without) ∧
        Unmounted 0 mountedNotebook without ∧ ∀ k ∈ ["containers", "initContainers"],
          without.MountsDeclared k ∧ KeepsMounts k mountedNotebook without := by
  have hprimary : mountedNotebook.primaryIndex? = .ok (some 0) := by decide +kernel
  obtain ⟨changed, without, hunmount, hleft, hconsistent⟩ :=
    unmount_consistent_iff (by decide +kernel) (by decide +kernel) hprimary
  have hdeclared : ∀ k ∈ ["containers", "initContainers"], mountedNotebook.MountsDeclared k := by
    decide +kernel
  have hmounts : ∀ k ∈ ["containers", "initContainers"],
      ∀ p ∈ (mountedNotebook.mounts k).zipIdx, ∀ m ∈ p.1,
        nameOf? m = some (.str volumeName) → k = "containers" ∧ p.2 = 0 := by
    decide +kernel
  refine ⟨hprimary, changed, without, hunmount, hleft, fun k hk => (hconsistent k ?_).mpr ?_⟩
  · rintro rfl
    exact absurd hk (by decide)
  · exact goTogether_of_own (hdeclared k hk) (by decide +kernel) fun j ms hms =>
      hmounts k hk (ms, j) (List.mem_zipIdx_iff_getElem?.mpr hms)

/-- A volume with certificates of a user, under the name that the operator uses. -/
def ownVolume : Doc := .obj [("name", volumeName), ("secret", .obj [("secretName", "own-ca")])]

/-- A volume with the bundle, under another name. -/
def renamedVolume : Doc :=
  .obj [("name", "corporate-ca"), ("configMap", .obj [("name", bundleConfigMap)])]

/-- Its mount. -/
def renamedMount : Doc := .obj [("name", "corporate-ca"), ("mountPath", "/etc/corporate-ca")]

/-- A notebook in which the bundle and another volume have each other's names. -/
def renamedNotebook : Notebook :=
  notebookWith [] [dataMount, volumeMount, renamedMount] [dataVolume, ownVolume, renamedVolume]

/-- **A mount is left without its volume, and a volume without its mount.** -/
theorem unmount_breaks_mounts :
    renamedNotebook.primaryIndex? = .ok (some 0) ∧
      (∀ k ∈ ["containers", "initContainers"], renamedNotebook.MountsDeclared k) ∧
      ∃ without, unmount renamedNotebook = .ok (true, without) ∧
        ¬ without.MountsDeclared "containers" ∧
        ¬ KeepsMounts "containers" renamedNotebook without := by
  refine ⟨by decide +kernel, by decide +kernel,
    notebookWith [] [dataMount, renamedMount] [dataVolume, ownVolume], by decide +kernel,
    by decide +kernel, fun hkeeps => ?_⟩
  obtain ⟨ms, hms, hall⟩ := hkeeps 0 [dataMount, volumeMount, renamedMount] rfl
  cases hms
  have hmissing := hall volumeMount (by decide +kernel) ⟨ownVolume, by decide +kernel⟩
  exact absurd hmissing (by decide +kernel)

end TrustBundle

end Workbench
