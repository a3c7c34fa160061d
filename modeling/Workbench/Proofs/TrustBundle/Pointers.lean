import Workbench.Proofs.Entries.LastGiven
import Workbench.Proofs.TrustBundle.RoundTrip

/-!
# Variables that repeat their names

A list of variables may have several of one name. The variables that point at the bundle take the
places of the first ones of their names, and what comes behind under the same names stays.

* `Doc.eraseFirsts`: a list without the first entry of each of some names; `Doc.mem_eraseFirsts` says
  that nothing else is missing;
* `PutFirst`: an entry for each name, in the place of the first one or at the end;
  `putFirst_putEntry` is one step, **`putFirst_of_foldlM`** all of them;
* `TrustBundle.AllPoint`: no variable for certificates points elsewhere;
* **`TrustBundle.mount_puts_pointers`**: the variables of a notebook in which the bundle was mounted,
  and when all of them point there;
* `TrustBundle.mount_leaves_repeated`: a notebook in which one does not.
-/

namespace Workbench

open Doc

/-! ## The first entry of a name -/

namespace Doc

variable {s t : String} {d e v : Doc} {es before after : List Doc} {names : List String} {j : Nat}

theorem hasName_of_ne (hne : s ≠ t) (h : hasName s v = true) : hasName t v = false := by
  rw [hasName, hasName_iff.mp h]
  simpa using hne

theorem getElem?_replaced (hv : (before ++ d :: after)[j]? = some v) :
    (before ++ e :: after)[j]? = some v ∨ v = d ∧ (before ++ e :: after)[j]? = some e := by
  have hset : before ++ e :: after = (before ++ d :: after).set before.length e := by
    rw [List.set_append_right _ _ (Nat.le_refl _), Nat.sub_self, List.set_cons_zero]
  rw [hset]
  by_cases hj : before.length = j
  · subst hj
    have hthere : (before ++ d :: after)[before.length]? = some d := by
      rw [List.getElem?_append_right (Nat.le_refl _), Nat.sub_self, List.getElem?_cons_zero]
    refine .inr ⟨Option.some.inj (hv.symm.trans hthere), ?_⟩
    exact List.getElem?_set_self (List.getElem?_eq_some_iff.mp hv).1
  · rw [List.getElem?_set_ne hj]
    exact .inl hv

theorem find?_eraseP_of_ne (hne : s ≠ t) (es : List Doc) :
    (es.eraseP (hasName s)).find? (hasName t) = es.find? (hasName t) := by
  rcases List.exists_or_eq_self_of_eraseP (hasName s) es with
    herase | ⟨v, before, after, -, hv, rfl, herase⟩
  · rw [herase]
  · rw [herase, List.find?_append, List.find?_append, List.find?_cons, hasName_of_ne hne hv]

theorem mem_eraseP (hv : v ∈ es) :
    v ∈ es.eraseP (hasName s) ∨ es.find? (hasName s) = some v := by
  induction es with
  | nil => cases hv
  | cons e es ih =>
    rw [List.eraseP_cons, List.find?_cons]
    cases hasName s e with
    | true => exact (List.mem_cons.mp hv).elim (fun h => .inr (by rw [h])) .inl
    | false =>
      rcases List.mem_cons.mp hv with rfl | hv
      · exact .inl List.mem_cons_self
      · exact (ih hv).imp_left (List.mem_cons_of_mem _)

/-- The entries without the first one of each name. -/
def eraseFirsts (names : List String) (es : List Doc) : List Doc :=
  names.foldl (fun es s => es.eraseP (hasName s)) es

theorem eraseFirsts_cons : eraseFirsts (s :: names) es = eraseFirsts names (es.eraseP (hasName s)) :=
  rfl

theorem eraseFirsts_sublist (names : List String) (es : List Doc) :
    (eraseFirsts names es).Sublist es := by
  induction names generalizing es with
  | nil => exact .refl es
  | cons s names ih => exact (ih _).trans List.eraseP_sublist

theorem eraseFirsts_eraseP (hs : s ∉ names) (es : List Doc) :
    eraseFirsts names (es.eraseP (hasName s)) = (eraseFirsts names es).eraseP (hasName s) := by
  induction names generalizing es with
  | nil => rfl
  | cons t names ih =>
    obtain ⟨hne, hs⟩ := not_or.mp (List.mem_cons.not.mp hs)
    have happart : ∀ v ∈ es, ¬ hasName s v = true ∨ ¬ hasName t v = true := fun v _ =>
      not_and_or.mp fun ⟨hv, hv'⟩ => by simp [hasName_of_ne hne hv] at hv'
    rw [eraseFirsts_cons, eraseFirsts_cons, List.eraseP_comm happart, ih hs]

/-- What is missing was the first entry of a name. -/
theorem mem_eraseFirsts (hnames : names.Nodup) (hv : v ∈ es) :
    v ∈ eraseFirsts names es ∨ ∃ s ∈ names, es.find? (hasName s) = some v := by
  induction names generalizing es with
  | nil => exact .inl hv
  | cons s names ih =>
    obtain ⟨hs, hnames⟩ := List.nodup_cons.mp hnames
    rcases mem_eraseP (s := s) hv with hv | hfirst
    · refine (ih hnames hv).imp_right fun ⟨t, ht, hfirst⟩ => ⟨t, List.mem_cons_of_mem _ ht, ?_⟩
      rwa [find?_eraseP_of_ne (ne_of_mem_of_not_mem ht hs).symm] at hfirst
    · exact .inr ⟨s, List.mem_cons_self, hfirst⟩

theorem not_hasName_of_eraseFirsts (hs : s ∈ names) (hcount : es.countP (hasName s) ≤ 1)
    (hv : v ∈ eraseFirsts names es) : ¬ hasName s v = true := by
  induction names generalizing es with
  | nil => cases hs
  | cons t names ih =>
    rw [eraseFirsts_cons] at hv
    rcases List.mem_cons.mp hs with rfl | hs
    · intro hnamed
      have hmem := (eraseFirsts_sublist names _).subset hv
      obtain ⟨w, before, after, -, hw, rfl, herase⟩ :=
        List.exists_of_eraseP (List.mem_of_mem_eraseP hmem) hnamed
      rw [herase] at hmem
      have hpos : 0 < (before ++ after).countP (hasName s) := List.countP_pos_iff.mpr ⟨v, hmem, hnamed⟩
      rw [List.countP_append, List.countP_cons, if_pos hw] at hcount
      rw [List.countP_append] at hpos
      omega
    · exact ih hs (List.eraseP_sublist.countP_le.trans hcount) hv

end Doc

/-! ## Entries that are put in -/

/-- An entry is put in for each name: in the place of the first one of the name, or at the end. -/
structure PutFirst (names : List String) (entry : String → Doc) (es es' : List Doc) : Prop where
  first : ∀ s ∈ names, es'.find? (hasName s) = some (entry s)
  rest : eraseFirsts names es' = eraseFirsts names es
  place : ∀ (j : Nat) v, es[j]? = some v →
    es'[j]? = some v ∨ ∃ s ∈ names, hasName s v = true ∧ es'[j]? = some (entry s)

section PutFirst

variable {s t : String} {e v : Doc} {es es' : List Doc} {names : List String} {entry : String → Doc}

theorem putEntry_cases (he : e.require "name" = .ok (.str s)) (h : putEntry e es = .ok es') :
    (∃ before d after, es = before ++ d :: after ∧ es' = before ++ e :: after ∧
      (∀ v ∈ before, ¬ hasName s v = true) ∧ hasName s d = true) ∨
    (∀ v ∈ es, ¬ hasName s v = true) ∧ es' = es ++ [e] := by
  rw [putEntry_eq he] at h
  simp only [Bool.not_eq_true]
  rcases apply_named_cases h with ⟨before, d, d', after, hes, hes', hbefore, hd, hedit⟩ | hnone
  · cases hedit
    exact .inl ⟨before, d, after, hes, hes', hbefore, hd⟩
  · exact .inr hnone

theorem hasName_of_require (he : e.require "name" = .ok (.str s)) : hasName s e = true :=
  hasName_iff.mpr (nameOf?_eq_some_iff.mpr he)

/-- **One entry is put in.** -/
theorem putFirst_putEntry (he : (entry s).require "name" = .ok (.str s))
    (h : putEntry (entry s) es = .ok es') : PutFirst [s] entry es es' := by
  have hself := hasName_of_require he
  rcases putEntry_cases he h with ⟨before, d, after, rfl, rfl, hbefore, hd⟩ | ⟨hes, rfl⟩
  · refine ⟨List.forall_mem_singleton.mpr ?_, ?_, fun j v hv => ?_⟩
    · rw [List.find?_append, List.find?_eq_none.mpr hbefore, Option.none_or, List.find?_cons, hself]
    · simp only [eraseFirsts, List.foldl_cons, List.foldl_nil]
      rw [List.eraseP_append_right _ hbefore, List.eraseP_append_right _ hbefore,
        List.eraseP_cons_of_pos hself, List.eraseP_cons_of_pos hd]
    · exact (getElem?_replaced hv).imp_right fun ⟨heq, hput⟩ =>
        ⟨s, List.mem_cons_self, heq ▸ hd, hput⟩
  · refine ⟨List.forall_mem_singleton.mpr ?_, ?_, fun j v hv => .inl ?_⟩
    · rw [List.find?_append, List.find?_eq_none.mpr hes, Option.none_or, List.find?_cons, hself]
    · simp only [eraseFirsts, List.foldl_cons, List.foldl_nil]
      rw [List.eraseP_append_right _ hes, List.eraseP_cons_of_pos hself,
        List.eraseP_of_forall_not hes, List.append_nil]
    · rw [List.getElem?_append_left (List.getElem?_eq_some_iff.mp hv).1, hv]

theorem find?_putEntry_of_ne (he : e.require "name" = .ok (.str s)) (hne : s ≠ t)
    (h : putEntry e es = .ok es') : es'.find? (hasName t) = es.find? (hasName t) := by
  have hentry := hasName_of_ne hne (hasName_of_require he)
  rcases putEntry_cases he h with ⟨before, d, after, rfl, rfl, -, hd⟩ | ⟨-, rfl⟩
  · rw [List.find?_append, List.find?_append, List.find?_cons, List.find?_cons, hentry,
      hasName_of_ne hne hd]
  · rw [List.find?_append, List.find?_cons, hentry, List.find?_nil, Option.or_none]

theorem find?_foldlM_of_not_mem
    (hentry : ∀ s ∈ names, (entry s).require "name" = .ok (.str s)) (ht : t ∉ names)
    (h : (names.map entry).foldlM (fun es e => putEntry e es) es = .ok es') :
    es'.find? (hasName t) = es.find? (hasName t) := by
  induction names generalizing es with
  | nil =>
    cases h
    rfl
  | cons s names ih =>
    obtain ⟨hs, hentry⟩ := List.forall_mem_cons.mp hentry
    obtain ⟨hne, ht⟩ := not_or.mp (List.mem_cons.not.mp ht)
    rw [List.map_cons, List.foldlM_cons] at h
    obtain ⟨es₁, h₁, h⟩ := bind_eq_ok_iff.mp h
    rw [ih hentry ht h, find?_putEntry_of_ne hs (Ne.symm hne) h₁]

/-- **An entry was put in for each name.** -/
theorem putFirst_of_foldlM (hnames : names.Nodup)
    (hentry : ∀ s ∈ names, (entry s).require "name" = .ok (.str s))
    (h : (names.map entry).foldlM (fun es e => putEntry e es) es = .ok es') :
    PutFirst names entry es es' := by
  induction names generalizing es with
  | nil =>
    cases h
    exact ⟨nofun, rfl, fun _ _ hv => .inl hv⟩
  | cons s names ih =>
    obtain ⟨hnotin, hnodup⟩ := List.nodup_cons.mp hnames
    obtain ⟨hs, hrest⟩ := List.forall_mem_cons.mp hentry
    rw [List.map_cons, List.foldlM_cons] at h
    obtain ⟨es₁, h₁, h⟩ := bind_eq_ok_iff.mp h
    have hstep := putFirst_putEntry hs h₁
    have hrun := ih hnodup hrest h
    refine ⟨List.forall_mem_cons.mpr ⟨?_, hrun.first⟩, ?_, fun j v hv => ?_⟩
    · -- The entries after this one have other names.
      rw [find?_foldlM_of_not_mem hrest hnotin h]
      exact hstep.first s List.mem_cons_self
    · rw [eraseFirsts_cons, eraseFirsts_eraseP hnotin, hrun.rest, ← eraseFirsts_eraseP hnotin,
        eraseFirsts_cons]
      exact congrArg (eraseFirsts names) hstep.rest
    · rcases hstep.place j v hv with hv | ⟨_, ht, hname, he⟩
      · refine (hrun.place j v hv).imp_right fun ⟨t, ht, hput⟩ => ⟨t, List.mem_cons_of_mem _ ht, hput⟩
      · rw [List.mem_singleton.mp ht] at hname he
        rcases hrun.place j _ he with he | ⟨t, ht, hother, -⟩
        · exact .inr ⟨s, List.mem_cons_self, hname, he⟩
        · have hself := hasName_of_require hs
          rw [hasName_of_ne (ne_of_mem_of_not_mem ht hnotin) hother] at hself
          cases hself

theorem PutFirst.forall_iff {holds : Doc → Prop} (h : PutFirst names entry es es')
    (hnames : names.Nodup) (hentry : ∀ s ∈ names, holds (entry s)) :
    (∀ s ∈ names, ∀ v ∈ es', hasName s v = true → holds v) ↔
      ∀ s ∈ names, ∀ v ∈ eraseFirsts names es, hasName s v = true → holds v := by
  rw [← h.rest]
  constructor
  · exact fun hall s hs v hv => hall s hs v ((eraseFirsts_sublist _ _).subset hv)
  · intro hleft s hs v hv hname
    rcases mem_eraseFirsts hnames hv with hv | ⟨t, ht, hfirst⟩
    · exact hleft s hs v hv hname
    · rw [h.first t ht] at hfirst
      cases hfirst
      exact hentry t ht

end PutFirst

/-! ## The variables of a notebook -/

namespace TrustBundle

open Notebook

variable {nb mounted : Notebook} {c c' : Doc} {vars : List Doc} {i : Nat}

/-- The value of a variable is where the bundle is, and it is taken from nowhere else. -/
def PointsAtBundle (v : Doc) : Prop :=
  v.at? [.member "value"] = some (.str mountPath) ∧ v.at? [.member "valueFrom"] = none

instance (v : Doc) : Decidable (PointsAtBundle v) := inferInstanceAs (Decidable (_ ∧ _))

/-- All variables by which programs find certificates point at the bundle. -/
def AllPoint (vars : List Doc) : Prop :=
  ∀ s ∈ variableNames, ∀ v ∈ vars, hasName s v = true → PointsAtBundle v

instance (vars : List Doc) : Decidable (AllPoint vars) :=
  inferInstanceAs (Decidable (∀ s ∈ variableNames, ∀ v ∈ vars, hasName s v = true → PointsAtBundle v))

theorem pointsAtBundle_pointer (s : String) : PointsAtBundle (pointer s) := ⟨rfl, rfl⟩

/-- The bundle can be mounted: the variables and mounts of the container are objects, and every volume
has a name. -/
structure IsMountable (nb : Notebook) (c : Doc) : Prop where
  vars : mayList "env" isObj c = true
  mounts : mayList "volumeMounts" isObj c = true
  volumes : (nb.at? (podSpecPlace "volumes")).all
    (orNull (isListOf fun v => (Entries.key? v).isSome)) = true

theorem putFirst_of_mountInContainer (h : mountInContainer c = .ok c') :
    PutFirst variableNames pointer (c.listUnder "env") (c'.listUnder "env") := by
  obtain ⟨c₁, h₁, h₂⟩ := bind_eq_ok_iff.mp h
  rw [(sameBut_putEntries h₂).listUnder (by decide)]
  obtain ⟨ms, vars, vars', rfl, hvars, hfold, rfl⟩ := putEntries_eq_ok h₁
  have hlist : (obj ms).listUnder "env" = vars := by
    rw [listUnder_obj]
    rcases hvars with ⟨hnull, rfl⟩ | hvars
    · exact ItemsAre.entriesOf (.inr ⟨rfl, hnull⟩)
    · rw [hvars, entriesOf]
  rw [hlist, listUnder_obj, lookup_setMember_self, entriesOf]
  exact putFirst_of_foldlM (by decide) (fun _ _ => rfl) hfold

theorem exists_mount (hprimary : nb.primaryIndex? = .ok (some i))
    (hc : (nb.podList "containers")[i]? = some c) (h : IsMountable nb c) :
    ∃ mounted, mount nb = .ok mounted := by
  obtain ⟨name, ps, cs, c', hname, hspec, hthere⟩ := exists_primary hprimary
  have hopens := hspec.opens
  rw [hopens.podList, hthere.containers, entriesOf, hthere.there] at hc
  cases hc
  obtain ⟨c', hmount, -⟩ := Shape.exists_mountInContainer_of_mayList h.vars h.mounts
  have hvolumes := h.volumes
  rw [hopens.at?] at hvolumes
  obtain ⟨volumes, hlist, hnamed⟩ := mayList_obj.mp hvolumes
  obtain ⟨E, hE⟩ := Entries.exists_foldlM Entries.empty hnamed
  have hvolume : ∀ e ∈ [volume], (Entries.key? e).isSome = true := by decide
  obtain ⟨F, hF⟩ := Entries.exists_foldlM E hvolume
  obtain ⟨mounted, hreplaced⟩ := hspec.replace
    (.obj (setMember "containers" (.arr (cs.set i c')) (setMember "volumes" (.arr F.toList) ps)))
  refine ⟨mounted, (Admission.mount_eq_ok_iff hname hopens).mpr ⟨F, _, ⟨E, hlist.ofDoc.trans hE, hF⟩,
    ⟨cs, i, _, c', hthere.of_lookup ?_, hmount, rfl⟩, hreplaced⟩⟩
  rw [lookup_setMember, if_neg (by decide)]

theorem exists_container_of_mount (hprimary : nb.primaryIndex? = .ok (some i))
    (hc : (nb.podList "containers")[i]? = some c) (h : mount nb = .ok mounted) :
    mounted.primaryIndex? = .ok (some i) ∧ ∃ c', (mounted.podList "containers")[i]? = some c' ∧
      mountInContainer c = .ok c' := by
  obtain ⟨name, ps, cs, d, hname, hspec, hthere⟩ := exists_primary hprimary
  rw [hspec.opens.podList, hthere.containers, entriesOf, hthere.there] at hc
  cases hc
  obtain ⟨F, ps', -, ⟨cs', j, d, c', hthere', hmount, rfl⟩, hreplaced⟩ :=
    (Admission.mount_eq_ok_iff hname hspec.opens).mp h
  have hname' : mounted.name = .ok name := (name_of_sameBut hreplaced.sameBut).trans hname
  have hopens := hreplaced.hasPodSpec.opens
  obtain ⟨rfl, rfl, rfl⟩ := (hthere.of_lookup (by rw [lookup_setMember, if_neg (by decide)])).unique
    hthere'
  have hmounted := hthere'.replace (Admission.Plan.read_name_of_mount _ _ hmount)
  refine ⟨(hopens.primaryIndex? hname').trans hmounted.primaryIn?, c', ?_, hmount⟩
  rw [hopens.podList, hmounted.containers, entriesOf, hmounted.there]

/-- **The first variable of each name points at the bundle.** When the bundle is mounted, each of the
names is in the primary container, and the first variable of the name points at the bundle. The other
variables stay, in their order, and among them those that come behind under one of the names. So all
variables of the names point at the bundle if and only if those that stay do, as when no name
repeats. -/
theorem mount_puts_pointers (hprimary : nb.primaryIndex? = .ok (some i)) :
    ∃ c, (nb.podList "containers")[i]? = some c ∧
      (IsMountable nb c → ∃ mounted, mount nb = .ok mounted) ∧
      ∀ mounted, mount nb = .ok mounted → mounted.primaryIndex? = .ok (some i) ∧
        ∃ c', (mounted.podList "containers")[i]? = some c' ∧
          PutFirst variableNames pointer (c.listUnder "env") (c'.listUnder "env") ∧
          (AllPoint (c'.listUnder "env") ↔
            AllPoint (eraseFirsts variableNames (c.listUnder "env"))) ∧
          ((∀ s ∈ variableNames, (c.listUnder "env").countP (hasName s) ≤ 1) →
            AllPoint (c'.listUnder "env")) := by
  obtain ⟨c, hc⟩ : ∃ c, (nb.podList "containers")[i]? = some c := by
    obtain ⟨name, ps, cs, c, -, hspec, hthere⟩ := exists_primary hprimary
    exact ⟨c, by rw [hspec.opens.podList, hthere.containers, entriesOf, hthere.there]⟩
  refine ⟨c, hc, exists_mount hprimary hc, fun mounted hmount => ?_⟩
  obtain ⟨hprimary', c', hc', hcontainer⟩ := exists_container_of_mount hprimary hc hmount
  have hput := putFirst_of_mountInContainer hcontainer
  have hiff : AllPoint (c'.listUnder "env") ↔
      AllPoint (eraseFirsts variableNames (c.listUnder "env")) :=
    hput.forall_iff (by decide) fun s _ => pointsAtBundle_pointer s
  refine ⟨hprimary', c', hc', hput, hiff, fun hcount => hiff.mpr fun s hs v hv hname => ?_⟩
  exact absurd hname (not_hasName_of_eraseFirsts hs (hcount s hs) hv)

/-- A variable of a user that names other certificates. -/
def ownPointer (value : String) : Doc := .obj [("name", "SSL_CERT_FILE"), ("value", .str value)]

/-- A notebook whose container has such a variable twice. -/
def overridingNotebook : Notebook :=
  notebookWith [ownPointer "/first.crt", .obj [("name", "KEEP"), ("value", "1")],
    ownPointer "/second.crt"] [dataMount] [dataVolume]

/-- The first variable of each name points at the bundle then. -/
theorem overridingNotebook_puts_pointers :
    overridingNotebook.primaryIndex? = .ok (some 0) ∧
    ∃ mounted c', mount overridingNotebook = .ok mounted ∧
      (mounted.podList "containers")[0]? = some c' ∧
      ∀ s ∈ variableNames, (c'.listUnder "env").find? (hasName s) = some (pointer s) := by
  have hprimary : overridingNotebook.primaryIndex? = .ok (some 0) := by decide +kernel
  obtain ⟨c, hc, hmountable, hall⟩ := mount_puts_pointers hprimary
  cases hc
  obtain ⟨mounted, hmount⟩ := hmountable (by constructor <;> decide +kernel)
  obtain ⟨-, c', hc', hput, -⟩ := hall mounted hmount
  exact ⟨hprimary, mounted, c', hmount, hc', hput.first⟩

/-- **A variable that comes behind under the same name still points elsewhere.** -/
theorem mount_leaves_repeated : overridingNotebook.primaryIndex? = .ok (some 0) ∧
    ∃ mounted c', mount overridingNotebook = .ok mounted ∧
      (mounted.podList "containers")[0]? = some c' ∧
      ownPointer "/second.crt" ∈ c'.listUnder "env" ∧ ¬ AllPoint (c'.listUnder "env") := by
  refine ⟨by decide +kernel, notebookWith [pointer "SSL_CERT_FILE",
    .obj [("name", "KEEP"), ("value", "1")], ownPointer "/second.crt", pointer "PIP_CERT",
    pointer "REQUESTS_CA_BUNDLE", pointer "PIPELINES_SSL_SA_CERTS", pointer "GIT_SSL_CAINFO"]
    [dataMount, volumeMount] [dataVolume, volume], _, by decide +kernel, rfl, ?_, ?_⟩
  · decide +kernel
  · decide +kernel

end TrustBundle

end Workbench
