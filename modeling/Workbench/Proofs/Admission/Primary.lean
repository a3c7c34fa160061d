import Workbench.Proofs.Admission.Sidecar

/-!
# The container of the notebook

One container has the name of the notebook. The operator puts an image, variables and mounts into
it, and the sign-in proxy behind the containers, or in the place of the one that has its name.

* `Notebook.IsPrimary`: the container named like the notebook, among containers;
  `Notebook.indexOfName?_of_prefix`: it is found again when others come behind it;
* `Admission.KeepsPrimary`: containers that keep their names and their places, and of which that one
  is edited at most;
* `Admission.PodEdit.keepsPrimary`: each edit keeps it, as long as the sign-in proxy has another
  name;
* **`Admission.handle_keeps_primary`**: so does every answer that lets a notebook in;
* `Admission.handle_displaces_primary`: a notebook with the name of the sign-in proxy.
-/

namespace Workbench

open Doc Notebook Entries

/-! ## Containers that keep their names -/

namespace Notebook

variable {name c : Doc} {cs cs' : List Doc} {ps : List Member} {i : Nat}

/-- The container named `name` is the one at `i`. -/
structure IsPrimary (name : Doc) (cs : List Doc) (i : Nat) (c : Doc) : Prop where
  index : indexOfName? name cs = .ok (some i)
  there : cs[i]? = some c

theorem IsPrimary.primary (h : IsPrimary name cs i c)
    (hcs : ps.lookup "containers" = some (.arr cs)) : Primary name ps cs i c :=
  ⟨hcs, h.index, h.there⟩

theorem Primary.isPrimary (h : Primary name ps cs i c) : IsPrimary name cs i c := ⟨h.index, h.there⟩

/-- A container is found again when others come behind it. -/
theorem indexOfName?_of_prefix : ∀ {cs cs' : List Doc} {i : Nat}, names cs <+: names cs' →
    indexOfName? name cs = .ok (some i) → indexOfName? name cs' = .ok (some i)
  | [], _, _, _, h => by cases h
  | _ :: _, [], _, hnames, _ => by cases List.prefix_nil.mp hnames
  | c :: cs, c' :: cs', i, hnames, h => by
    obtain ⟨hname, hnames⟩ := List.cons_prefix_cons.mp hnames
    obtain ⟨found, hfound, -⟩ := bind_eq_ok_iff.mp h
    rw [indexOfName?_cons hfound] at h
    rw [indexOfName?_cons (hname.symm.trans hfound)]
    split at h
    · next hsame => rw [if_pos hsame, h]
    · next hother =>
      obtain ⟨j?, hj, hi⟩ := map_eq_ok_iff.mp h
      obtain ⟨j, rfl, rfl⟩ := Option.map_eq_some_iff.mp hi
      rw [if_neg hother, indexOfName?_of_prefix hnames hj]
      rfl

theorem names_prefix_set {other : String} (hc : c.require "name" = .ok (.str other)) :
    ∀ {l : List (Doc × Doc)}, (∀ p ∈ l, Entries.keyOf p.2 = .ok p.1) →
      names (l.map Prod.snd) <+: names ((Entries.set (.str other) c l).map Prod.snd)
  | [], _ => List.nil_prefix
  | (k, d) :: l, hkeys => by
    obtain ⟨hk, hl⟩ := List.forall_mem_cons.mp hkeys
    rw [Entries.set]
    split
    · next hkey =>
      rw [hkey, Entries.keyOf_eq_str_iff] at hk
      simp only [names, List.map_cons, read_of_require hc, read_of_require hk]
      exact List.prefix_rfl
    · exact List.cons_prefix_cons.mpr ⟨rfl, names_prefix_set hc hl⟩

end Notebook

namespace Admission

variable {settings : Settings} {name c c' reference selection : Doc} {cs : List Doc} {i : Nat}
  {ps ps' : List Member} {x y z : Option Doc} {raw mutated : Notebook} {signsIn mayGo : Prop}

/-! ## Edits of the container -/

/-- The places of a container that the operator edits. -/
def containerPlaces : List Place := [[.member "image"], [.member "env"], [.member "volumeMounts"]]

theorem allApart_containerPlaces : Place.AllApart containerPlaces := by decide

theorem changedWithin_of_sameBut {k k' : String} {d : Doc} (hk : [.member k] ∈ containerPlaces)
    (hk' : [.member k'] ∈ containerPlaces) (h : SameBut k c d) (h' : SameBut k' d c') :
    ChangedWithin containerPlaces c c' :=
  have hmono : ∀ {j : String}, [.member j] ∈ containerPlaces → [[.member j]] ⊆ containerPlaces :=
    fun hj => List.cons_subset.mpr ⟨hj, List.nil_subset _⟩
  (h.changedWithin.mono (hmono hk) allApart_containerPlaces).trans
    (h'.changedWithin.mono (hmono hk') allApart_containerPlaces)

theorem changedWithin_putImage (h : Image.putImage reference selection c = .ok c') :
    ChangedWithin containerPlaces c c' := by
  obtain ⟨_, himage, henv⟩ := Image.sameBut_putImage h
  exact changedWithin_of_sameBut (by decide) (by decide) himage henv

theorem changedWithin_mountInContainer (h : TrustBundle.mountInContainer c = .ok c') :
    ChangedWithin containerPlaces c c' := by
  obtain ⟨_, henv, hmounts⟩ := TrustBundle.sameBut_mountInContainer h
  exact changedWithin_of_sameBut (by decide) (by decide) henv hmounts

/-! ## Containers that stay -/

/-- The containers keep their names and their places, and the one named `name` is edited at most. If
it `mayGo`, another one of its name may be in its place. -/
def KeepsPrimary (name : Doc) (mayGo : Prop) (x y : Option Doc) : Prop :=
  ∀ cs i c, x = some (.arr cs) → NamesDiffer cs → IsPrimary name cs i c →
    ∃ cs' c', y = some (.arr cs') ∧ NamesDiffer cs' ∧ IsPrimary name cs' i c' ∧
      names cs <+: names cs' ∧ (¬ mayGo → ChangedWithin containerPlaces c c')

namespace KeepsPrimary

theorem refl (name : Doc) (mayGo : Prop) (x : Option Doc) : KeepsPrimary name mayGo x x :=
  fun cs _ c hx hcs hc => ⟨cs, c, hx, hcs, hc, List.prefix_rfl, fun _ => .refl _ _⟩

theorem trans (h : KeepsPrimary name mayGo x y) (h' : KeepsPrimary name mayGo y z) :
    KeepsPrimary name mayGo x z := by
  intro cs i c hx hcs hc
  obtain ⟨cs', c', hy, hcs', hc', hnames, hedit⟩ := h cs i c hx hcs hc
  obtain ⟨cs'', c'', hz, hcs'', hc'', hnames', hedit'⟩ := h' cs' i c' hy hcs' hc'
  exact ⟨cs'', c'', hz, hcs'', hc'', hnames.trans hnames', fun hstays =>
    (hedit hstays).trans (hedit' hstays)⟩

theorem of_editsPrimary {edit : Doc → Doc → Prop}
    (hedit : ∀ c c', edit c c' →
      ChangedWithin containerPlaces c c' ∧ c'.read "name" = c.read "name")
    (h : EditsPrimary name edit ps ps') :
    KeepsPrimary name mayGo (ps.lookup "containers") (ps'.lookup "containers") := by
  obtain ⟨cs, i, c, c', hprimary, hc, rfl⟩ := h
  obtain ⟨hchanged, hread⟩ := hedit c c' hc
  intro cs₁ i₁ c₁ hcs hnames hisPrimary
  obtain ⟨rfl, rfl, rfl⟩ := (hisPrimary.primary hcs).unique hprimary
  have hname : nameOf? c' = nameOf? c := hchanged.outside [.member "name"] (by decide)
  refine ⟨cs.set i c', c', lookup_setMember_self _ _ _, hnames.set hprimary.there hname,
    (hprimary.replace hread).isPrimary, ?_, fun _ => hchanged⟩
  simp only [names_set hprimary.there hread, List.prefix_rfl]

theorem of_gains {containers : Entries} (hc : c.require "name" = .ok (.str Sidecar.containerName))
    (h : Gains (x.getD .null) [c] containers) :
    KeepsPrimary name (name = .str Sidecar.containerName) x (some (.arr containers.toList)) := by
  rintro cs i p rfl hcs ⟨hindex, hthere⟩
  have hdiffer := h.isKeyed.namesDiffer
  obtain ⟨E, hE, hF⟩ := h
  have hkeys := (isKeyed_ofDoc hE).keyOf_eq
  have hlist : E.keyed.map Prod.snd = cs := toList_eq_entriesOf (x := some (.arr cs)) hcs hE
  rw [List.foldlM_cons] at hF
  obtain ⟨F, hinsert, hend⟩ := bind_eq_ok_iff.mp hF
  cases hend
  obtain ⟨key, hkey, rfl⟩ := insert_eq_ok hinsert
  cases (keyOf_eq_str_iff.mpr hc).symm.trans hkey
  subst hlist
  have hprefix := names_prefix_set hc hkeys
  have hindex' := indexOfName?_of_prefix hprefix hindex
  obtain ⟨p', hp'⟩ := there_of_indexOfName? hindex'
  refine ⟨_, p', rfl, hdiffer, ⟨hindex', hp'⟩, hprefix, fun hother => ?_⟩
  -- Under another name the proxy leaves the container at `i`.
  have hsame := (indexOfName?_set hother hc hkeys hindex).2 i rfl
  cases hp'.symm.trans (hsame.trans hthere)
  exact .refl _ _

theorem mono (hgo : mayGo → signsIn) (h : KeepsPrimary name mayGo x y) :
    KeepsPrimary name signsIn x y := by
  intro cs i c hx hcs hc
  obtain ⟨cs', c', hy, hcs', hc', hnames, hedit⟩ := h cs i c hx hcs hc
  exact ⟨cs', c', hy, hcs', hc', hnames, fun hstays => hedit fun h => hstays (hgo h)⟩

end KeepsPrimary

/-- **Each edit keeps the container of the notebook**, unless the sign-in proxy is put in under its
name. -/
theorem PodEdit.keepsPrimary (h : PodEdit name signsIn ps ps') :
    KeepsPrimary name (name = .str Sidecar.containerName ∧ signsIn) (ps.lookup "containers")
      (ps'.lookup "containers") := by
  cases h with
  | image h =>
    exact .of_editsPrimary (fun _ _ hput => ⟨changedWithin_putImage hput,
      Image.read_putImage hput (by decide) (by decide)⟩) h
  | volume _ =>
    rw [lookup_setMember, if_neg (by decide)]
    exact .refl _ _ _
  | mount h =>
    exact .of_editsPrimary (fun c c' hmount => ⟨changedWithin_mountInContainer hmount,
      Plan.read_name_of_mount c c' hmount⟩) h
  | sidecar hsigns hc hcontainers _ =>
    rw [Plan.lookup_withSidecar_containers]
    exact (KeepsPrimary.of_gains hc hcontainers).mono fun hname => ⟨hname, hsigns⟩

theorem PodEdits.keepsPrimary (h : PodEdits name signsIn ps ps') :
    KeepsPrimary name (name = .str Sidecar.containerName ∧ signsIn) (ps.lookup "containers")
      (ps'.lookup "containers") := by
  induction h with
  | refl => exact .refl _ _ _
  | tail _ hedit ih => exact ih.trans hedit.keepsPrimary

/-! ## Requests -/

/-- The sign-in proxy is in the place of the container of the notebook: the notebook has its name,
asks for sign-in, and its edits do not wait. -/
def IsDisplaced (name : Doc) (raw mutated : Notebook) : Prop :=
  name = .str Sidecar.containerName ∧ raw.oauthEnabled = .ok true ∧
    mutated.hasAnnotation AnnotationKey.updatePending = .ok false

theorem SignsIn.eq_proxy {proxy : Doc} (h : SignsIn (.str Sidecar.containerName) proxy mutated)
    (hcs : mutated.at? (podSpecPlace "containers") = some (.arr cs))
    (hc : IsPrimary (.str Sidecar.containerName) cs i c) : c = proxy := by
  obtain ⟨cs', hcs', -, hproxy⟩ := h.containers
  cases hcs.symm.trans hcs'
  have hnamed : hasNameIn [.str Sidecar.containerName] c = true :=
    hasNameIn_of_indexOfName? (by simp) List.mem_cons_self hc.index hc.there
  obtain ⟨found, hfound, hsame⟩ := (Option.any_eq_true _ _).mp hnamed
  rw [List.any_cons, List.any_nil, Bool.or_false, looseEq_str_iff] at hsame
  have hmem : c ∈ entriesNamed Sidecar.containerName cs :=
    List.mem_filter.mpr ⟨List.mem_of_getElem? hc.there, by simp [hfound, hsame]⟩
  rwa [hproxy, List.mem_singleton] at hmem

section Requests

variable {σ : Type} {h : Host σ} {s s' : σ} {operation old ns ns' : Doc} {filled edited : Notebook}

/-- **The edits keep the container of the notebook**, and so does the guard. -/
theorem keepsPrimary_of_settle (hfilled : fillNamespace ns raw = .ok filled)
    (hplaced : filled.Placed name ns')
    (hedit : (edit settings operation filled).run h s = (.ok (some edited), s'))
    (hsettle : settle operation old raw edited = .ok mutated) :
    KeepsPrimary name (IsDisplaced name raw mutated) (raw.at? (podSpecPlace "containers"))
      (mutated.at? (podSpecPlace "containers")) := by
  obtain ⟨start, hprepare, htouched⟩ := edit_podEdits hplaced hedit
  have hoauth : filled.oauthEnabled = raw.oauthEnabled := by
    rw [oauthEnabled, annotationValue, annotations_fillNamespace hfilled, oauthEnabled,
      annotationValue]
  rw [hoauth] at htouched
  obtain ⟨m, hm, -⟩ := placed_prepare hplaced hprepare
  have hmeta := (sameBut_fillNamespace hfilled).trans
    (sameBut_prepare (sameBut_fillNamespace hfilled).isObj hprepare)
  rw [← at?_podSpecPlace_of_sameBut hmeta]
  rcases settle_cases hmeta hm htouched hsettle with hmark | ⟨reason, held, hheld, hmark⟩
  · obtain ⟨hsame, hnote⟩ := mark_allow (htouched.sameBut hmeta.isObj).isObj hmark
    rw [at?_podSpecPlace_of_sameBut hsame]
    have hkeeps := htouched.member (KeepsPrimary.refl _ _) fun _ _ => PodEdits.keepsPrimary
    exact hkeeps.mono fun hproxy => ⟨hproxy.1, hproxy.2, hnote⟩
  · -- The template is as it was submitted.
    rw [at?_podSpecPlace_of_sameBut (sameBut_annotate hmark)]
    refine hheld.member (KeepsPrimary.refl _ _) ?_
    rintro ps _ rfl
    exact .refl _ _ _

theorem signsIn_of_displaced (hfilled : fillNamespace ns raw = .ok filled)
    (hplaced : filled.Placed name ns') (hname : raw.name = .ok name)
    (hedit : (edit settings operation filled).run h s = (.ok (some edited), s'))
    (hsettle : settle operation old raw edited = .ok mutated)
    (hdisplaced : IsDisplaced name raw mutated) :
    ∃ proxy, Sidecar.container raw settings.proxyImage = .ok proxy ∧
      SignsIn name proxy mutated := by
  obtain ⟨nb, hnb, hedits, hadd⟩ := asksAlike_of_edit hplaced hedit
  have hbefore := (AsksAlike.of_fillNamespace hplaced hname hfilled).trans hedits
  have hasked := hbefore.oauthEnabled.trans hdisplaced.2.1
  obtain ⟨proxy, hproxy, hsigns⟩ := signsIn_of_addSidecar (name_of_placed hnb) hasked hadd
  have hsidecar := sameBut_addSidecar hnb.isObj hadd
  obtain ⟨v, hvalue, -⟩ := bind_eq_ok_iff.mp hasked
  have hmarked := sameButAnnotation_of_settle ((annotationValue_of_sameBut hsidecar _).trans hvalue)
    hsidecar.isObj hsettle hdisplaced.2.2
  exact ⟨proxy, (hbefore.container hname _).symm.trans hproxy, hsigns.of_sameBut hmarked.sameBut⟩

theorem primary_of_admitted {request : Doc} {answer : Answer}
    (hobject : request.read "object" = .ok raw) (hname : raw.name = .ok name)
    (hcs : raw.at? (podSpecPlace "containers") = some (.arr cs)) (hdiffer : NamesDiffer cs)
    (hprimary : IsPrimary name cs i c)
    (hrun : (handle settings request).run h s = (.ok answer, s'))
    (hanswer : answer.verdict = .admitted mutated) :
    ∃ cs' c', mutated.at? (podSpecPlace "containers") = some (.arr cs') ∧
      IsPrimary name cs' i c' ∧ names cs <+: names cs' ∧
      (¬ IsDisplaced name raw mutated → ChangedWithin containerPlaces c c') ∧
      (IsDisplaced name raw mutated → Sidecar.container raw settings.proxyImage = .ok c') := by
  have hverdict := run_verdict hobject hrun
  rw [hanswer] at hverdict
  obtain ⟨operation, old, ns, filled, edited, -, hnamed, -, -, -, hfilled, hedit, hsettle⟩ :=
    verdict_admitted_iff.mp hverdict
  obtain ⟨name', ns', hplaced, hname', -⟩ := placed_of_fillNamespace hnamed hfilled
  cases hname.symm.trans hname'
  obtain ⟨cs', c', hcs', -, hprimary', hprefix, hedited⟩ :=
    keepsPrimary_of_settle hfilled hplaced hedit hsettle cs i c hcs hdiffer hprimary
  refine ⟨cs', c', hcs', hprimary', hprefix, hedited, fun hdisplaced => ?_⟩
  obtain ⟨proxy, hproxy, hsigns⟩ :=
    signsIn_of_displaced hfilled hplaced hname hedit hsettle hdisplaced
  obtain ⟨rfl, -, -⟩ := hdisplaced
  rwa [hsigns.eq_proxy hcs' hprimary']

/-- **The container of the notebook stays.** The containers of a submitted notebook have names of
their own, and one is named like the notebook. In every answer that lets it in the containers come
first, under their names and in their order, and the one of the notebook has other members at
`image`, `env` and `volumeMounts` only. There is one case apart: a notebook with the name of the
sign-in proxy that asks for sign-in has the proxy in the place of its container. -/
theorem handle_keeps_primary {request : Doc} {answer : Answer}
    (hobject : request.read "object" = .ok raw) (hname : raw.name = .ok name)
    (hcs : raw.at? (podSpecPlace "containers") = some (.arr cs)) (hdiffer : NamesDiffer cs)
    (hprimary : IsPrimary name cs i c)
    (hrun : (handle settings request).run h s = (.ok answer, s'))
    (hallowed : answer.response.allowed = true) :
    ∃ mutated cs' c', answer.verdict = .admitted mutated ∧
      answer.patch = Patch.between raw mutated ∧
      answer.response = .admitted answer.uid answer.patch ∧
      mutated.at? (podSpecPlace "containers") = some (.arr cs') ∧ IsPrimary name cs' i c' ∧
      names cs <+: names cs' ∧
      (¬ IsDisplaced name raw mutated → ChangedWithin containerPlaces c c') ∧
      (IsDisplaced name raw mutated → Sidecar.container raw settings.proxyImage = .ok c') := by
  obtain ⟨mutated, hanswer⟩ := Answer.allowed_iff.mp hallowed
  obtain ⟨cs', c', hkept⟩ := primary_of_admitted hobject hname hcs hdiffer hprimary hrun hanswer
  obtain ⟨-, -, -, -, -, -, hread, -⟩ := handle_admitted hrun hanswer
  obtain rfl : answer.submitted = raw := Except.ok.inj (hread.symm.trans hobject)
  exact ⟨mutated, cs', c', hanswer, Answer.patch_of_admitted hanswer,
    Answer.response_of_admitted hanswer, hkept⟩

end Requests

/-- A notebook that asks for sign-in. Its container, named like it, comes behind another one. -/
def guestNotebook (name : String) : Notebook :=
  .obj [
    ("metadata", .obj [
      ("name", .str name),
      ("namespace", "ns"),
      ("annotations", .obj [
        (AnnotationKey.injectOAuth, "true"),
        (AnnotationKey.imageSelection, "lab:2")])]),
    ("spec", .obj [("template", .obj [("spec", .obj [
      ("containers", .arr [
        databaseContainer,
        .obj [("name", .str name), ("image", "lab-1")]])])])])]

theorem namesDiffer_guest {name : String} (h : name ≠ "database") :
    NamesDiffer [databaseContainer, .obj [("name", .str name), ("image", "lab-1")]] := by
  refine List.pairwise_pair.mpr ?_
  rintro _ _ ⟨⟩ ⟨⟩
  exact Bool.eq_false_iff.mpr fun heq => h (Doc.str.inj (str_looseEq_iff.mp heq))

/-- A member of the second container of the notebook that was let in. -/
def memberOfSecond? (k : String) (answer : Answer) : Option Doc := do
  let mutated ← admitted? answer
  let containers ← mutated.at? (podSpecPlace "containers")
  containers.at? [.item 1, .member k]

theorem memberOfSecond?_eq {k : String} {answer : Answer}
    (hanswer : answer.verdict = .admitted mutated)
    (hcs : mutated.at? (podSpecPlace "containers") = some (.arr cs)) (hc : IsPrimary name cs 1 c) :
    memberOfSecond? k answer = c.at? [.member k] := by
  rw [memberOfSecond?, admitted?.eq_def, hanswer, Option.bind_eq_bind, Option.bind_some, hcs,
    Option.bind_some, Doc.at?, hc.there, Option.bind_some]

/-- The container of the notebook gets the image that was picked. -/
theorem handle_guest_keeps_primary : ∃ answer s mutated cs' c',
    (handle {} (creationOf (guestNotebook "wb"))).run Memory.host imageCluster = (.ok answer, s) ∧
    answer.verdict = .admitted mutated ∧
    mutated.at? (podSpecPlace "containers") = some (.arr cs') ∧ IsPrimary "wb" cs' 1 c' ∧
    ChangedWithin containerPlaces (.obj [("name", "wb"), ("image", "lab-1")]) c' ∧
    c'.at? [.member "image"] = some "lab-2" := by
  have hlet : ((handle {} (creationOf (guestNotebook "wb"))).run Memory.host imageCluster).1.map
      (fun answer => (answer.response.allowed, memberOfSecond? "image" answer)) =
        .ok (true, some "lab-2") := by decide +kernel
  rcases hrun : (handle {} (creationOf (guestNotebook "wb"))).run Memory.host imageCluster
    with ⟨t | answer, s⟩
  · rw [hrun] at hlet
    cases hlet
  rw [hrun] at hlet
  obtain ⟨hallowed, himage⟩ := Prod.mk.inj (Except.ok.inj hlet)
  have hobject : (creationOf (guestNotebook "wb")).read "object" = .ok (guestNotebook "wb") := rfl
  obtain ⟨mutated, cs', c', hanswer, -, -, hcs', hprimary, -, hkept, -⟩ :=
    handle_keeps_primary hobject rfl rfl (namesDiffer_guest (by decide)) ⟨rfl, rfl⟩ hrun hallowed
  have hother : ¬ IsDisplaced "wb" (guestNotebook "wb") mutated := fun h => absurd h.1 (by decide)
  exact ⟨answer, s, mutated, cs', c', rfl, hanswer, hcs', hprimary, hkept hother,
    (memberOfSecond?_eq hanswer hcs' hprimary).symm.trans himage⟩

/-- **A notebook with the name of the sign-in proxy loses its container**: it is let in with the
proxy in the place of what its user submitted. -/
theorem handle_displaces_primary : ∃ answer s mutated cs c cs' c',
    (handle {} (creationOf (guestNotebook "oauth-proxy"))).run Memory.host imageCluster =
      (.ok answer, s) ∧
    (guestNotebook "oauth-proxy").at? (podSpecPlace "containers") = some (.arr cs) ∧
    NamesDiffer cs ∧ IsPrimary "oauth-proxy" cs 1 c ∧
    answer.response.allowed = true ∧ answer.verdict = .admitted mutated ∧
    mutated.at? (podSpecPlace "containers") = some (.arr cs') ∧ IsPrimary "oauth-proxy" cs' 1 c' ∧
    ¬ ChangedWithin containerPlaces c c' := by
  have hlet : ((handle {} (creationOf (guestNotebook "oauth-proxy"))).run
      Memory.host imageCluster).1.map
        (fun answer => (answer.response.allowed, (memberOfSecond? "args" answer).isSome)) =
          .ok (true, true) := by decide +kernel
  rcases hrun : (handle {} (creationOf (guestNotebook "oauth-proxy"))).run Memory.host imageCluster
    with ⟨t | answer, s⟩
  · rw [hrun] at hlet
    cases hlet
  rw [hrun] at hlet
  obtain ⟨hallowed, hargs⟩ := Prod.mk.inj (Except.ok.inj hlet)
  obtain ⟨mutated, hanswer⟩ := Answer.allowed_iff.mp hallowed
  have hobject : (creationOf (guestNotebook "oauth-proxy")).read "object" =
      .ok (guestNotebook "oauth-proxy") := rfl
  obtain ⟨cs', c', hcs', hprimary, -⟩ := primary_of_admitted hobject rfl rfl
    (namesDiffer_guest (by decide)) ⟨rfl, rfl⟩ hrun hanswer
  rw [memberOfSecond?_eq hanswer hcs' hprimary] at hargs
  refine ⟨answer, s, mutated, _, _, cs', c', rfl, rfl, namesDiffer_guest (by decide), ⟨rfl, rfl⟩,
    hallowed, hanswer, hcs', hprimary, fun hchanged => ?_⟩
  -- The container that was submitted has no arguments, the proxy has.
  rw [hchanged.outside [.member "args"] (by decide)] at hargs
  exact absurd hargs (by decide)

end Admission

end Workbench
