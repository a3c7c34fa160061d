import Workbench.Proofs.Admission.Frame
import Workbench.Proofs.Admission.RestartGuard
import Workbench.Reconcile.Steps

/-!
# The sign-in proxy cannot be kept away

A user may submit any containers and any volumes, some of them under the names of the operator's own.
Once the edits of a notebook go through, its pod template has the sign-in proxy and its two volumes
once each, and nothing else of their names. The names by which they refer to other objects are those
under which the reconciler makes these objects.

* `Doc.entriesNamed`, `Doc.HaveOwnNames`: the entries of a name, and lists in which every entry has a
  name of its own; `Entries.Gains.entriesNamed` says what a list has of a name after it was put in;
* `Reconcile.Serves`: the objects that a sign-in proxy refers to; `Reconcile.oauth_serves` says that
  they are the ones that are made;
* `Admission.SignsIn`: a pod template with the sign-in proxy; `Admission.signsIn_of_inject` says that
  it is put in;
* `Admission.AsksAlike`: notebooks that have what the proxy is made from in common;
  `Admission.asksAlike_of_edit` says so of the edits before;
* **`Admission.handle_signs_in`**: the proxy stands in front of every notebook that asks for it.
-/

namespace Workbench

open Doc Notebook Entries

/-! ## Entries of a name -/

namespace Doc

variable {e : Doc} {es : List Doc} {s : String}

/-- The entries of a name. -/
def entriesNamed (s : String) (es : List Doc) : List Doc :=
  es.filter fun e => nameOf? e = some (.str s)

/-- Every entry has a name, and no two have equal names. -/
structure HaveOwnNames (es : List Doc) : Prop where
  named : ∀ e ∈ es, (nameOf? e).isSome
  differ : NamesDiffer es

/-- An entry is the only one of its name when no name repeats. -/
theorem NamesDiffer.entriesNamed (h : NamesDiffer es) (he : e ∈ es)
    (hname : nameOf? e = some (.str s)) : entriesNamed s es = [e] := by
  induction es with
  | nil => cases he
  | cons d es ih =>
    obtain ⟨hd, hes⟩ := List.pairwise_cons.mp h
    have hother : ∀ d', nameOf? d = some (.str s) → d' ∈ es → nameOf? d' ≠ some (.str s) := by
      intro d' hds hd' hname'
      have hne := hd _ (List.mem_map_of_mem hd') _ _ hds hname'
      rw [looseEq_self] at hne
      cases hne
    rcases List.mem_cons.mp he with rfl | he
    · have hnone : es.filter (fun d' => nameOf? d' = some (.str s)) = [] :=
        List.filter_eq_nil_iff.mpr fun d' hd' => by simpa using hother d' hname hd'
      rw [Doc.entriesNamed, List.filter_cons, if_pos (by simpa using hname), hnone]
    · have hne : nameOf? d ≠ some (.str s) := fun hds => hother e hds he hname
      rw [Doc.entriesNamed, List.filter_cons, if_neg (by simpa using hne)]
      exact ih hes he

end Doc

namespace Entries

variable {E : Entries}

theorem IsKeyed.haveOwnNames (h : E.IsKeyed) : HaveOwnNames E.toList where
  named := by
    intro e he
    obtain ⟨p, hp, rfl⟩ := List.mem_map.mp he
    obtain ⟨a, ha, -⟩ := exists_nameOf? (h.keyOf_eq p hp)
    rw [ha, Option.isSome_some]
  differ := h.namesDiffer

/-- **What was put into a list is there once**, whatever was in it before. -/
theorem Gains.entriesNamed {d e : Doc} {more : List Doc} {names : List String} {s : String}
    (h : Gains d more E) (hmore : AreNamed more names) (hnames : names.Nodup) (he : e ∈ more)
    (hs : e.require "name" = .ok (.str s)) : Doc.entriesNamed s E.toList = [e] :=
  h.isKeyed.namesDiffer.entriesNamed (h.mem hmore hnames e he) (nameOf?_eq_some_iff.mpr hs)

end Entries

/-! ## The objects of the sign-in proxy -/

namespace Reconcile

variable {name proxy : Doc} {image : String} {nb kept : Notebook} {o : Owner}

/-- The object has a kind and a name. -/
def IsCalled (kind : String) (name d : Doc) : Prop :=
  d.at? [.member "kind"] = some (.str kind) ∧
    d.at? [.member "metadata", .member "name"] = some name

/-- The objects that a sign-in proxy and its volumes refer to. -/
structure Serves (name proxy account service secret route : Doc) : Prop where
  accountCalled : IsCalled "ServiceAccount" name account
  /-- The proxy signs in as the account. -/
  argument : proxy.at? [.member "args", .item 3] =
    some (.str ("--openshift-service-account=" ++ name.display))
  secretCalled : IsCalled "Secret" (.str (name.display ++ "-oauth-config")) secret
  serviceCalled : IsCalled "Service" (.str (name.display ++ "-tls")) service
  /-- The platform keeps the certificate of the service in the other secret. -/
  certificate : service.at? [.member "metadata", .member "annotations",
    .member "service.beta.openshift.io/serving-cert-secret-name"] =
      some (.str (name.display ++ "-tls"))
  /-- The service leads to the port of the proxy. -/
  port : ∃ port, proxy.at? [.member "ports", .item 0, .member "name"] = some port ∧
    service.at? [.member "spec", .member "ports", .item 0, .member "targetPort"] = some port
  routeCalled : IsCalled "Route" name route
  /-- The route leads to the service, and to the port that the service names. -/
  way : route.at? [.member "spec", .member "to", .member "name"] =
    service.at? [.member "metadata", .member "name"]
  wayPort : route.at? [.member "spec", .member "port", .member "targetPort"] =
    service.at? [.member "spec", .member "ports", .item 0, .member "name"]

/-- **The objects that are made for a notebook are the ones its sign-in proxy refers to.** -/
theorem oauth_serves (hname : nb.name = .ok name) (hproxy : Sidecar.container nb image = .ok proxy)
    (howner : kept.owner = .ok o) (hkept : kept.name = .ok name) (cookieKey : Owner → List UInt8) :
    ∃ account service secret route,
      oauth kept cookieKey = createMissing [account, service, secret, route] ∧
      Serves name proxy account service secret route := by
  obtain rfl : o.name = name := by
    obtain ⟨_, hname', h⟩ := bind_eq_ok_iff.mp howner
    obtain ⟨_, -, h⟩ := bind_eq_ok_iff.mp h
    obtain ⟨_, -, h⟩ := bind_eq_ok_iff.mp h
    cases h
    exact Except.ok.inj (hname'.symm.trans hkept)
  obtain ⟨url, rfl⟩ : ∃ url, proxy = Sidecar.containerWith image
      (Sidecar.arguments o.name ++ Sidecar.logoutArguments url) := by
    obtain ⟨_, hname', h⟩ := bind_eq_ok_iff.mp hproxy
    obtain ⟨url, -, h⟩ := bind_eq_ok_iff.mp h
    cases hname.symm.trans hname'
    cases h
    exact ⟨url, rfl⟩
  refine ⟨Resource.serviceAccount o, Resource.service o, Resource.secret o (cookieKey o),
    Resource.oauthRoute o, ?_, ⟨rfl, rfl⟩, rfl, ⟨rfl, rfl⟩, ⟨rfl, rfl⟩, rfl, ⟨_, rfl, rfl⟩,
    ⟨rfl, rfl⟩, rfl, rfl⟩
  rw [oauth, howner]
  rfl

end Reconcile

/-! ## The sign-in proxy of a pod template -/

namespace Admission

variable {settings : Settings} {operation old name ns proxy : Doc} {ps : List Member} {image : String}
  {nb nb' nb'' filled edited submitted mutated : Notebook} {key : String} {σ : Type} {h : Host σ}
  {s s' : σ}

/-- The pod template of the notebook has the sign-in proxy and its two volumes, once each, and the
account of the notebook. -/
structure SignsIn (name proxy : Doc) (nb : Notebook) : Prop where
  containers : ∃ cs, nb.at? (podSpecPlace "containers") = some (.arr cs) ∧ HaveOwnNames cs ∧
    entriesNamed Sidecar.containerName cs = [proxy]
  volumes : ∃ vs, nb.at? (podSpecPlace "volumes") = some (.arr vs) ∧ HaveOwnNames vs ∧
    entriesNamed Sidecar.configVolume vs =
      [Sidecar.volumeOfSecret Sidecar.configVolume (name.display ++ "-oauth-config")] ∧
    entriesNamed Sidecar.certificateVolume vs =
      [Sidecar.volumeOfSecret Sidecar.certificateVolume (name.display ++ "-tls")]
  account : nb.at? (podSpecPlace "serviceAccountName") = some name

/-- **Whatever containers and volumes there were**, the sign-in proxy is put in once. -/
theorem signsIn_of_inject (hname : nb.name = .ok name) (hinject : Sidecar.inject image nb = .ok nb') :
    ∃ proxy, Sidecar.container nb image = .ok proxy ∧ SignsIn name proxy nb' := by
  obtain ⟨nb₀, ps, hopens⟩ := opens_of_inject hinject
  obtain ⟨proxy, containers, volumes, hproxy, hcontainers, hvolumes, hreplaced⟩ :=
    (inject_eq_ok_iff hname hopens).mp hinject
  have hat : ∀ k, nb'.at? (podSpecPlace k) =
      (Plan.withSidecar name containers volumes ps).lookup k := hreplaced.hasPodSpec.opens.at?
  have hvolumesNamed := Plan.areNamed_volumes name
  refine ⟨proxy, ?_, ⟨_, ?_, hcontainers.isKeyed.haveOwnNames, ?_⟩,
    ⟨_, ?_, hvolumes.isKeyed.haveOwnNames, ?_, ?_⟩, ?_⟩
  · rw [← hproxy, Plan.container_congr ((name_of_sameBut hopens.sameBut).trans hname) hname
      (annotationValue_of_sameBut hopens.sameBut _).symm]
  · rw [hat, Plan.lookup_withSidecar_containers]
  · exact hcontainers.entriesNamed (.cons (require_container hproxy) .nil) (List.nodup_singleton _)
      List.mem_cons_self (require_container hproxy)
  · rw [hat, Plan.lookup_withSidecar_volumes]
  · exact hvolumes.entriesNamed hvolumesNamed (by decide) List.mem_cons_self rfl
  · exact hvolumes.entriesNamed hvolumesNamed (by decide) (List.mem_cons_of_mem _ List.mem_cons_self) rfl
  · rw [hat, Plan.withSidecar, lookup_setMember_self]

theorem signsIn_of_addSidecar (hname : nb.name = .ok name) (hoauth : nb.oauthEnabled = .ok true)
    (hadd : addSidecar settings nb = .ok (some nb')) :
    ∃ proxy, Sidecar.container nb settings.proxyImage = .ok proxy ∧ SignsIn name proxy nb' := by
  rw [addSidecar, hoauth, ok_bind] at hadd
  obtain ⟨asksForMesh, -, hadd⟩ := bind_eq_ok_iff.mp hadd
  split at hadd
  · cases hadd
  obtain ⟨_, hinject, hend⟩ := bind_eq_ok_iff.mp hadd
  cases hend
  exact signsIn_of_inject hname hinject

theorem at?_podSpecPlace_of_sameBut (hsame : SameBut "metadata" nb nb') (k : String) :
    nb'.at? (podSpecPlace k) = nb.at? (podSpecPlace k) := by
  obtain ⟨ms, ns, rfl, rfl, hns⟩ := hsame
  rw [podSpecPlace, Doc.at?, Doc.at?, hns _ (by decide)]

theorem SignsIn.of_sameBut (hsigns : SignsIn name proxy nb) (hsame : SameBut "metadata" nb nb') :
    SignsIn name proxy nb' := by
  have hat := at?_podSpecPlace_of_sameBut hsame
  obtain ⟨hcontainers, hvolumes, haccount⟩ := hsigns
  exact ⟨by rwa [hat], by rwa [hat], by rwa [hat]⟩

/-! ## Notebooks that ask for the same -/

/-- Two notebooks have one name, and the same annotations for the edits. -/
structure AsksAlike (nb nb' : Notebook) : Prop where
  name : nb'.name = nb.name
  value : ∀ key ∈ Plan.annotationKeys, nb'.annotationValue key = nb.annotationValue key

namespace AsksAlike

theorem trans (h : AsksAlike nb nb') (h' : AsksAlike nb' nb'') : AsksAlike nb nb'' :=
  ⟨h'.name.trans h.name, fun key hkey => (h'.value key hkey).trans (h.value key hkey)⟩

theorem of_sameBut (h : SameBut "spec" nb nb') : AsksAlike nb nb' :=
  ⟨name_of_sameBut h, fun key _ => annotationValue_of_sameBut h key⟩

theorem of_fillNamespace {ns' : Doc} (hplaced : nb'.Placed name ns') (hname : nb.name = .ok name)
    (h : fillNamespace ns nb = .ok nb') : AsksAlike nb nb' where
  name := (name_of_placed hplaced).trans hname.symm
  value key _ := by rw [annotationValue, annotations_fillNamespace h, annotationValue]

theorem of_prepare (hplaced : nb.Placed name ns) (h : prepare operation nb = .ok nb') :
    AsksAlike nb nb' where
  name := (name_of_placed (placed_prepare hplaced h)).trans (name_of_placed hplaced).symm
  value key hkey := annotationValue_prepare h fun heq => absurd (heq ▸ hkey) (by decide)

theorem of_note (hplaced : nb.Placed name ns) (hkey : key ∉ Plan.annotationKeys)
    (h : SameButAnnotation key nb nb') : AsksAlike nb nb' where
  name := (name_of_placed (h.placed hplaced)).trans (name_of_placed hplaced).symm
  value _ hk := h.annotationValue fun heq => hkey (heq ▸ hk)

theorem oauthEnabled (h : AsksAlike nb nb') : nb'.oauthEnabled = nb.oauthEnabled := by
  rw [Notebook.oauthEnabled, Notebook.oauthEnabled, h.value _ (by decide)]

theorem container (h : AsksAlike nb nb') (hname : nb.name = .ok name) (image : String) :
    Sidecar.container nb' image = Sidecar.container nb image :=
  Plan.container_congr hname (h.name.trans hname) (h.value _ (by decide)) image

end AsksAlike

/-- The edits before the sign-in proxy is put in change nothing that it is made from. -/
theorem asksAlike_of_edit (hplaced : nb.Placed name ns)
    (hrun : (edit settings operation nb).run h s = (.ok (some edited), s')) :
    ∃ nb', nb'.Placed name ns ∧ AsksAlike nb nb' ∧
      addSidecar settings nb' = .ok (some edited) := by
  rw [edit_eq_editPod] at hrun
  obtain ⟨start, _, hlift, hrun⟩ := Action.run_seq_eq_ok_iff.mp hrun
  obtain ⟨hprepare, rfl⟩ := Action.run_liftM_fault_eq_ok_iff.mp hlift
  obtain ⟨nb', _, hpod, hlift'⟩ := Action.run_seq_eq_ok_iff.mp hrun
  obtain ⟨hadd, -⟩ := Action.run_liftM_fault_eq_ok_iff.mp hlift'
  have hstart := placed_prepare hplaced hprepare
  have hsame : SameBut "spec" start nb' := (editPod_yields hstart.isObj).of_run hpod
  exact ⟨nb', hstart.of_sameBut hsame,
    (AsksAlike.of_prepare hplaced hprepare).trans (.of_sameBut hsame), hadd⟩

theorem sameButAnnotation_of_settle {v : Doc} (hvalue : edited.annotationValue key = .ok v)
    (hobj : edited.isObj) (hsettle : settle operation old submitted edited = .ok mutated)
    (hnote : mutated.hasAnnotation AnnotationKey.updatePending = .ok false) :
    SameButAnnotation AnnotationKey.updatePending edited mutated := by
  obtain ⟨decision, -, hsettle⟩ := bind_eq_ok_iff.mp hsettle
  obtain ⟨settled, happly, hmark⟩ := bind_eq_ok_iff.mp hsettle
  cases decision with
  | deferred reason =>
    rw [hasAnnotation_annotate hmark] at hnote
    cases hnote
  | allow =>
    cases happly
    exact sameButAnnotation_mark hvalue hobj hmark

/-! ## Requests -/

/-- **The sign-in proxy stands in front of the notebook.** When a notebook that asks for sign-in is let
in and its edits do not wait, its pod template has the sign-in proxy that is made for it, and the two
volumes, once each, and its containers and its volumes have names of their own. They refer to the
objects that the reconciler makes for the notebook. -/
theorem handle_signs_in {request : Doc} {answer : Answer}
    (hobject : request.read "object" = .ok submitted)
    (hrun : (handle settings request).run h s = (.ok answer, s'))
    (hanswer : answer.verdict = .admitted mutated)
    (hoauth : submitted.oauthEnabled = .ok true)
    (hnote : mutated.hasAnnotation AnnotationKey.updatePending = .ok false) :
    ∃ name proxy, answer.patch = Patch.between submitted mutated ∧
      answer.response = .admitted answer.uid answer.patch ∧
      submitted.name = .ok name ∧ mutated.name = .ok name ∧
      Sidecar.container submitted settings.proxyImage = .ok proxy ∧
      Sidecar.container mutated settings.proxyImage = .ok proxy ∧
      SignsIn name proxy mutated ∧
      ∀ (kept : Notebook) (o : Owner) (cookieKey : Owner → List UInt8),
        kept.owner = .ok o → kept.name = .ok name → ∃ account service secret route,
          Reconcile.oauth kept cookieKey =
            Reconcile.createMissing [account, service, secret, route] ∧
          Reconcile.Serves name proxy account service secret route := by
  obtain ⟨-, -, -, -, -, -, hread, -⟩ := handle_admitted hrun hanswer
  obtain rfl : answer.submitted = submitted := Except.ok.inj (hread.symm.trans hobject)
  have hverdict := run_verdict hobject hrun
  rw [hanswer] at hverdict
  obtain ⟨operation, old, ns, filled, edited, -, hnamed, -, -, -, hfilled, hedit, hsettle⟩ :=
    verdict_admitted_iff.mp hverdict
  obtain ⟨name, ns', hplaced, hname, -, -⟩ := placed_of_fillNamespace hnamed hfilled
  obtain ⟨nb, hnb, hedits, hadd⟩ := asksAlike_of_edit hplaced hedit
  have hbefore := (AsksAlike.of_fillNamespace hplaced hname hfilled).trans hedits
  have hasked : nb.oauthEnabled = .ok true := hbefore.oauthEnabled.trans hoauth
  obtain ⟨proxy, hproxy, hsigns⟩ := signsIn_of_addSidecar (name_of_placed hnb) hasked hadd
  have hsidecar : SameBut "spec" nb edited := sameBut_addSidecar hnb.isObj hadd
  obtain ⟨v, hvalue, -⟩ := bind_eq_ok_iff.mp hasked
  have hmarked := sameButAnnotation_of_settle
    ((annotationValue_of_sameBut hsidecar _).trans hvalue) hsidecar.isObj hsettle hnote
  have hafter : AsksAlike nb mutated :=
    (AsksAlike.of_sameBut hsidecar).trans (.of_note (hnb.of_sameBut hsidecar) (by decide) hmarked)
  refine ⟨name, proxy, Answer.patch_of_admitted hanswer, Answer.response_of_admitted hanswer, hname,
    hafter.name.trans (name_of_placed hnb),
    (hbefore.container hname _).symm.trans hproxy,
    (hafter.container (name_of_placed hnb) _).trans hproxy, hsigns.of_sameBut hmarked.sameBut, ?_⟩
  exact fun kept o cookieKey howner hkept =>
    Reconcile.oauth_serves (name_of_placed hnb) hproxy howner hkept cookieKey

/-! ### A notebook with the names of the operator in it -/

/-- A notebook that asks for sign-in. Its user has put in a container and volumes under the names of
the operator, and some twice. -/
def crowdedNotebook : Notebook :=
  .obj [
    ("metadata", .obj [
      ("name", "wb"),
      ("namespace", "ns"),
      ("uid", "u1"),
      ("annotations", .obj [(AnnotationKey.injectOAuth, "true")])]),
    ("spec", .obj [("template", .obj [("spec", .obj [
      ("containers", .arr [
        .obj [("name", Sidecar.containerName), ("image", "open-1")],
        .obj [("name", "wb"), ("image", "lab-1")],
        .obj [("name", Sidecar.containerName), ("image", "open-2")],
        .obj [("name", "wb"), ("image", "lab-2")]]),
      ("volumes", .arr [
        .obj [("name", Sidecar.certificateVolume), ("emptyDir", .obj [])],
        Sidecar.volumeOfSecret Sidecar.configVolume "other-oauth-config",
        .obj [("name", Sidecar.configVolume), ("emptyDir", .obj [])]]),
      ("serviceAccountName", "default")])])])]

/-- The sign-in proxy stands in front of it. -/
theorem handle_crowded_signs_in : ∃ answer s mutated proxy account service secret route,
    (handle {} (creationOf crowdedNotebook)).run Memory.host {} = (.ok answer, s) ∧
    answer.verdict = .admitted mutated ∧
    crowdedNotebook.oauthEnabled = .ok true ∧
    mutated.hasAnnotation AnnotationKey.updatePending = .ok false ∧
    Sidecar.container crowdedNotebook ({} : Settings).proxyImage = .ok proxy ∧
    SignsIn (.str "wb") proxy mutated ∧
    Reconcile.oauth crowdedNotebook (fun _ => []) =
      Reconcile.createMissing [account, service, secret, route] ∧
    Reconcile.Serves (.str "wb") proxy account service secret route := by
  have hlet : ((handle {} (creationOf crowdedNotebook)).run Memory.host {}).1.map (fun answer =>
      (admitted? answer).map fun mutated => mutated.hasAnnotation AnnotationKey.updatePending) =
        .ok (some (.ok false)) := by decide +kernel
  rcases hrun : (handle {} (creationOf crowdedNotebook)).run Memory.host {} with ⟨t | answer, s⟩
  · rw [hrun] at hlet
    cases hlet
  rw [hrun] at hlet
  obtain ⟨uid, submitted, mutated | _ | _⟩ := answer
  · have hnote : mutated.hasAnnotation AnnotationKey.updatePending = .ok false :=
      Option.some.inj (Except.ok.inj hlet)
    have hoauth : crowdedNotebook.oauthEnabled = .ok true := by decide
    obtain ⟨name, proxy, -, -, hname, -, hproxy, -, hsigns, hserves⟩ :=
      handle_signs_in rfl hrun rfl hoauth hnote
    cases hname
    obtain ⟨account, service, secret, route, hoauthObjects, hserved⟩ :=
      hserves crowdedNotebook ⟨"wb", "ns", "u1"⟩ (fun _ => []) rfl rfl
    exact ⟨_, s, mutated, proxy, account, service, secret, route, rfl, rfl, hoauth, hnote, hproxy,
      hsigns, hoauthObjects, hserved⟩
  all_goals cases hlet

end Admission

end Workbench
