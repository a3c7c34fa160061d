import Workbench.Proofs.Cluster.Version
import Workbench.Proofs.Doc.Canonical
import Workbench.Proofs.Resource
import Workbench.Reconcile.Drift
import Workbench.Resource

/-!
# Aspects that are put right

* `Aspect.Settles`: what an aspect has to do for the object that is wanted at an address;
* `Aspect.policy_settles`, `Aspect.route_settles`, `Aspect.binding_settles`: the three aspects do it;
* `Aspect.Settles.agrees_unversioned`: whether an object agrees does not depend on its version.
-/

namespace Workbench

open Doc

theorem Doc.address_of_addressOf {d : Doc} {a : Address} (h : Memory.addressOf d = .ok a) :
    d.address = .ok a := by
  obtain ⟨ms, md, rfl, hmd, hkind, hns, hname⟩ := Memory.addressOf_eq_ok_iff.mp h
  simp [Doc.address, hmd, hkind, hns, hname]

namespace Aspect

variable {aspect : Aspect} {a : Address} {d e desired : Doc} {ms md : List Member}

/-- An aspect sees the labels and the members other than the metadata. -/
def Looks (aspect : Aspect) : Prop :=
  ∀ d e, SameBut "metadata" d e → labels e = labels d → aspect.project e = aspect.project d

/-- What an aspect has to do for the object that is wanted at an address. -/
structure Settles (aspect : Aspect) (a : Address) (desired : Doc) : Prop where
  plain : a.IsPlain
  belongs : Memory.addressOf desired = .ok a
  looks : aspect.Looks
  keeps : KeepsIdentity fun found => aspect.overwrite found desired
  project_eq {found e : Doc} : found.HasMetadata → aspect.overwrite found desired = .ok e →
    aspect.project e = aspect.project desired
  project_ok : ∃ p, aspect.project desired = .ok p

/-! ## Labels -/

theorem labels_obj (hmd : ms.lookup "metadata" = some (.obj md)) :
    labels (.obj ms) = .ok (((md.lookup "labels").getD .null).orElse .empty) := by
  simp [labels, hmd]

theorem labels_unversioned (hd : d.HasMetadata) : labels d.unversioned = labels d := by
  obtain ⟨ms, md, rfl, hmd⟩ := hd
  rw [unversioned_obj hmd, labels_obj hmd, labels_obj (lookup_setMember_self _ _ _),
    lookup_dropMember, if_neg (by decide)]

theorem labels_asKept (hd : d.HasMetadata) : labels (d.asKept a) = labels d := by
  obtain ⟨ms, md, rfl, hmd⟩ := hd
  have hkept := lookup_setMember_self "metadata" (obj (Memory.stampedMembers a 0 md)) ms
  rw [asKept_obj hmd, labels_unversioned ⟨_, _, rfl, hkept⟩, labels_obj hkept, labels_obj hmd,
    Memory.lookup_stampedMembers (by decide) (by decide)]

theorem labels_putLabels {value : Doc} (h : putLabels value d = .ok e) :
    labels e = .ok (value.orElse .empty) := by
  obtain ⟨ms, w, w', rfl, hw, hput, rfl⟩ := modify_eq_ok_iff.mp h
  obtain ⟨md, rfl, rfl⟩ := put_eq_ok_iff.mp hput
  rw [labels_obj (lookup_setMember_self _ _ _), lookup_setMember_self, Option.getD_some]

theorem sameBut_putLabels {value : Doc} (h : putLabels value d = .ok e) :
    SameBut "metadata" d e := sameBut_modify h

theorem labels_of_sameBut {k : String} (hk : k ≠ "metadata") (h : SameBut k d e) :
    labels e = labels d := by
  unfold labels
  rw [h.read hk.symm]

/-! ## What follows -/

theorem agrees_self (h : ∃ p, aspect.project desired = .ok p)
    (he : aspect.project e = aspect.project desired) : aspect.agrees e desired = .ok true := by
  obtain ⟨p, hp⟩ := h
  simp [agrees, he, hp]

namespace Settles

variable (h : aspect.Settles a desired)

include h

/-- Whether an object agrees does not depend on its version. -/
theorem agrees_unversioned (hd : d.HasMetadata) :
    aspect.agrees d.unversioned desired = aspect.agrees d desired := by
  rw [agrees, agrees, h.looks _ _ hd.sameBut (labels_unversioned hd)]

theorem agrees_overwrite (hd : d.HasMetadata) (he : aspect.overwrite d desired = .ok e) :
    aspect.agrees e desired = .ok true :=
  agrees_self h.project_ok (h.project_eq hd he)

theorem agrees_asKept : aspect.agrees (desired.asKept a) desired = .ok true := by
  have hd := hasMetadata_of_addressOf h.belongs
  exact agrees_self h.project_ok (h.looks _ _ hd.sameBut_asKept (labels_asKept hd))

theorem agrees_stamped {n : Nat} (hd : d.HasMetadata) (hkept : Memory.stamped a n d = .ok e) :
    aspect.agrees e desired = aspect.agrees d desired := by
  obtain ⟨ms, md, -, -, he⟩ := Memory.stamped_eq_ok_iff.mp hkept
  rw [← h.agrees_unversioned ⟨_, _, he, lookup_setMember_self _ _ _⟩, unversioned_stamped hkept,
    agrees, agrees, h.looks _ _ hd.sameBut_asKept (labels_asKept hd)]

end Settles

/-! ## The three aspects -/

section Instances

variable {o : Owner} {ns name : String}

theorem policy_looks : Looks policy := by
  intro d e hde hlabels
  simp only [policy, hlabels, hde.read (k := "spec") (by decide)]

theorem binding_looks : Looks binding := by
  intro d e hde hlabels
  simp only [binding, hlabels, hde.read (k := "subjects") (by decide)]

theorem route_looks : Looks route := by
  intro d e hde hlabels
  simp only [route, hlabels, hde.read (k := "spec") (by decide)]

theorem labels_and_read_of_put {k : String} {value v found : Doc} (hk : k ≠ "metadata")
    (he : (putLabels value found >>= fun d => d.put k v) = .ok e) :
    labels e = .ok (value.orElse .empty) ∧ e.read k = .ok v := by
  obtain ⟨found₁, h₁, h₂⟩ := bind_eq_ok_iff.mp he
  obtain ⟨ms, rfl, rfl⟩ := put_eq_ok_iff.mp h₂
  refine ⟨(labels_of_sameBut hk (sameBut_put h₂)).trans (labels_putLabels h₁), ?_⟩
  rw [read_obj, lookup_setMember_self, Option.getD_some]

/-- Policies are put right. -/
theorem policy_settles (hns : o.ns = .str ns) (ingress : Doc) :
    policy.Settles ⟨"NetworkPolicy", ns, name⟩ (Resource.policy o name ingress) where
  plain := ⟨_, _, _, rfl⟩
  belongs := by rw [← hns]; rfl
  looks := policy_looks
  keeps := (keepsIdentity_describe (by decide)).comp (keepsIdentity_put (by decide) (by decide))
  project_eq {found e} _ he := by
    obtain ⟨hlabels, hspec⟩ := labels_and_read_of_put (k := "spec") (by decide) he
    simp only [policy, hlabels, hspec]
    rfl
  project_ok := ⟨_, rfl⟩

/-- Role bindings are put right. -/
theorem binding_settles (hns : o.ns = .str ns) (hname : o.name = .str name) :
    binding.Settles (ObjectAt.roleBinding ns name) (Resource.roleBinding o) where
  plain := ⟨_, _, _, rfl⟩
  belongs := by
    obtain ⟨_, _, _⟩ := o
    cases hns
    cases hname
    rfl
  looks := binding_looks
  keeps := (keepsIdentity_describe (by decide)).comp (keepsIdentity_put (by decide) (by decide))
  project_eq {found e} _ he := by
    obtain ⟨hlabels, hsubjects⟩ := labels_and_read_of_put (k := "subjects") (by decide) he
    simp only [binding, hlabels, hsubjects]
    rfl
  project_ok := ⟨_, rfl⟩

theorem roleRef_overwrite {found : Doc}
    (h : binding.overwrite found (Resource.roleBinding o) = .ok e) :
    e.read "roleRef" = found.read "roleRef" := by
  obtain ⟨found₁, h₁, h₂⟩ : ∃ found₁, putLabels (Owner.labels o.name) found = .ok found₁ ∧
      found₁.put "subjects" _ = .ok e := bind_eq_ok_iff.mp h
  rw [(sameBut_put h₂).read (by decide), (sameBut_putLabels h₁).read (by decide)]

theorem takeOver_eq_ok {service spec spec' : Doc} {port termination : String}
    (h : routeMembers.foldlM (takeOver (Resource.route o service port termination)) spec =
      .ok spec') :
    ∃ ms ns, spec = .obj ms ∧ spec' = .obj ns ∧
      ns.lookup "to" =
        some (.obj [("kind", "Service"), ("name", service), ("weight", 100)]) ∧
      ns.lookup "port" = some (.obj [("targetPort", port)]) ∧
      ns.lookup "tls" = some (.obj [
        ("termination", termination),
        ("insecureEdgeTerminationPolicy", "Redirect")]) ∧
      ∀ k, k ∉ routeMembers → ns.lookup k = ms.lookup k := by
  simp only [routeMembers, List.foldlM_cons, List.foldlM_nil, bind_pure] at h
  obtain ⟨spec₁, h₁, spec₂, h₂, h₃⟩ : ∃ spec₁,
      spec.put "to" (.obj [("kind", "Service"), ("name", service), ("weight", 100)]) =
        .ok spec₁ ∧ ∃ spec₂, spec₁.put "port" (.obj [("targetPort", port)]) = .ok spec₂ ∧
      spec₂.put "tls" (.obj [
        ("termination", termination),
        ("insecureEdgeTerminationPolicy", "Redirect")]) = .ok spec' := by
    obtain ⟨spec₁, h₁, h⟩ := bind_eq_ok_iff.mp h
    exact ⟨spec₁, h₁, bind_eq_ok_iff.mp h⟩
  obtain ⟨ms, rfl, rfl⟩ := put_eq_ok_iff.mp h₁
  obtain ⟨_, hms, rfl⟩ := put_eq_ok_iff.mp h₂
  cases hms
  obtain ⟨_, hms, rfl⟩ := put_eq_ok_iff.mp h₃
  cases hms
  refine ⟨ms, _, rfl, rfl, ?_, ?_, ?_, fun k hk => ?_⟩
  · rw [lookup_setMember, if_neg (by decide), lookup_setMember, if_neg (by decide),
      lookup_setMember_self]
  · rw [lookup_setMember, if_neg (by decide), lookup_setMember_self]
  · rw [lookup_setMember_self]
  · simp only [routeMembers, List.mem_cons, List.not_mem_nil, or_false, not_or] at hk
    rw [lookup_setMember, if_neg hk.2.2, lookup_setMember, if_neg hk.2.1, lookup_setMember,
      if_neg hk.1]

theorem overwrite_route_eq_ok {service found : Doc} {port termination : String}
    (h : route.overwrite found (Resource.route o service port termination) = .ok e) :
    labels e = .ok (Owner.labels o.name) ∧
      ∃ fs spec, found = .obj fs ∧ e.require "spec" = .ok spec ∧
        routeMembers.foldlM (takeOver (Resource.route o service port termination))
          ((fs.lookup "spec").getD .empty) = .ok spec := by
  obtain ⟨found₁, h₁, h⟩ : ∃ found₁, putLabels (Owner.labels o.name) found = .ok found₁ ∧
      (found₁.ensure "spec" .empty >>= fun d => d.modify "spec" fun spec =>
        routeMembers.foldlM (takeOver (Resource.route o service port termination)) spec) = .ok e :=
    bind_eq_ok_iff.mp h
  obtain ⟨found₂, h₂, h₃⟩ := bind_eq_ok_iff.mp h
  refine ⟨?_, ?_⟩
  · rw [labels_of_sameBut (by decide) (sameBut_modify h₃),
      labels_of_sameBut (by decide) (sameBut_ensure h₂), labels_putLabels h₁]
    rfl
  · obtain ⟨before, spec, hbefore, hfold, hspec⟩ := require_of_modify h₃
    obtain ⟨fs, gs, rfl, rfl, hsame⟩ := sameBut_putLabels h₁
    obtain ⟨_, hgs, rfl⟩ := ensure_eq_ok_iff.mp h₂
    cases hgs
    rw [require_obj, lookup_ensured, if_pos rfl, hsame "spec" (by decide)] at hbefore
    cases hbefore
    exact ⟨fs, spec, rfl, hspec, hfold⟩

/-- What the specification of an object says under a name, null if nothing. -/
def specMember (d : Doc) (k : String) : Except Fault Doc := do
  ((← d.read "spec").orElse .empty).read k

theorem specMember_of_sameBut {k : String} (h : SameBut "metadata" d e) :
    specMember e k = specMember d k := by
  rw [specMember, specMember, h.read (by decide)]

theorem specMember_overwrite {service found : Doc} {port termination k : String}
    (hk : k ∉ routeMembers)
    (h : route.overwrite found (Resource.route o service port termination) = .ok e) :
    specMember e k = specMember found k := by
  obtain ⟨-, fs, spec, rfl, hspec, hfold⟩ := overwrite_route_eq_ok h
  obtain ⟨ms, ns, hms, rfl, -, -, -, hrest⟩ := takeOver_eq_ok hfold
  obtain ⟨es, rfl, hes⟩ := require_eq_ok_iff.mp hspec
  have hfound : ((obj fs).read "spec" >>= fun s => (s.orElse .empty).read k) =
      .ok ((ms.lookup k).getD .null) := by
    cases hfs : fs.lookup "spec" with
    | none =>
      obtain rfl : [] = ms := by simpa [hfs, Doc.empty] using hms
      rw [read_obj, hfs]
      rfl
    | some s =>
      obtain rfl : s = .obj ms := by simpa [hfs] using hms
      simp [hfs]
  rw [specMember, specMember, hfound, read_obj, hes, Option.getD_some, ok_bind, orElse_empty_obj,
    read_obj, hrest k hk]

/-- Routes are put right. -/
theorem route_settles (hns : o.ns = .str ns) (hname : o.name = .str name) (service : Doc)
    (port termination : String) :
    route.Settles (ObjectAt.route ns name) (Resource.route o service port termination) where
  plain := ⟨_, _, _, rfl⟩
  belongs := by
    obtain ⟨_, _, _⟩ := o
    cases hns
    cases hname
    rfl
  looks := route_looks
  keeps := (keepsIdentity_describe (by decide)).comp
    ((keepsIdentity_ensure (by decide) (by decide)).comp
      (keepsIdentity_modify (by decide) (by decide)))
  project_eq {found e} _ he := by
    obtain ⟨hlabels, _, spec, -, hspec, hfold⟩ := overwrite_route_eq_ok he
    obtain ⟨ms, ns, -, rfl, hto, hport, htls, -⟩ := takeOver_eq_ok hfold
    obtain ⟨es, rfl, hes⟩ := require_eq_ok_iff.mp hspec
    simp only [route, hlabels, read_obj, hes, Option.getD_some, ok_bind, orElse_empty_obj,
      routeMembers, List.mapM_cons, List.mapM_nil, hto, hport, htls]
    rfl
  project_ok := ⟨_, rfl⟩

end Instances

end Aspect

end Workbench
