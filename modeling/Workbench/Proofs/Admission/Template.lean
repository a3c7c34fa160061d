import Mathlib.Logic.Relation
import Workbench.Proofs.Admission.Containers
import Workbench.Sidecar

/-!
# Edits of the pod template, made twice

The edits of a pod template rest on some things besides it: the name of the notebook, the image that
was picked, whether there is a bundle, and the sign-in proxy. As long as these stay, the edits change
nothing when they are made once more.

* `Plan`: what the edits rest on;
* `Plan.Resolves`, `Plan.Mounts`, `Plan.Injects`: the three edits, as relations between the members of
  a pod template before and after;
* `Plan.HasImage`, `Plan.HasBundle`: what an edit leaves, and the later ones keep;
* **`Plan.edits_again`**: all three edits together.
-/

namespace Workbench

open Doc Notebook Entries

/-- The volumes of the sign-in proxy. -/
def Sidecar.volumes (name : Doc) : List Doc := [
  volumeOfSecret configVolume (ObjectName.secret name),
  volumeOfSecret certificateVolume (ObjectName.service name)]

namespace Admission

/-- What the edits of a pod template rest on besides it. -/
structure Plan where
  name : Doc
  selection : Doc
  /-- The image that the selection stands for. -/
  found : Except Trouble (Option Doc)
  mounts : Bool
  /-- The sign-in proxy, when it is asked for. -/
  sidecar? : Option Doc
  sidecar_named : ∀ c ∈ sidecar?, c.require "name" = .ok (.str Sidecar.containerName)

/-- The container named like the notebook is edited. -/
def EditsPrimary (name : Doc) (edit : Doc → Doc → Prop) (ps ps' : List Member) : Prop :=
  ∃ cs i c c', Primary name ps cs i c ∧ edit c c' ∧
    ps' = setMember "containers" (.arr (cs.set i c')) ps

/-- No two containers of a pod template have equal names. -/
def ContainersApart (ps : List Member) : Prop :=
  ∀ cs, ps.lookup "containers" = some (.arr cs) → NamesDiffer cs

section EditsPrimary

variable {name : Doc} {edit : Doc → Doc → Prop} {ps ps' : List Member}

theorem EditsPrimary.primary (hedit : ∀ c c', edit c c' → c'.read "name" = c.read "name")
    (h : EditsPrimary name edit ps ps') : ∃ cs i c c', Primary name ps' cs i c' ∧ edit c c' := by
  obtain ⟨cs, i, c, c', hprimary, hc, rfl⟩ := h
  exact ⟨_, i, c, c', hprimary.replace (hedit c c' hc), hc⟩

theorem EditsPrimary.apart (hedit : ∀ c c', edit c c' → nameOf? c' = nameOf? c)
    (h : EditsPrimary name edit ps ps') (hps : ContainersApart ps) : ContainersApart ps' := by
  obtain ⟨cs, i, c, c', hprimary, hc, rfl⟩ := h
  intro ds hds
  rw [lookup_setMember_self, Option.some.injEq, Doc.arr.injEq] at hds
  subst hds
  exact (hps cs hprimary.containers).set hprimary.there (hedit c c' hc)

end EditsPrimary

namespace Plan

variable {plan : Plan} {ps ps' : List Member}

/-! ## The edits -/

/-- The image that was picked is put in. -/
inductive Resolves (plan : Plan) (ps : List Member) : List Member → Prop where
  | unpicked (h : plan.selection = .null) : Resolves plan ps ps
  | nameless (h : plan.selection ≠ .null) (hnone : primaryIn? plan.name ps = .ok none) :
    Resolves plan ps ps
  | chosen {ps' : List Member} (h : plan.selection ≠ .null)
    (hedit : EditsPrimary plan.name (Image.Chosen plan.selection plan.found) ps ps') :
    Resolves plan ps ps'

/-- The bundle is mounted. -/
inductive Mounts (plan : Plan) (ps : List Member) : List Member → Prop where
  | absent (h : plan.mounts = false) : Mounts plan ps ps
  | mounted {volumes : Entries} {ps' : List Member} (h : plan.mounts = true)
    (hvolumes : Gains ((ps.lookup "volumes").getD .null) [TrustBundle.volume] volumes)
    (hedit : EditsPrimary plan.name (fun c c' => TrustBundle.mountInContainer c = .ok c')
      (setMember "volumes" (.arr volumes.toList) ps) ps') :
    Mounts plan ps ps'

/-- The specification of a pod template with the sign-in proxy in it. -/
def withSidecar (name : Doc) (containers volumes : Entries) (ps : List Member) : List Member :=
  setMember "serviceAccountName" name
    (setMember "volumes" (.arr volumes.toList)
      (setMember "containers" (.arr containers.toList) ps))

/-- The sign-in proxy is put in. -/
inductive Injects (plan : Plan) (ps : List Member) : List Member → Prop where
  | unasked (h : plan.sidecar? = none) : Injects plan ps ps
  | injected {c : Doc} {containers volumes : Entries} (h : plan.sidecar? = some c)
    (hcontainers : Gains ((ps.lookup "containers").getD .null) [c] containers)
    (hvolumes : Gains ((ps.lookup "volumes").getD .null) (Sidecar.volumes plan.name) volumes) :
    Injects plan ps (withSidecar plan.name containers volumes ps)

/-- All edits. -/
def Edits (plan : Plan) : List Member → List Member → Prop :=
  Relation.Comp (Relation.Comp plan.Resolves plan.Mounts) plan.Injects

theorem resolves_iff_of_unpicked (h : plan.selection = .null) : plan.Resolves ps ps' ↔ ps' = ps := by
  constructor
  · rintro (_ | ⟨hpicked, -⟩ | ⟨hpicked, -⟩)
    · rfl
    all_goals exact absurd h hpicked
  · rintro rfl
    exact .unpicked h

theorem mounts_iff_of_absent (h : plan.mounts = false) : plan.Mounts ps ps' ↔ ps' = ps := by
  constructor
  · rintro (_ | ⟨hthere, -, -⟩)
    · rfl
    · cases h.symm.trans hthere
  · rintro rfl
    exact .absent h

theorem injects_iff_of_unasked (h : plan.sidecar? = none) : plan.Injects ps ps' ↔ ps' = ps := by
  constructor
  · rintro (_ | ⟨hasked, -, -⟩)
    · rfl
    · cases h.symm.trans hasked
  · rintro rfl
    exact .unasked h

/-! ## What the edits leave -/

/-- The container has the image that was picked, or need not have it. -/
inductive HasImage (plan : Plan) (ps : List Member) : Prop where
  | unpicked (h : plan.selection = .null)
  | nameless (h : plan.selection ≠ .null) (hnone : primaryIn? plan.name ps = .ok none)
  | chosen {cs : List Doc} {i : Nat} {c : Doc} (h : plan.selection ≠ .null)
    (hprimary : Primary plan.name ps cs i c) (hc : Image.Chosen plan.selection plan.found c c)

/-- The bundle is mounted, if there is one. -/
inductive HasBundle (plan : Plan) (ps : List Member) : Prop where
  | absent (h : plan.mounts = false)
  | mounted {volumes : Entries} {cs : List Doc} {i : Nat} {c : Doc} (h : plan.mounts = true)
    (hkeyed : volumes.IsKeyed) (hvolumes : ps.lookup "volumes" = some (.arr volumes.toList))
    (hvolume : TrustBundle.volume ∈ volumes.toList) (hprimary : Primary plan.name ps cs i c)
    (hc : TrustBundle.mountInContainer c = .ok c)

theorem HasImage.resolves (h : plan.HasImage ps) : plan.Resolves ps ps := by
  cases h with
  | unpicked h => exact .unpicked h
  | nameless h hnone => exact .nameless h hnone
  | @chosen cs i c h hprimary hc =>
    exact .chosen h ⟨cs, i, c, c, hprimary, hc, hprimary.replace_self.symm⟩

theorem HasBundle.mounts (h : plan.HasBundle ps) : plan.Mounts ps ps := by
  cases h with
  | absent h => exact .absent h
  | @mounted volumes cs i c h hkeyed hvolumes hvolume hprimary hc =>
    have hgains : Gains ((ps.lookup "volumes").getD .null) [TrustBundle.volume] volumes := by
      rw [hvolumes]
      exact gains_of_mem hkeyed fun e he => by rwa [List.mem_singleton.mp he]
    refine .mounted h hgains ⟨cs, i, c, c, ?_, hc, ?_⟩ <;> rw [setMember_of_lookup hvolumes]
    · exact hprimary
    · exact hprimary.replace_self.symm

/-! ### The image -/

theorem Resolves.hasImage (hreference : ∀ reference, plan.found = .ok (some reference) →
    reference.number? = none) (h : plan.Resolves ps ps') : plan.HasImage ps' := by
  cases h with
  | unpicked h => exact .unpicked h
  | nameless h hnone => exact .nameless h hnone
  | chosen h hedit =>
    obtain ⟨cs, i, c, c', hprimary, hc⟩ := hedit.primary fun _ _ => Image.Chosen.read_name
    exact .chosen h hprimary (Image.chosen_again hreference hc)

theorem Resolves.apart (h : plan.Resolves ps ps') (hps : ContainersApart ps) :
    ContainersApart ps' := by
  cases h with
  | chosen _ hedit => exact hedit.apart (fun _ _ => Image.Chosen.nameOf?_eq) hps
  | _ => exact hps

theorem read_name_of_mount (c c' : Doc) (h : TrustBundle.mountInContainer c = .ok c') :
    c'.read "name" = c.read "name" :=
  TrustBundle.read_mountInContainer h (by decide) (by decide)

theorem HasImage.mounts (h : plan.HasImage ps) (hmounts : plan.Mounts ps ps') :
    plan.HasImage ps' := by
  cases hmounts with
  | absent _ => exact h
  | mounted _ _ hedit =>
    obtain ⟨cs, i, c, c', hprimary, hc, rfl⟩ := hedit
    have hbefore : Primary plan.name ps cs i c :=
      hprimary.of_lookup (by rw [lookup_setMember, if_neg (by decide)])
    have hafter := hprimary.replace (read_name_of_mount c c' hc)
    cases h with
    | unpicked h => exact .unpicked h
    | nameless h hnone => cases hnone.symm.trans hbefore.primaryIn?
    | chosen h hprimary' hchosen =>
      obtain ⟨rfl, rfl, rfl⟩ := hbefore.unique hprimary'
      exact .chosen h hafter (hchosen.mount hc)

/-! ### The bundle -/

theorem areNamed_volume : AreNamed [TrustBundle.volume] [TrustBundle.volumeName] := .cons rfl .nil

theorem Mounts.hasBundle (h : plan.Mounts ps ps') : plan.HasBundle ps' := by
  cases h with
  | absent h => exact .absent h
  | @mounted volumes _ h hvolumes hedit =>
    obtain ⟨cs, i, c, c', hprimary, hc, rfl⟩ := hedit
    have hvolume := hvolumes.mem areNamed_volume (List.nodup_singleton _) _ List.mem_cons_self
    refine .mounted h hvolumes.isKeyed ?_ hvolume (hprimary.replace (read_name_of_mount c c' hc))
      (TrustBundle.mountInContainer_again hc)
    rw [lookup_setMember, if_neg (by decide), lookup_setMember_self]

theorem Mounts.apart (h : plan.Mounts ps ps') (hps : ContainersApart ps) : ContainersApart ps' := by
  cases h with
  | absent _ => exact hps
  | mounted _ _ hedit =>
    refine hedit.apart (fun _ _ => TrustBundle.nameOf?_of_mountInContainer) fun cs hcs => hps cs ?_
    rwa [lookup_setMember, if_neg (by decide)] at hcs

/-! ### The sign-in proxy -/

section WithSidecar

variable (name : Doc) (containers volumes : Entries) (ps : List Member)

theorem lookup_withSidecar_containers :
    (withSidecar name containers volumes ps).lookup "containers" = some (.arr containers.toList) := by
  rw [withSidecar, lookup_setMember, if_neg (by decide), lookup_setMember, if_neg (by decide),
    lookup_setMember_self]

theorem lookup_withSidecar_volumes :
    (withSidecar name containers volumes ps).lookup "volumes" = some (.arr volumes.toList) := by
  rw [withSidecar, lookup_setMember, if_neg (by decide), lookup_setMember_self]

theorem withSidecar_withSidecar :
    withSidecar name containers volumes (withSidecar name containers volumes ps) =
      withSidecar name containers volumes ps := by
  have haccount : (withSidecar name containers volumes ps).lookup "serviceAccountName" = some name :=
    lookup_setMember_self _ _ _
  conv_lhs => rw [withSidecar]
  rw [setMember_of_lookup (lookup_withSidecar_containers ..),
    setMember_of_lookup (lookup_withSidecar_volumes ..), setMember_of_lookup haccount]

end WithSidecar

theorem toList_containers (hps : ContainersApart ps) {E : Entries} {l : List Doc}
    (hl : (containersIn ps).elements = .ok l)
    (hE : ofDoc ((ps.lookup "containers").getD .null) = .ok E) : E.toList = l := by
  refine toList_ofDoc hl ?_ hE
  rcases elements_orElse hl with hcs | htexts
  · exact (hps l (eq_some_of_getD hcs (by simp))).keys
  · -- A text has no name.
    refine (List.pairwise_of_forall fun _ _ => trivial).imp_of_mem (R := fun _ _ => True) ?_
    rintro d e hd - - key hkey
    obtain ⟨s, rfl⟩ := htexts d hd
    cases hkey

theorem Injects.primaryIn? (hname : plan.name ≠ .str Sidecar.containerName)
    (hps : ContainersApart ps) (h : plan.Injects ps ps') {found : Option Nat}
    (hfound : Notebook.primaryIn? plan.name ps = .ok found) :
    Notebook.primaryIn? plan.name ps' = .ok found ∧ ∀ cs i c, Primary plan.name ps cs i c →
      ∃ cs', Primary plan.name ps' cs' i c := by
  cases h with
  | unasked _ => exact ⟨hfound, fun cs i c h => ⟨cs, h⟩⟩
  | @injected sidecar containers volumes h hcontainers hvolumes =>
    have hnamed := plan.sidecar_named sidecar h
    obtain ⟨E, hE, hcontainers⟩ := hcontainers
    rw [List.foldlM_cons] at hcontainers
    obtain ⟨F, hF, hcontainers⟩ := bind_eq_ok_iff.mp hcontainers
    cases hcontainers
    obtain ⟨key, hkey, rfl⟩ := insert_eq_ok hF
    cases (keyOf_eq_str_iff.mpr hnamed).symm.trans hkey
    obtain ⟨l, hl, hindex⟩ := bind_eq_ok_iff.mp hfound
    have hlist : E.keyed.map Prod.snd = l := toList_containers hps hl hE
    rw [← hlist] at hindex
    obtain ⟨hset, hthere⟩ := indexOfName?_set hname hnamed (isKeyed_ofDoc hE).keyOf_eq hindex
    have hlookup := lookup_withSidecar_containers plan.name
      ⟨Entries.set (.str Sidecar.containerName) sidecar E.keyed⟩ volumes ps
    refine ⟨(primaryIn?_arr hlookup).trans hset, fun cs i c hprimary => ?_⟩
    obtain rfl : found = some i := by
      simpa [hprimary.primaryIn?] using hfound.symm
    rw [containersIn_arr hprimary.containers] at hl
    cases hl
    refine ⟨_, hlookup, hset, ?_⟩
    rw [toList, hthere i rfl, hlist, hprimary.there]

theorem HasImage.injects (hname : plan.name ≠ .str Sidecar.containerName)
    (hps : ContainersApart ps) (h : plan.HasImage ps) (hinjects : plan.Injects ps ps') :
    plan.HasImage ps' := by
  cases h with
  | unpicked h => exact .unpicked h
  | nameless h hnone => exact .nameless h (hinjects.primaryIn? hname hps hnone).1
  | chosen h hprimary hc =>
    obtain ⟨cs', hprimary'⟩ := (hinjects.primaryIn? hname hps hprimary.primaryIn?).2 _ _ _ hprimary
    exact .chosen h hprimary' hc

theorem areNamed_volumes (name : Doc) :
    AreNamed (Sidecar.volumes name) [Sidecar.configVolume, Sidecar.certificateVolume] :=
  .cons rfl (.cons rfl .nil)

theorem HasBundle.injects (hname : plan.name ≠ .str Sidecar.containerName)
    (hps : ContainersApart ps) (h : plan.HasBundle ps) (hinjects : plan.Injects ps ps') :
    plan.HasBundle ps' := by
  cases h with
  | absent h => exact .absent h
  | mounted h hkeyed hlookup hvolume hprimary hc =>
    obtain ⟨cs', hprimary'⟩ := (hinjects.primaryIn? hname hps hprimary.primaryIn?).2 _ _ _ hprimary
    cases hinjects with
    | unasked _ => exact .mounted h hkeyed hlookup hvolume hprimary' hc
    | @injected _ _ volumes' _ _ hvolumes =>
      have hvolumes' := hvolumes
      rw [hlookup, Option.getD_some] at hvolumes'
      have hother : TrustBundle.volumeName ∉ [Sidecar.configVolume, Sidecar.certificateVolume] := by
        decide
      have hvolume' := hvolumes'.mem_of_ne hkeyed hvolume
        (keyOf_ne_of_named rfl (areNamed_volumes _) hother)
      exact .mounted h hvolumes.isKeyed (lookup_withSidecar_volumes ..) hvolume' hprimary' hc

theorem Injects.again (h : plan.Injects ps ps') : plan.Injects ps' ps' := by
  cases h with
  | unasked h => exact .unasked h
  | @injected sidecar containers volumes h hcontainers hvolumes =>
    have hcontainersMem := hcontainers.mem (.cons (plan.sidecar_named sidecar h) .nil)
      (List.nodup_singleton _)
    have hvolumesMem := hvolumes.mem (areNamed_volumes _) (by decide)
    have hagain : plan.Injects (withSidecar plan.name containers volumes ps)
        (withSidecar plan.name containers volumes (withSidecar plan.name containers volumes ps)) := by
      refine .injected h ?_ ?_
      · rw [lookup_withSidecar_containers]
        exact gains_of_mem hcontainers.isKeyed hcontainersMem
      · rw [lookup_withSidecar_volumes]
        exact gains_of_mem hvolumes.isKeyed hvolumesMem
    rwa [withSidecar_withSidecar] at hagain

/-! ## All edits -/

/-- **Edits that were made change nothing when they are made again.** The image that was picked must
be no number: of a number it cannot be said whether it is final. -/
theorem edits_again (hreference : ∀ reference, plan.found = .ok (some reference) →
      reference.number? = none) (hname : plan.name ≠ .str Sidecar.containerName)
    (hps : ContainersApart ps) (h : plan.Edits ps ps') : plan.Edits ps' ps' := by
  obtain ⟨ps₂, ⟨ps₁, hresolves, hmounts⟩, hinjects⟩ := h
  have hps₂ := hmounts.apart (hresolves.apart hps)
  have himage := ((hresolves.hasImage hreference).mounts hmounts).injects hname hps₂ hinjects
  have hbundle := hmounts.hasBundle.injects hname hps₂ hinjects
  exact ⟨ps', ⟨ps', himage.resolves, hbundle.mounts⟩, hinjects.again⟩

end Plan

end Admission

end Workbench
