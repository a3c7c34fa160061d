import Workbench.Proofs.Cluster.Interrupted
import Workbench.Proofs.Reconcile.Settled

/-!
# The objects of the sign-in proxy

What the sign-in proxy works with is made when it is missing. Nobody corrects it afterwards, so the
route to the proxy is sure to lead there only when it did before, or was not there at all.

* `Memory.Supplies`: an object that was there is as it was, and one that was not there is new;
* `createMissing_supplies`, `openWayIn_supplies`, `steps_supply`: this holds of the objects of the
  proxy;
* **`Reconciler.reconcile_supplies_route`**: what becomes of the route to the proxy.
-/

namespace Workbench

open Doc Memory Workbench.Action Change Reconcile

/-! ## Objects that are made when they are missing -/

namespace Memory

variable {s t u : Memory} {own : List Address} {a : Address} {desired : Doc}

/-- An object that was there is as it was, and one that was not there is made as it is wanted. -/
structure Supplies (s t : Memory) (a : Address) (desired : Doc) : Prop where
  kept : ∀ found, s.lookup a = some found → t.lookup a = some found
  made : s.lookup a = none → t.view a = some (desired.asKept a)

namespace Supplies

theorem after (h : Supplies t u a desired) (hst : Within own s t) (ha : a ∉ own) :
    Supplies s u a desired where
  kept found hfound := h.kept found ((hst a ha).trans hfound)
  made hnone := h.made ((hst a ha).trans hnone)

theorem before (h : Supplies s t a desired) (htu : Within own t u) (ha : a ∉ own) :
    Supplies s u a desired where
  kept found hfound := (htu a ha).trans (h.kept found hfound)
  made hnone := (htu.view ha).trans (h.made hnone)

end Supplies

end Memory

section Runs

variable {m m' : Memory} {a : Address} {desired : Doc}

theorem makeIfMissing_supplies (ha : a.IsPlain) (hd : addressOf desired = .ok a) (hm : m.Sound)
    (hrun : (discard (makeIfMissing desired)).run Memory.host m = (.ok (), m')) :
    m'.Sound ∧ Within [a] m m' ∧ Supplies m m' a desired := by
  obtain ⟨isMade, hrun⟩ := discard_run hrun
  obtain ⟨hm', hout, hwithin⟩ := (makeIfMissing_local ha hd).run hm hrun
  refine ⟨hm', hwithin, fun found hfound => ?_, fun hnone => ?_⟩
  · -- Nothing is written, so even the version stays.
    unfold makeIfMissing at hrun
    rw [address_of_addressOf hd, liftM_ok_seq] at hrun
    obtain ⟨isThere, m₁, hthere, hrun⟩ := run_seq_eq_ok_iff.mp hrun
    rw [run_exists? ha, hfound, Prod.mk.injEq, Except.ok.injEq] at hthere
    obtain ⟨rfl, rfl⟩ := hthere
    cases hrun
    exact hfound
  · have hview : m.view a = none := by rw [Memory.view, hnone, Option.map_none]
    rw [hview, made, Prod.mk.injEq] at hout
    exact hout.2

/-- Objects that are made one after the other, each when it is missing. -/
theorem createMissing_supplies : ∀ {ds : List Doc} {as : List Address} {m : Memory},
    ds.map addressOf = as.map .ok → (∀ a ∈ as, a.IsPlain) → as.Nodup → m.Sound →
      (createMissing ds).run Memory.host m = (.ok (), m') →
        m'.Sound ∧ Within as m m' ∧ ∀ p ∈ as.zip ds, Supplies m m' p.1 p.2
  | [], [], _, _, _, _, hm, hrun => by
    cases hrun
    exact ⟨hm, (within_closed []).refl _, fun _ h => absurd h List.not_mem_nil⟩
  | [], _ :: _, _, h, _, _, _, _ => by cases h
  | _ :: _, [], _, h, _, _, _, _ => by cases h
  | d :: ds, a :: as, m, h, hplain, hnodup, hm, hrun => by
    obtain ⟨hd, hds⟩ := List.cons.inj h
    obtain ⟨ha, hnodup⟩ := List.nodup_cons.mp hnodup
    obtain ⟨hplain, hplains⟩ := List.forall_mem_cons.mp hplain
    obtain ⟨⟨⟩, m₁, hrun₁, hrest⟩ := run_seq_eq_ok_iff.mp hrun
    obtain ⟨hm₁, hwithin₁, hhead⟩ := makeIfMissing_supplies hplain hd hm hrun₁
    obtain ⟨hm', hwithin', htail⟩ := createMissing_supplies hds hplains hnodup hm₁ hrest
    refine ⟨hm', hwithin₁.trans hwithin',
      List.forall_mem_cons.mpr ⟨hhead.before hwithin' ha, fun p hp => ?_⟩⟩
    refine (htail p hp).after hwithin₁ fun hpa => ha ?_
    exact List.mem_singleton.mp hpa ▸ (List.of_mem_zip hp).1

end Runs

/-! ## The way in through the proxy -/

section Steps

variable {r : Reconciler} {nb : Notebook} {ns name : String} {uid : Doc} {m m' : Memory}

theorem signIn_nodup (ns name : String) : (ObjectAt.signIn ns name).Nodup :=
  (ObjectAt.own_nodup ns name).sublist (List.sublist_append_right _ _)

/-- The way in through the proxy is supplied. -/
theorem openWayIn_supplies (hnb : nb.IsAt ns name uid) (hm : m.Sound)
    (hmesh : nb.meshEnabled = .ok false) (hoauth : nb.oauthEnabled = .ok true)
    (hrun : (r.openWayIn nb).run Memory.host m = (.ok (), m')) :
    ∀ p ∈ (ObjectAt.signIn ns name).zip
      (oauthObjects ⟨name, ns, uid⟩ (r.cookieKey ⟨name, ns, uid⟩)), Supplies m m' p.1 p.2 := by
  unfold Reconciler.openWayIn at hrun
  rw [hmesh, liftM_ok_seq, if_neg Bool.false_ne_true, hoauth, liftM_ok_seq, if_pos rfl,
    oauth_eq hnb] at hrun
  exact (createMissing_supplies (addressOf_oauthObjects ns name uid _)
    (ObjectAt.signIn_plain ns name) (signIn_nodup ns name) hm hrun).2.2

theorem exists_openWayIn_run (hnb : nb.IsAt ns name uid) (hproper : nb.isProper = true)
    (hm : m.Sound) (hlookup : m.lookup (ObjectAt.notebook ns name) = some nb)
    (hrun : (r.steps nb).run Memory.host m = (.ok (), m')) :
    ∃ own s t, (∀ a ∈ ObjectAt.signIn ns name, a ∉ own) ∧ s.Sound ∧ Within own m s ∧
      (r.openWayIn nb).run Memory.host s = (.ok (), t) ∧ Within own t m' := by
  rw [steps_eq] at hrun
  obtain ⟨⟨⟩, m₁, hpublish, hrun⟩ := run_seq_eq_ok_iff.mp hrun
  obtain ⟨⟨⟩, m₂, hwithdraw, hrun⟩ := run_seq_eq_ok_iff.mp hrun
  obtain ⟨⟨⟩, m₃, hpolicies, hrun⟩ := run_seq_eq_ok_iff.mp hrun
  obtain ⟨⟨⟩, m₄, hgrant, hrun⟩ := run_seq_eq_ok_iff.mp hrun
  obtain ⟨⟨⟩, m₅, hopen, hend⟩ := run_seq_eq_ok_iff.mp hrun
  obtain ⟨hm₁, hwithin₁, -⟩ := publish_run hnb.ns_eq hm hpublish
  have hlookup₁ : m₁.lookup (ObjectAt.notebook ns name) = some nb := by
    rw [hwithin₁ _ (ObjectAt.not_mem_of_kind (by simp)), hlookup]
  obtain ⟨hm₂, hwithin₂, d, hd, hsame, -⟩ :=
    withdrawBundle_run hnb hproper hm₁ hlookup₁ hwithdraw
  obtain ⟨hm₃, hwithin₃, -⟩ := policies_run hnb hm₂ hpolicies
  obtain ⟨hm₄, hwithin₄, -⟩ := grantPipelines_run hnb hm₃ hgrant
  obtain ⟨hm₅, hwithin₅, -⟩ := openWayIn_run hnb hm₄ hopen
  have hd₅ : m₅.view (ObjectAt.notebook ns name) = some d := by
    rw [(hwithin₃.trans (hwithin₄.trans hwithin₅)).view (ObjectAt.not_mem_of_kind (by simp)), hd]
  obtain ⟨-, hwithin₆, -⟩ := endHold_run hnb hm₅ hd₅ hsame hend
  have hbefore := hwithin₁.trans (hwithin₂.trans (hwithin₃.trans hwithin₄))
  refine ⟨_, m₄, m₅, fun a ha => ObjectAt.not_mem_of_kind ?_, hm₄, hbefore, hopen,
    hwithin₆.mono fun b hb => by simp [List.mem_singleton.mp hb]⟩
  have hkind : a.kind ∈ (ObjectAt.signIn ns name).map Address.kind := List.mem_map_of_mem ha
  simp only [ObjectAt.kinds_signIn, List.mem_cons, List.not_mem_nil, or_false] at hkind
  rcases hkind with h | h | h | h <;> simp [h]

/-- The objects of the proxy are supplied by steps that end well. -/
theorem steps_supply (hnb : nb.IsAt ns name uid) (hproper : nb.isProper = true) (hm : m.Sound)
    (hlookup : m.lookup (ObjectAt.notebook ns name) = some nb)
    (hmesh : nb.meshEnabled = .ok false) (hoauth : nb.oauthEnabled = .ok true)
    (hrun : (r.steps nb).run Memory.host m = (.ok (), m')) :
    ∀ p ∈ (ObjectAt.signIn ns name).zip
      (oauthObjects ⟨name, ns, uid⟩ (r.cookieKey ⟨name, ns, uid⟩)), Supplies m m' p.1 p.2 := by
  obtain ⟨own, s, t, hown, hs, hbefore, hopen, hafter⟩ :=
    exists_openWayIn_run hnb hproper hm hlookup hrun
  intro p hp
  have hp' := hown p.1 (List.of_mem_zip hp).1
  exact ((openWayIn_supplies hnb hs hmesh hoauth hopen p hp).after hbefore hp').before hafter hp'

end Steps

namespace Reconciler

variable {r : Reconciler} {nb : Notebook} {ns name : String} {m m' : Memory}

theorem has_route_of_supplies {desired : Doc}
    (hsettles : Aspect.route.Settles (ObjectAt.route ns name) desired) (hm' : m'.Sound)
    (h : Supplies m m' (ObjectAt.route ns name) desired) :
    m'.Has (ObjectAt.route ns name) fun d =>
      (m.lookup (ObjectAt.route ns name) = none → Aspect.route.agrees d desired = .ok true) ∧
      ∀ found, m.lookup (ObjectAt.route ns name) = some found → d = found := by
  cases hlookup : m.lookup (ObjectAt.route ns name) with
  | some found =>
    exact ⟨found, h.kept found hlookup, nofun, fun _ => Option.some.inj⟩
  | none =>
    obtain ⟨d, hd, hmeta, hnew⟩ := hm'.lookup_of_view hsettles.plain (h.made hlookup)
    refine ⟨d, hd, fun _ => ?_, nofun⟩
    rw [← hsettles.agrees_unversioned hmeta, hnew]
    exact hsettles.agrees_asKept

/-- **The route to the sign-in proxy** is there after a reconcile that ends well. It leads to the
proxy if there was no route before, or one that did. A route that does not is left as it is, unless
it is the plain one of a notebook without sign-in, of which nothing is said. -/
theorem reconcile_supplies_route (r : Reconciler) (hm : m.Sound)
    (hnb : m.lookup (ObjectAt.notebook ns name) = some nb) (hproper : nb.isProper = true)
    (hmesh : nb.meshEnabled = .ok false) (hoauth : nb.oauthEnabled = .ok true)
    (hrun : (r.reconcile ns name).run Memory.host m = (.ok (), m')) :
    ∃ o, nb.owner = .ok o ∧ m'.Has (ObjectAt.route ns name) fun d =>
      ((∀ found, m.lookup (ObjectAt.route ns name) = some found →
        Aspect.route.agrees found (Resource.oauthRoute o) = .ok true) →
          Aspect.route.agrees d (Resource.oauthRoute o) = .ok true) ∧
      ∀ found, m.lookup (ObjectAt.route ns name) = some found →
        Aspect.route.agrees found (Resource.plainRoute o) ≠ .ok true → d = found := by
  obtain ⟨uid, hat⟩ := Notebook.isAt_of_lookup hm hnb
  have hm' := hm.of_run hrun
  obtain ⟨found, m₁, hfound, hsteps⟩ := run_seq_eq_ok_iff.mp hrun
  rw [← ObjectAt.notebook, run_find? (ObjectAt.notebook_plain ns name), hnb, Prod.mk.injEq,
    Except.ok.injEq] at hfound
  obtain ⟨rfl, rfl⟩ := hfound
  have hsupplies := steps_supply hat hproper hm hnb hmesh hoauth hsteps
    (ObjectAt.route ns name, Resource.oauthRoute ⟨name, ns, uid⟩)
    (by simp [ObjectAt.signIn, oauthObjects])
  refine ⟨_, hat.owner, (has_route_of_supplies (Aspect.route_settles rfl rfl _ _ _) hm'
    hsupplies).mono fun d hd => ⟨fun hagreed => ?_, fun found hfound _ => hd.2 found hfound⟩⟩
  cases hlookup : m.lookup (ObjectAt.route ns name) with
  | none => exact hd.1 hlookup
  | some found =>
    rw [hd.2 found hlookup]
    exact hagreed found hlookup

/-! ### A notebook that asks for sign-in -/

/-- What the objects of the notebook `wb` are made from. -/
def signInOwner : Owner := ⟨"wb", "ns", "u1"⟩

/-- A notebook that asks for sign-in. -/
def signInNotebook : Notebook :=
  .obj [
    ("kind", notebookKind),
    ("metadata", .obj [
      ("name", "wb"),
      ("namespace", "ns"),
      ("uid", "u1"),
      ("resourceVersion", "1"),
      ("annotations", .obj [(AnnotationKey.injectOAuth, "true")])])]

/-- A cluster with nothing but the notebook. -/
def signInCluster : Memory where
  objects := [(ObjectAt.notebook "ns" "wb", signInNotebook)]
  version := 1

theorem signInCluster_sound : signInCluster.Sound :=
  List.forall_mem_singleton.mpr ⟨_, _, _, _, rfl, by decide, rfl, rfl, rfl⟩

/-- The notebook gets its route to the proxy. -/
theorem signInNotebook_gets_route :
    ((plainOperator.reconcile "ns" "wb").run Memory.host signInCluster).2.Has
      (ObjectAt.route "ns" "wb")
        (Aspect.route.agrees · (Resource.oauthRoute signInOwner) = .ok true) := by
  have hlookup : signInCluster.lookup (ObjectAt.notebook "ns" "wb") = some signInNotebook := rfl
  have hrun : ((plainOperator.reconcile "ns" "wb").run Memory.host signInCluster).1 = .ok () := by
    decide +kernel
  obtain ⟨o, ho, hroute⟩ := reconcile_supplies_route plainOperator signInCluster_sound hlookup
    (by decide) rfl rfl (Prod.fst_eq_iff.mp hrun)
  cases ho
  exact hroute.mono fun d hd => hd.1 nofun

/-- The notebook is reconciled, and a route that was there before does not lead to the proxy after. -/
structure LeadsElsewhere (m : Memory) : Prop where
  sound : m.Sound
  notebook : m.lookup (ObjectAt.notebook "ns" "wb") = some signInNotebook
  mesh : signInNotebook.meshEnabled = .ok false
  oauth : signInNotebook.oauthEnabled = .ok true
  ends : ((plainOperator.reconcile "ns" "wb").run Memory.host m).1 = .ok ()
  route : (((plainOperator.reconcile "ns" "wb").run Memory.host m).2.lookup
    (ObjectAt.route "ns" "wb")).map (Aspect.route.agrees · (Resource.oauthRoute signInOwner)) =
      some (.ok false)

/-- Routes that lead elsewhere stay: one that was changed by hand, and the one that was made for the
notebook while it did without sign-in. -/
theorem other_routes_stay : LeadsElsewhere (signInCluster.put driftedRoute).2 ∧
    LeadsElsewhere (signInCluster.put (Resource.plainRoute signInOwner)).2 := by
  constructor <;>
    exact ⟨signInCluster_sound.put _, rfl, rfl, rfl, by decide +kernel, by decide +kernel⟩

end Reconciler

end Workbench
