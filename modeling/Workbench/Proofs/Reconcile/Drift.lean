import Workbench.Proofs.Cluster.Local
import Workbench.Proofs.Reconcile.Aspect

/-!
# Objects brought into their wanted state

What becomes of an object depends on what is kept at its address, and on nothing else, as long as no
other program writes there.

* `Aspect.outcome`, **`converge_direct`**: how a convergence ends, and what is kept then;
* `outcome_agrees`: a convergence that succeeds leaves an object that agrees; `outcome_again`: the
  next one has nothing to do;
* `made`, `makeIfMissing_direct`: the same for objects that are made when they are missing.
-/

namespace Workbench

open Doc Memory Workbench.Action

/-! ## Convergence -/

/-- How a convergence ends, and what is kept at the address then. -/
def Aspect.outcome (aspect : Aspect) (a : Address) (desired : Doc) :
    Option Doc → Except Trouble Bool × Option Doc
  | none => (.ok true, some (desired.asKept a))
  | some found =>
    match aspect.agrees found desired with
    | .error f => (.error (.fault f), some found)
    | .ok true => (.ok false, some found)
    | .ok false =>
      match aspect.overwrite found desired with
      | .error f => (.error (.fault f), some found)
      | .ok d => (.ok true, some d)

section Converge

variable {aspect : Aspect} {a : Address} {desired found : Doc} {rely guar : Change} {m : Memory}

theorem restore_safe (h : aspect.Settles a desired) (hrely : rely.Fixes a)
    (hguar : ∀ s, guar s s)
    (hlets : ∀ d, aspect.overwrite found desired = .ok d → guar.Lets a (some d.unversioned))
    (hfound : m.lookup a = some found) :
    Safe rely guar (fun x t => (x, t.view a) =
      match aspect.overwrite found desired with
      | .error f => (.error (.fault f), some found.unversioned)
      | .ok d => (.ok (), some d.unversioned)) (restore aspect a desired) m := by
  have hkeeps : ∀ {t u : Memory}, rely t u → t.lookup a = some found → u.lookup a = some found :=
    fun htu ht => (hrely _ _ htu).trans ht
  unfold restore
  refine Safe.get_seq h.plain hguar ?_ ?_
  · intro t d ht hmt hlookup
    obtain rfl : found = d := by simpa [hlookup, eq_comm] using hkeeps hmt hfound
    have hd := hasMetadata_of_addressOf (ht.addressOf_eq h.plain hlookup)
    cases hover : aspect.overwrite found desired with
    | error f => exact .throw fun _ => by simp [Memory.view, hlookup]
    | ok d =>
      have hsame := h.keeps.same hd hover
      refine Safe.update h.plain (hsame.addressOf (ht.addressOf_eq h.plain hlookup)) hguar ?_ ?_ ?_
      · intro t' u found' ht' _ htt' _ _ hwrote
        have hwritten : u.view a = some d.unversioned := by
          rw [hwrote.view, ht'.asKept_of_same h.plain (hkeeps htt' hlookup) hsame]
        exact ⟨hlets d hover _ _ hwrote.elsewhere hwritten, by rw [hwritten]⟩
      · intro t' found' ht' htt' hlookup' hstale
        have hcurrent := ht'.isCurrent_of_same h.plain (hkeeps htt' hlookup) hsame
        obtain rfl : found' = found := by simpa [hlookup'] using hkeeps htt' hlookup
        simp [hcurrent] at hstale
      · intro t' _ htt' hnone
        simp [hkeeps htt' hlookup] at hnone
  · intro t _ hmt hnone
    simp [hkeeps hmt hfound] at hnone

theorem repair_safe (h : aspect.Settles a desired) (hrely : rely.Fixes a)
    (hguar : ∀ s, guar s s)
    (hlets : ∀ d, aspect.overwrite found desired = .ok d → guar.Lets a (some d.unversioned))
    (hfound : m.lookup a = some found) :
    Safe rely guar (fun x t => (x, t.view a) =
      match aspect.overwrite found desired with
      | .error f => (.error (.fault f), some found.unversioned)
      | .ok d => (.ok true, some d.unversioned))
      (do retryingOnConflict (restore aspect a desired); return true) m := by
  have hrestore := restore_safe h hrely hguar hlets hfound
  cases hover : aspect.overwrite found desired with
  | error f =>
    simp only [hover, Prod.mk.injEq] at hrestore ⊢
    refine Safe.seq ?_ ?_ (Safe.retrying_once hrestore ?_)
    · rintro v t _ ⟨hx, -⟩
      cases hx
    · rintro e t _ ⟨hx, hview⟩
      cases hx
      exact ⟨rfl, hview⟩
    · rintro e t ⟨hx, -⟩
      cases hx
      rfl
  | ok d =>
    simp only [hover, Prod.mk.injEq] at hrestore ⊢
    refine Safe.seq ?_ ?_ (Safe.retrying_once hrestore ?_)
    · rintro v t _ ⟨-, hview⟩
      exact .pure fun _ => ⟨rfl, hview⟩
    · rintro e t _ ⟨hx, -⟩
      cases hx
    · rintro e t ⟨hx, -⟩
      cases hx

/-- **A convergence ends as what is kept at the address says**, and brings it into its wanted
state. -/
theorem converge_direct (h : aspect.Settles a desired) :
    Direct a (aspect.outcome a desired) (converge aspect desired) := by
  intro rely guar m hrely hguar hlets
  unfold converge
  rw [address_of_addressOf h.belongs]
  refine Safe.find?_seq h.plain hguar fun t ht hmt => ?_
  have hlookup := hrely _ _ hmt
  rw [hlookup]
  cases hfound : m.lookup a with
  | none =>
    have hview : m.view a = none := by rw [Memory.view, hfound, Option.map_none]
    rw [hview, Aspect.outcome] at hlets ⊢
    refine Safe.createUnlessThere h.plain h.belongs hguar ?_ ?_
    · intro t' u _ _ _ _ hwrote
      exact ⟨hlets _ _ hwrote.elsewhere hwrote.view, by rw [hwrote.view]⟩
    · intro t' found _ htt' hthere
      simp [hrely _ _ htt', hlookup, hfound] at hthere
  | some found =>
    rw [hfound] at hlookup
    have hd := hasMetadata_of_addressOf (ht.addressOf_eq h.plain hlookup)
    have hview : m.view a = some found.unversioned := by rw [Memory.view, hfound, Option.map_some]
    have hview' : t.view a = some found.unversioned := by
      rw [Memory.view, hlookup, Option.map_some]
    simp only [hview, Aspect.outcome, h.agrees_unversioned hd, h.keeps.unversioned hd] at hlets ⊢
    cases hagrees : aspect.agrees found desired with
    | error f => exact .throw fun _ => by rw [hview']
    | ok isSame =>
      cases isSame with
      | true => exact .pure fun _ => by rw [hview']
      | false =>
        rw [liftM_ok_seq, if_neg Bool.false_ne_true]
        rw [hagrees] at hlets
        refine (repair_safe h hrely hguar (fun d hover => ?_) hlookup).weaken fun x u _ hx => ?_
        · rwa [hover] at hlets
        · rw [hx]
          cases aspect.overwrite found desired <;> rfl

theorem converge_local (h : aspect.Settles a desired) :
    Local a (aspect.outcome a desired) (converge aspect desired) := (converge_direct h).local

theorem outcome_some {isWritten : Bool} {kept : Option Doc}
    (hout : aspect.outcome a desired (some found) = (.ok isWritten, kept)) :
    kept = some found ∨ ∃ d, aspect.overwrite found desired = .ok d ∧ kept = some d := by
  dsimp only [Aspect.outcome] at hout
  split at hout
  · cases hout
  · exact .inl (Prod.mk.inj hout).2.symm
  · split at hout
    · cases hout
    · next d hover => exact .inr ⟨d, hover, (Prod.mk.inj hout).2.symm⟩

/-- A convergence that succeeds leaves an object that agrees with the wanted one. -/
theorem outcome_agrees (h : aspect.Settles a desired) (hm : m.Sound) {isWritten : Bool}
    {kept : Option Doc} (hout : aspect.outcome a desired (m.view a) = (.ok isWritten, kept)) :
    ∃ d, kept = some d ∧ aspect.agrees d desired = .ok true := by
  rw [Memory.view] at hout
  cases hlookup : m.lookup a with
  | none =>
    simp only [hlookup, Option.map_none, Aspect.outcome, Prod.mk.injEq] at hout
    exact ⟨_, hout.2.symm, h.agrees_asKept⟩
  | some found =>
    have hd := hasMetadata_of_addressOf (hm.addressOf_eq h.plain hlookup)
    simp only [hlookup, Option.map_some, Aspect.outcome, h.keeps.unversioned hd] at hout
    cases hagrees : aspect.agrees found.unversioned desired with
    | error f => simp [hagrees] at hout
    | ok isSame =>
      cases isSame with
      | true =>
        simp only [hagrees, Prod.mk.injEq] at hout
        exact ⟨_, hout.2.symm, hagrees⟩
      | false =>
        cases hover : aspect.overwrite found desired with
        | error f => simp [hagrees, hover, Except.map] at hout
        | ok d =>
          simp only [hagrees, hover, Except.map, Prod.mk.injEq] at hout
          refine ⟨_, hout.2.symm, ?_⟩
          rw [h.agrees_unversioned (h.keeps.same hd hover).hasMetadata]
          exact h.agrees_overwrite hd hover

/-- A convergence that follows one that succeeds has nothing to do. -/
theorem outcome_again (h : aspect.Settles a desired) (hm : m.Sound) {isWritten : Bool}
    {kept : Option Doc} (hout : aspect.outcome a desired (m.view a) = (.ok isWritten, kept)) :
    aspect.outcome a desired kept = (.ok false, kept) := by
  obtain ⟨d, rfl, hagrees⟩ := outcome_agrees h hm hout
  simp only [Aspect.outcome, hagrees]

end Converge

/-! ## Objects that are made -/

/-- How making an object that may be there ends, and what is kept at its address then. -/
def made (a : Address) (desired : Doc) : Option Doc → Except Trouble Bool × Option Doc
  | none => (.ok true, some (desired.asKept a))
  | some found => (.ok false, some found)

theorem makeIfMissing_direct {a : Address} {desired : Doc} (ha : a.IsPlain)
    (hd : addressOf desired = .ok a) : Direct a (made a desired) (makeIfMissing desired) := by
  intro rely guar m hrely hguar hlets
  unfold makeIfMissing
  rw [address_of_addressOf hd, liftM_ok_seq]
  refine Safe.exists?_seq ha hguar fun t ht hmt => ?_
  have hlookup := hrely _ _ hmt
  rw [hlookup]
  unfold Memory.view at hlets ⊢
  cases hfound : m.lookup a with
  | some found => exact .pure fun _ => by rw [hlookup, hfound]; rfl
  | none =>
    rw [hfound] at hlets
    refine Safe.createUnlessThere ha hd hguar ?_ ?_
    · intro t' u _ _ _ _ hwrote
      exact ⟨hlets _ _ hwrote.elsewhere hwrote.view, by rw [← Memory.view, hwrote.view]; rfl⟩
    · intro t' found _ htt' hthere
      simp [hrely _ _ htt', hlookup, hfound] at hthere

theorem makeIfMissing_local {a : Address} {desired : Doc} (ha : a.IsPlain)
    (hd : addressOf desired = .ok a) : Local a (made a desired) (makeIfMissing desired) :=
  (makeIfMissing_direct ha hd).local

end Workbench
