import Workbench.Proofs.Cluster.Interrupted
import Workbench.Proofs.Cluster.Local

/-!
# Programs that are taken up again

A program that was interrupted is run again from the start. It comes to the same end when each of its
parts does: a part that had come through finds its work done, the one that was interrupted finishes
it, and the others have not begun.

* `Direct.passed`: what is kept at its address while a program runs that writes there once;
* `Action.Resumes`: a program that comes to the same end from wherever a run of it came through;
* **`Resumes.seq`**: two programs at different addresses, one after the other;
* `Local.resumes`, `Direct.resumes`: programs at one address.
-/

namespace Workbench.Action

open Memory Change

variable {α : Type} {a : Address} {m u : Memory} {own own' : List Address} {known : Memory → Prop}
  {p q : Action Unit}

/-- While a program runs that writes nothing but its end, there is either what was there before or
what will be there in the end. -/
theorem Direct.passed {out : Option Doc → Except Trouble α × Option Doc} {p : Action α}
    (hp : Direct a out p) (hm : m.Sound) :
    ∀ u ∈ p.passed m, u.Sound ∧ Moves a (out (m.view a)).2 m u := by
  have hsafe : Safe (Within []) (Moves a (out (m.view a)).2) _ p m :=
    hp (fun _ _ hst => hst a List.not_mem_nil) (moves_closed a _).refl (moves_lets a _)
  exact Safe.passed (within_closed []).refl (moves_closed a _) hm hsafe

theorem Local.passed {out : Option Doc → Except Trouble α × Option Doc} {p : Action α}
    (hp : Local a out p) (hm : m.Sound) : ∀ u ∈ p.passed m, u.Sound ∧ Within [a] m u := by
  have hsafe : Safe (Within []) (Within [a]) _ p m :=
    hp (fun _ _ hst => hst a List.not_mem_nil) (within_frees List.mem_cons_self)
  exact Safe.passed (within_closed []).refl (within_closed [a]) hm hsafe

/-- The program works at some addresses. From every memory that looks there like one that a run came
through, it ends well, and leaves what the run has left. Something may be known besides. -/
def Resumes (own : List Address) (known : Memory → Prop) (p : Action Unit) : Prop :=
  ∀ ⦃m m' : Memory⦄, m.Sound → known m → p.run Memory.host m = (.ok (), m') → ∀ u ∈ p.passed m,
    Within own m u ∧ ∀ w : Memory, w.Sound → known w → (∀ a ∈ own, w.view a = u.view a) →
      ∃ w', p.run Memory.host w = (.ok (), w') ∧ Within own w w' ∧ ∀ a ∈ own, w'.view a = m'.view a

namespace Resumes

theorem within (hp : Resumes own known p) (hm : m.Sound) (hknown : known m)
    (hrun : p.run Memory.host m = (.ok (), u)) : Within own m u :=
  (hp hm hknown hrun u (mem_passed_of_run hrun)).1

theorem pure : Resumes own known (pure ()) := by
  intro m m' _ _ hrun u hu
  cases hrun
  rw [List.mem_singleton.mp hu]
  exact ⟨(within_closed own).refl m, fun w _ _ hw => ⟨w, rfl, (within_closed own).refl w, hw⟩⟩

theorem mono (hp : Resumes own known p) (hown : ∀ a ∈ own, a ∈ own') : Resumes own' known p := by
  intro m m' hm hknown hrun u hu
  obtain ⟨hmu, hresume⟩ := hp hm hknown hrun u hu
  refine ⟨hmu.mono hown, fun w hw hknown' hviews => ?_⟩
  obtain ⟨w', hrun', hww', hsame⟩ := hresume w hw hknown' fun a ha => hviews a (hown a ha)
  refine ⟨w', hrun', hww'.mono hown, fun a ha => ?_⟩
  by_cases ha' : a ∈ own
  · exact hsame a ha'
  · rw [hww'.view ha', hviews a ha, hmu.view ha', (hp.within hm hknown hrun).view ha']

/-- **One program after another.** They work at different addresses, so what the first one leaves
does not depend on how far the second one has come. -/
theorem seq (hknown : ∀ s t, Within own s t → known s → known t)
    (hdisjoint : ∀ a ∈ own, a ∉ own') (hp : Resumes own known p) (hq : Resumes own' known q) :
    Resumes (own ++ own') known (do p; q) := by
  intro m m' hm hm' hrun u hu
  obtain ⟨⟨⟩, m₁, hrun₁, hrest⟩ := run_seq_eq_ok_iff.mp hrun
  have hm₁ := hm.of_run hrun₁
  have hmm₁ := hp.within hm hm' hrun₁
  have hm₁' := hknown m m₁ hmm₁ hm'
  have hm₁m' := hq.within hm₁ hm₁' hrest
  have hleft : ∀ a ∈ own, a ∈ own ++ own' := fun a ha => List.mem_append_left _ ha
  have hright : ∀ a ∈ own', a ∈ own ++ own' := fun a ha => List.mem_append_right _ ha
  -- The end of the first program from `w`, and the second one from there.
  have hboth : ∀ w u₁ u₂ : Memory, w.Sound → known w → u₁ ∈ p.passed m → u₂ ∈ q.passed m₁ →
      (∀ a ∈ own, w.view a = u₁.view a) → (∀ a ∈ own', w.view a = u₂.view a) →
        ∃ w', (do p; q).run Memory.host w = (.ok (), w') ∧ Within (own ++ own') w w' ∧
          ∀ a ∈ own ++ own', w'.view a = m'.view a := by
    intro w u₁ u₂ hw hw' hu₁ hu₂ hviews₁ hviews₂
    obtain ⟨w₁, hrun₁', hww₁, hsame₁⟩ := (hp hm hm' hrun₁ u₁ hu₁).2 w hw hw' hviews₁
    have hw₁ := hw.of_run hrun₁'
    obtain ⟨w', hrest', hw₁w', hsame⟩ := (hq hm₁ hm₁' hrest u₂ hu₂).2 w₁ hw₁ (hknown w w₁ hww₁ hw')
      fun a ha => (hww₁.view fun h => hdisjoint a h ha).trans (hviews₂ a ha)
    refine ⟨w', run_seq_eq_ok_iff.mpr ⟨(), w₁, hrun₁', hrest'⟩, hww₁.trans hw₁w', fun a ha => ?_⟩
    rcases List.mem_append.mp ha with ha | ha
    · rw [hw₁w'.view (hdisjoint a ha), hsame₁ a ha, hm₁m'.view (hdisjoint a ha)]
    · exact hsame a ha
  rcases mem_passed_seq.mp hu with hu | ⟨⟨⟩, t, ht, hu⟩
  · have hmu := (hp hm hm' hrun₁ u hu).1
    refine ⟨hmu.mono hleft, fun w hw hw' hviews => ?_⟩
    refine hboth w u m₁ hw hw' hu (start_mem_passed q m₁) (fun a ha => hviews a (hleft a ha)) ?_
    intro a ha
    have ha' : a ∉ own := fun h => hdisjoint a h ha
    rw [hviews a (hright a ha), hmu.view ha', hmm₁.view ha']
  · rw [hrun₁, Prod.mk.injEq] at ht
    obtain ⟨-, rfl⟩ := ht
    have hm₁u := (hq hm₁ hm₁' hrest u hu).1
    have hend : m₁ ∈ p.passed m := mem_passed_of_run hrun₁
    refine ⟨hmm₁.trans hm₁u, fun w hw hw' hviews => ?_⟩
    refine hboth w m₁ u hw hw' hend hu (fun a ha => ?_) fun a ha => hviews a (hright a ha)
    rw [hviews a (hleft a ha), hm₁u.view (hdisjoint a ha)]

theorem liftM_seq {x : Except Fault α} {f : α → Action Unit}
    (hf : ∀ v, x = .ok v → Resumes own known (f v)) :
    Resumes own known ((liftM x : Action α) >>= f) := by
  intro m m' hm hknown hrun
  cases x with
  | error t => cases hrun
  | ok v => exact hf v rfl hm hknown hrun

theorem gets_seq {P : Address → Prop} {r : Action α} {v : α} {f : α → Action Unit}
    (hr : r.Gets P) (hv : ∀ m, m.Sound → known m → (r.run Memory.host m).1 = .ok v)
    (hf : Resumes own known (f v)) : Resumes own known (r >>= f) := by
  intro m m' hm hknown hrun u hu
  rw [hr.run_seq (hv m hm hknown)] at hrun
  obtain ⟨hmu, hresume⟩ := hf hm hknown hrun u (hr.passed_seq (hv m hm hknown) u hu)
  refine ⟨hmu, fun w hw hknown' hviews => ?_⟩
  rw [hr.run_seq (hv w hw hknown')]
  exact hresume w hw hknown' hviews

end Resumes

/-! ## Programs at one address -/

/-- A program at one address, when what is kept there on the way leads to the same end. -/
theorem Local.resumes {out : Option Doc → Except Trouble Unit × Option Doc} (hp : Local a out p)
    (hout : ∀ m m' : Memory, m.Sound → p.run Memory.host m = (.ok (), m') → ∀ u ∈ p.passed m,
      out (u.view a) = out (m.view a)) : Resumes [a] known p := by
  intro m m' hm _ hrun u hu
  refine ⟨(hp.passed hm u hu).2, fun w hw _ hviews => ?_⟩
  obtain ⟨-, hend, -⟩ := hp.run hm hrun
  obtain ⟨-, hend', hwithin⟩ := hp.run hw rfl
  rw [hviews a List.mem_cons_self, hout m m' hm hrun u hu, ← hend, Prod.mk.injEq] at hend'
  refine ⟨_, Prod.ext hend'.1 rfl, hwithin, fun b hb => ?_⟩
  rw [List.mem_singleton.mp hb]
  exact hend'.2

/-- One that writes there nothing but its end, when it has nothing to do there afterwards. -/
theorem Direct.resumes {out : Option Doc → Except Trouble Unit × Option Doc} (hp : Direct a out p)
    (hout : ∀ (m : Memory) kept, m.Sound → out (m.view a) = (.ok (), kept) →
      out kept = (.ok (), kept)) : Resumes [a] known p := by
  refine hp.local.resumes fun m m' hm hrun u hu => ?_
  obtain ⟨-, hend, -⟩ := hp.local.run hm hrun
  obtain ⟨-, -, hsame | hgoal⟩ := hp.passed hm u hu
  · rw [view_congr hsame]
  · rw [hgoal, ← hend, hout m _ hm hend.symm]

end Workbench.Action
