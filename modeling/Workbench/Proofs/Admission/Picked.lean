import Workbench.Admission.InPlace
import Workbench.Proofs.Admission.Newest
import Workbench.Proofs.Admission.Primary

/-!
# The image that was picked

The image of a notebook is looked up first and put in afterwards. Whatever stops the look-up stops it
before anything is written. What is written is the image and then the variable for it, so variables
that cannot be gone through leave the image without its variable.

* `Image.LooksUp`: what the selection of a notebook stands for in its cluster;
* `Image.KeepsImage`: why a notebook keeps its image;
* `Image.Puts`: a container with the image that was picked, and with the first variable for it set;
* `Image.Unfit`: variables that cannot be gone through up to the one for the image;
* `Image.Leaves`: a notebook that other containers were put into;
* `Image.resolve_unfit`: unfit variables end the work, and the image has been put in by then;
* `Image.Resolves`: how the work can end, and what is left of the notebook then;
* **`Image.resolve_picks_or_keeps`**: so does it end for every notebook, in every cluster.
-/

namespace Workbench

open Doc Notebook

namespace Image

variable {nb nb' nb₀ : Notebook} {name c c' reference selection : Doc} {cs : List Doc} {i : Nat}
  {ps : List Member} {operatorNamespace : String} {found : Option Doc}

/-! ## Selections -/

theorem splitAt_ne_nil (sep : Char) (cs : List Char) : Text.splitAt sep cs ≠ [] := by
  cases cs with
  | nil => simp [Text.splitAt]
  | cons c cs =>
    rw [Text.splitAt]
    split
    · simp
    · split <;> simp

theorem splitAt_eq_cons {sep : Char} : ∀ {cs a : List Char} {rest : List (List Char)},
    Text.splitAt sep cs = a :: rest → sep ∉ a ∧
      (rest = [] ∧ cs = a ∨ ∃ cs', cs = a ++ sep :: cs' ∧ Text.splitAt sep cs' = rest)
  | [], _, _, h => by
    cases h
    exact ⟨List.not_mem_nil, .inl ⟨rfl, rfl⟩⟩
  | c :: cs, a, rest, h => by
    rw [Text.splitAt] at h
    split at h
    · next hsep =>
      obtain ⟨rfl, hrest⟩ := List.cons.inj h
      exact ⟨List.not_mem_nil, .inr ⟨cs, by rw [hsep, List.nil_append], hrest⟩⟩
    · next hother =>
      split at h
      · next hnil => exact absurd hnil (splitAt_ne_nil sep cs)
      · next piece pieces hcons =>
        obtain ⟨rfl, rfl⟩ := List.cons.inj h
        obtain ⟨hpiece, hend⟩ := splitAt_eq_cons hcons
        refine ⟨not_or.mpr ⟨Ne.symm hother, hpiece⟩ ∘ List.mem_cons.mp, ?_⟩
        rcases hend with ⟨rfl, rfl⟩ | ⟨cs', rfl, hcs'⟩
        · exact .inl ⟨rfl, rfl⟩
        · exact .inr ⟨cs', rfl, hcs'⟩

theorem splitAt_eq_pair {sep : Char} {cs a b : List Char} (h : Text.splitAt sep cs = [a, b]) :
    cs = a ++ sep :: b ∧ sep ∉ a ∧ sep ∉ b := by
  obtain ⟨ha, ⟨hnil, -⟩ | ⟨cs', rfl, hb⟩⟩ := splitAt_eq_cons h
  · cases hnil
  obtain ⟨hb, ⟨-, rfl⟩ | ⟨cs'', -, hend⟩⟩ := splitAt_eq_cons hb
  · exact ⟨rfl, ha, hb⟩
  · exact absurd hend (splitAt_ne_nil sep cs'')

theorem ofText_eq_ok {text name tag : String} (h : Selection.ofText text = .ok ⟨name, tag⟩) :
    text = name ++ ":" ++ tag ∧ ':' ∉ name.toList ∧ ':' ∉ tag.toList := by
  unfold Selection.ofText at h
  split at h
  · next a b hsplit =>
    cases h
    obtain ⟨htext, ha, hb⟩ := splitAt_eq_pair hsplit
    rw [String.toList_ofList, String.toList_ofList]
    refine ⟨?_, ha, hb⟩
    rw [← String.toList_inj, htext]
    simp
  · cases h

/-! ## The look-up -/

section Runs

variable {σ : Type} {h : Host σ} {s t : σ}

/-- The selection of a notebook is a name and a tag, and stands for `found` among the image streams
that the cluster lists. -/
structure LooksUp (h : Host σ) (operatorNamespace : String) (s t : σ) (nb : Notebook)
    (selection : Doc) (found : Option Doc) : Prop where
  selected : nb.annotationValue AnnotationKey.imageSelection = .ok selection
  finds : ∃ (name tag : String) (list : Doc) (streams : List Doc),
    selection = .str (name ++ ":" ++ tag) ∧ ':' ∉ name.toList ∧ ':' ∉ tag.toList ∧
    (Action.list "ImageStream" operatorNamespace).run h s = (.ok list, t) ∧
    list.elements = .ok streams ∧ Finds name tag streams found

theorem looksUp_of_run
    (hselection : nb.annotationValue AnnotationKey.imageSelection = .ok selection)
    (hrun : (lookUp operatorNamespace selection).run h s = (.ok found, t)) :
    LooksUp h operatorNamespace s t nb selection found := by
  obtain ⟨text, _, hasText, hrun₁⟩ := Action.run_seq_eq_ok_iff.mp hrun
  obtain ⟨htext, rfl⟩ := Action.run_liftM_fault_eq_ok_iff.mp hasText
  obtain ⟨⟨name, tag⟩, _, hofText, hrun₂⟩ := Action.run_seq_eq_ok_iff.mp hrun₁
  obtain ⟨hparts, rfl⟩ := Prod.mk.inj ((Action.run_liftM_trouble _).symm.trans hofText)
  obtain ⟨list, _, hlist, hrun₃⟩ := Action.run_seq_eq_ok_iff.mp hrun₂
  obtain ⟨streams, _, helements, hrun₄⟩ := Action.run_seq_eq_ok_iff.mp hrun₃
  obtain ⟨hstreams, rfl⟩ := Action.run_liftM_fault_eq_ok_iff.mp helements
  obtain ⟨hfind, rfl⟩ := Action.run_liftM_fault_eq_ok_iff.mp hrun₄
  obtain ⟨rfl, hname, htag⟩ := ofText_eq_ok hparts
  refine ⟨hselection, name, tag, list, streams, ?_, hname, htag, hlist, hstreams,
    finds_of_find? hfind⟩
  cases selection with
  | str s =>
    cases htext
    rfl
  | _ => cases htext

/-- The container named like the notebook is `c`, at `i` among the containers `cs`. -/
structure HasPrimary (nb : Notebook) (name : Doc) (cs : List Doc) (i : Nat) (c : Doc) : Prop where
  named : nb.name = .ok name
  containers : nb.at? (podSpecPlace "containers") = some (.arr cs)
  primary : IsPrimary name cs i c

/-- Why a notebook keeps its image: none was picked, no container has its name, its image is final,
or its selection stands for no image. -/
inductive KeepsImage (h : Host σ) (operatorNamespace : String) (s t : σ) (nb : Notebook) :
    Prop where
  | unpicked (hselection : nb.annotationValue AnnotationKey.imageSelection = .ok .null)
  | nameless (hindex : nb.primaryIndex? = .ok none)
  | final {name c : Doc} {cs : List Doc} {i : Nat} (hprimary : HasPrimary nb name cs i c)
    (hfinal : isFinal c = .ok true)
  | unknown {selection : Doc} (hfound : LooksUp h operatorNamespace s t nb selection none)

/-! ## The container -/

/-- The first variable for the image is set to the selection, and takes its value from nowhere
else. -/
inductive SetsFirst (selection : Doc) : List Doc → List Doc → Prop where
  | nowhere {env : List Doc} (h : ∀ v ∈ env, hasName variableName v = false) :
    SetsFirst selection env env
  | here {before after : List Doc} {v v' : Doc}
    (hbefore : ∀ e ∈ before, hasName variableName e = false)
    (hv : hasName variableName v = true) (hvalue : v'.at? [.member "value"] = some selection)
    (hsource : v'.at? [.member "valueFrom"] = none)
    (hothers : ∀ k, k ∉ ["value", "valueFrom"] → v'.at? [.member k] = v.at? [.member k]) :
    SetsFirst selection (before ++ v :: after) (before ++ v' :: after)

/-- A container with the image that was picked. -/
structure Puts (reference selection c c' : Doc) : Prop where
  image : c'.at? [.member "image"] = some reference
  env : SetsFirst selection (entriesOf (c.at? [.member "env"])) (entriesOf (c'.at? [.member "env"]))
  noEnv : (∀ env, c.at? [.member "env"] ≠ some (.arr env)) →
    c'.at? [.member "env"] = c.at? [.member "env"]
  others : ∀ k, k ∉ ["image", "env"] → c'.at? [.member k] = c.at? [.member k]

theorem setsFirst_of_putVariable {env env' : List Doc} (h : putVariable selection env = .ok env') :
    SetsFirst selection env env' := by
  rw [putVariable_eq] at h
  rcases apply_named_cases h with
    ⟨before, v, v', after, rfl, rfl, hbefore, hname, hedit⟩ | ⟨henv, rfl⟩
  · obtain ⟨w, hput, hremove⟩ := bind_eq_ok_iff.mp hedit
    obtain ⟨ms, rfl, rfl⟩ := put_eq_ok_iff.mp hput
    obtain ⟨_, hms, rfl⟩ := remove_eq_ok_iff.mp hremove
    cases hms
    refine .here hbefore hname ?_ ?_ ?_
    · rw [at?_member, lookup_dropMember, if_neg (by decide), lookup_setMember_self]
    · rw [at?_member, lookup_dropMember, if_pos rfl]
    · intro k hk
      rw [List.mem_cons, List.mem_singleton, not_or] at hk
      rw [at?_member, at?_member, lookup_dropMember, if_neg hk.2, lookup_setMember, if_neg hk.1]
  · rw [setVariable, List.append_nil]
    exact .nowhere henv

theorem puts_of_putImage (h : putImage reference selection c = .ok c') :
    Puts reference selection c c' := by
  obtain ⟨_, hput, h⟩ := bind_eq_ok_iff.mp h
  obtain ⟨ms, rfl, rfl⟩ := put_eq_ok_iff.mp hput
  have hother : ∀ k, k ≠ "image" → (setMember "image" reference ms).lookup k = ms.lookup k :=
    fun k hk => by rw [lookup_setMember, if_neg hk]
  rw [read_obj, ok_bind, hother "env" (by decide)] at h
  split at h
  · obtain ⟨items, hitems, h⟩ := bind_eq_ok_iff.mp h
    obtain ⟨env, henv, h⟩ := bind_eq_ok_iff.mp h
    obtain ⟨_, hms, rfl⟩ := put_eq_ok_iff.mp h
    cases hms
    have hthere : ms.lookup "env" = some (.arr items) := eq_some_of_getD (items_eq_ok_iff.mp hitems)
      (by simp)
    have hlist := (at?_member "env" ms).trans hthere
    refine ⟨?_, ?_, fun hnone => absurd hlist (hnone items), fun k hk => ?_⟩
    · rw [at?_member, lookup_setMember, if_neg (by decide), lookup_setMember_self]
    · rw [hlist, at?_member, lookup_setMember_self]
      exact setsFirst_of_putVariable henv
    · rw [List.mem_cons, List.mem_singleton, not_or] at hk
      rw [at?_member, at?_member, lookup_setMember, if_neg hk.2, hother k hk.1]
  · next hfalsy =>
    cases h
    refine ⟨?_, ?_, fun _ => ?_, fun k hk => ?_⟩
    · rw [at?_member, lookup_setMember_self]
    · rw [at?_member, at?_member, hother "env" (by decide), entriesOf_of_not_truthy hfalsy]
      exact .nowhere (by simp)
    · rw [at?_member, at?_member, hother "env" (by decide)]
    · rw [List.mem_cons, List.mem_singleton, not_or] at hk
      rw [at?_member, at?_member, hother k hk.1]

theorem putImage_eq (h : c.put "image" reference = .ok c') :
    putImage reference selection c = putVariableIn selection c' := by
  rw [putImage, h]
  rfl

/-! ## Variables that cannot be gone through -/

/-- Something that is no object comes before the variable for the image. -/
def Stops (env : List Doc) : Prop :=
  ∃ before d after, env = before ++ d :: after ∧
    (∀ e ∈ before, e.isObj = true ∧ hasName variableName e = false) ∧ d.isObj = false

/-- Variables that cannot be gone through up to the one for the image: they are no list, or something
before it is no object. -/
structure Unfit (env : Doc) : Prop where
  there : env.truthy = true
  stops : ∀ ds, env = .arr ds → Stops ds

theorem stops_cons_iff {v : Doc} {env : List Doc} (hv : v.isObj = true) :
    Stops (v :: env) ↔ hasName variableName v = false ∧ Stops env := by
  constructor
  · rintro ⟨_ | ⟨b, before⟩, d, after, henv, hbefore, hd⟩
    · cases henv
      cases hv.symm.trans hd
    · obtain ⟨rfl, rfl⟩ := List.cons.inj henv
      obtain ⟨hb, hbefore⟩ := List.forall_mem_cons.mp hbefore
      exact ⟨hb.2, before, d, after, rfl, hbefore, hd⟩
  · rintro ⟨hother, before, d, after, rfl, hbefore, hd⟩
    exact ⟨v :: before, d, after, rfl, List.forall_mem_cons.mpr ⟨⟨hv, hother⟩, hbefore⟩, hd⟩

theorem putVariable_cons_obj (selection : Doc) (ms : List Member) (env : List Doc) :
    putVariable selection (.obj ms :: env) = if hasName variableName (.obj ms) then
        .ok (.obj (dropMember "valueFrom" (setMember "value" selection ms)) :: env)
      else (putVariable selection env).map (.obj ms :: ·) := by
  have hnamed : ((ms.lookup "name").getD .null).looseEq (.str variableName) =
      hasName variableName (.obj ms) := by
    rw [looseEq_getD, hasName, nameOf?, at?_member]
  rw [putVariable, read_obj, ok_bind, hnamed]
  split
  · rfl
  · cases putVariable selection env <;> rfl

theorem putVariable_fails_iff (selection : Doc) (env : List Doc) :
    (∃ f, putVariable selection env = .error f) ↔ Stops env := by
  induction env with
  | nil =>
    constructor
    · rintro ⟨_, ⟨⟩⟩
    · rintro ⟨_ | ⟨_, _⟩, _, _, ⟨⟩, -⟩
  | cons v env ih =>
    by_cases hv : v.isObj = true
    · obtain ⟨ms, rfl⟩ := isObj_iff.mp hv
      rw [putVariable_cons_obj, stops_cons_iff hv, ← ih]
      cases hasName variableName (.obj ms) with
      | true => simp
      | false => cases putVariable selection env <;> simp [Except.map]
    · have hstops : Stops (v :: env) := ⟨[], v, env, rfl, by simp, Bool.eq_false_iff.mpr hv⟩
      refine iff_of_true ?_ hstops
      cases v with
      | obj ms => exact absurd rfl hv
      | _ => exact ⟨_, rfl⟩

theorem putVariableIn_fails_iff (himage : c.put "image" reference = .ok c') (selection : Doc) :
    (∃ f, putVariableIn selection c' = .error f) ↔
      ∃ env, c.at? [.member "env"] = some env ∧ Unfit env := by
  obtain ⟨ms, rfl, rfl⟩ := put_eq_ok_iff.mp himage
  have hne : "env" ≠ "image" := by decide
  rw [at?_member, putVariableIn, read_obj, ok_bind, lookup_setMember, if_neg hne]
  cases ms.lookup "env" with
  | none => exact iff_of_false (by rintro ⟨_, ⟨⟩⟩) (by simp)
  | some env =>
    simp only [Option.getD_some, Option.some.injEq, exists_eq_left']
    by_cases hthere : env.truthy = true
    · rw [if_pos hthere]
      cases env with
      | arr ds =>
        have hunfit : Unfit (.arr ds) ↔ Stops ds :=
          ⟨fun h => h.stops ds rfl, fun h => ⟨hthere, fun _ hds => Doc.arr.inj hds ▸ h⟩⟩
        rw [items, ok_bind, hunfit, ← putVariable_fails_iff selection]
        cases putVariable selection ds with
        | error f => exact iff_of_true ⟨_, rfl⟩ ⟨_, rfl⟩
        | ok env' => exact iff_of_false (by rintro ⟨_, ⟨⟩⟩) (by rintro ⟨_, ⟨⟩⟩)
      | _ => exact iff_of_true ⟨_, rfl⟩ ⟨hthere, by simp⟩
    · rw [if_neg hthere]
      exact iff_of_false (by rintro ⟨_, ⟨⟩⟩) fun h => hthere h.there

/-! ## Notebooks -/

/-- Work on the notebook `nb` has left `nb'`: its containers are `x`, and nothing else has changed but
that a pod template may have been created. -/
structure Leaves (nb nb' : Notebook) (x : Option Doc) : Prop where
  containers : nb'.at? (podSpecPlace "containers") = x
  elsewhere : ChangedWithin [podSpecPlace "containers"] nb nb'

theorem Leaves.refl (nb : Notebook) : Leaves nb nb (nb.at? (podSpecPlace "containers")) :=
  ⟨rfl, .refl _ _⟩

theorem leaves_of_opens (h : nb.Opens nb₀ ps) :
    Leaves nb nb₀ (nb.at? (podSpecPlace "containers")) where
  containers := by rw [h.at?, h.hasPodSpec.opens.at?]
  elsewhere := h.changedWithin (List.cons_ne_nil ([.member "containers"] : Place) []) (.refl _ _)
    (podSpecReplaced_self h.hasPodSpec)

theorem leaves_of_ensurePodSpec (hname : nb.name = .ok name) (h : nb.ensurePodSpec = .ok nb₀) :
    Leaves nb nb₀ (nb.at? (podSpecPlace "containers")) ∧ nb₀.primaryIndex? = nb.primaryIndex? := by
  rcases opens_or_eq_of_ensurePodSpec h with ⟨ps, hopens⟩ | rfl
  · have hname₀ : nb₀.name = .ok name := (name_of_sameBut hopens.sameBut).trans hname
    refine ⟨leaves_of_opens hopens, ?_⟩
    rw [hopens.primaryIndex? hname, hopens.hasPodSpec.opens.primaryIndex? hname₀]
  · exact ⟨.refl _, rfl⟩

theorem leaves_of_replaced {x : Doc} (h : nb.Opens nb₀ ps)
    (hreplaced : PodSpecReplaced nb₀ nb' (.obj ps) (.obj (setMember "containers" x ps))) :
    Leaves nb nb' (some x) where
  containers := by rw [hreplaced.hasPodSpec.opens.at?, lookup_setMember_self]
  elsewhere := h.changedWithin (List.cons_ne_nil ([.member "containers"] : Place) [])
    (sameBut_put rfl).changedWithin hreplaced

/-- How the work can end, and what is left of the notebook then. -/
inductive Resolves (h : Host σ) (operatorNamespace : String) (s : σ) (nb : Notebook) :
    EStateM.Result Trouble (Notebook × σ) Unit → Prop where
  /-- Trouble stops the look-up. -/
  | raised {trouble : Trouble} {nb' : Notebook} {t : σ}
    (hleft : Leaves nb nb' (nb.at? (podSpecPlace "containers"))) :
    Resolves h operatorNamespace s nb (.error trouble (nb', t))
  /-- There is a reason to keep the image. -/
  | kept {nb' : Notebook} {t : σ} (hreason : KeepsImage h operatorNamespace s t nb)
    (hleft : Leaves nb nb' (nb.at? (podSpecPlace "containers"))) :
    Resolves h operatorNamespace s nb (.ok () (nb', t))
  /-- The image that was picked is put in, and the variable for it is set. -/
  | picked {nb' : Notebook} {t : σ} {name c c' reference selection : Doc} {cs : List Doc} {i : Nat}
    (hprimary : HasPrimary nb name cs i c) (hfinal : isFinal c = .ok false)
    (hfound : LooksUp h operatorNamespace s t nb selection (some reference))
    (hfit : ∀ env, c.at? [.member "env"] = some env → ¬ Unfit env)
    (hputs : Puts reference selection c c') (hleft : Leaves nb nb' (some (.arr (cs.set i c')))) :
    Resolves h operatorNamespace s nb (.ok () (nb', t))
  /-- The image that was picked is put in, and its variable cannot be looked for. -/
  | unfit {fault : Fault} {nb' : Notebook} {t : σ} {name c c' env reference selection : Doc}
    {cs : List Doc} {i : Nat}
    (hprimary : HasPrimary nb name cs i c) (hfinal : isFinal c = .ok false)
    (hfound : LooksUp h operatorNamespace s t nb selection (some reference))
    (henv : c.at? [.member "env"] = some env) (hunfit : Unfit env)
    (himage : c.put "image" reference = .ok c')
    (hleft : Leaves nb nb' (some (.arr (cs.set i c')))) :
    Resolves h operatorNamespace s nb (.error (.fault fault) (nb', t))

theorem write_cases (hspec : nb.HasPodSpec (.obj ps)) (hprimary : Primary name ps cs i c)
    (himage : c.put "image" reference = .ok c') (selection : Doc) (t : σ) :
    ∃ put : Doc → Notebook,
      (∀ d, PodSpecReplaced nb (put d) (.obj ps)
        (.obj (setMember "containers" (.arr (cs.set i d)) ps))) ∧
      nb.modifyContainer i (putImage reference selection) =
        (putVariableIn selection c').map put ∧
      (InPlace.edit (·.modifyContainer i (·.put "image" reference)) >>= fun _ =>
          InPlace.edit (·.modifyContainer i (putVariableIn selection))) (nb, t) =
        match putVariableIn selection c' with
        | .ok d => .ok () (put d, t)
        | .error fault => .error (.fault fault) (put c', t) := by
  obtain ⟨put, hput, hmodify⟩ := hspec.modifyContainer_eq hprimary
  refine ⟨put, hput, by rw [hmodify, putImage_eq himage], ?_⟩
  have hprimary' := hprimary.replace ((sameBut_put himage).read (by decide))
  obtain ⟨put', hput', hmodify'⟩ := (hput c').hasPodSpec.modifyContainer_eq hprimary'
  -- The second edit starts from what the first one has left.
  have hsame : ∀ d, put' d = put d := by
    intro d
    have hreplaced := hput' d
    rw [List.set_set, setMember_setMember] at hreplaced
    exact (hput d).unique ((hput c').trans hreplaced)
  have hfirst : nb.modifyContainer i (·.put "image" reference) = .ok (put c') := by
    rw [hmodify, himage]
    rfl
  rw [InPlace.edit_seq_ok hfirst]
  cases hvariable : putVariableIn selection c' with
  | ok d => exact InPlace.edit_ok (by rw [hmodify', hvariable, ← hsame]; rfl)
  | error fault => exact InPlace.edit_error (by rw [hmodify', hvariable]; rfl)

theorem resolves_write (hopens : nb.Opens nb₀ ps) (hthere : HasPrimary nb name cs i c)
    (hprimary : Primary name ps cs i c) (hfinal : isFinal c = .ok false) (t : σ)
    (hfound : LooksUp h operatorNamespace s t nb selection (some reference)) :
    ∃ r, (InPlace.edit (·.modifyContainer i (·.put "image" reference)) >>= fun _ =>
        InPlace.edit (·.modifyContainer i (putVariableIn selection))) (nb₀, t) = r ∧
      InPlace.outcome r =
        ((liftM (nb₀.modifyContainer i (putImage reference selection)) : Action Notebook).run h t) ∧
      Resolves h operatorNamespace s nb r := by
  obtain ⟨_, hread, -⟩ := bind_eq_ok_iff.mp hfinal
  obtain ⟨ms, rfl, -⟩ := read_eq_ok_iff.mp hread
  have himage : (Doc.obj ms).put "image" reference = .ok (.obj (setMember "image" reference ms)) := rfl
  have hfails := putVariableIn_fails_iff himage selection
  obtain ⟨put, hput, hresolve, hwrite⟩ := write_cases hopens.hasPodSpec hprimary himage selection t
  refine ⟨_, hwrite, ?_⟩
  rw [hresolve, Action.run_liftM_fault]
  cases hvariable : putVariableIn selection (.obj (setMember "image" reference ms)) with
  | error fault =>
    obtain ⟨env, hthere', hunfit⟩ := hfails.mp ⟨fault, hvariable⟩
    exact ⟨rfl, .unfit hthere hfinal hfound hthere' hunfit himage
      (leaves_of_replaced hopens (hput _))⟩
  | ok c' =>
    have hfit : ∀ env, (Doc.obj ms).at? [.member "env"] = some env → ¬ Unfit env :=
      fun env hthere' hunfit => by
        obtain ⟨_, hfault⟩ := hfails.mpr ⟨env, hthere', hunfit⟩
        cases hvariable.symm.trans hfault
    have hputs := puts_of_putImage ((putImage_eq himage).trans hvariable)
    exact ⟨rfl, .picked hthere hfinal hfound hfit hputs (leaves_of_replaced hopens (hput c'))⟩

theorem final_eq (hcontainer : nb.container i = .ok c) :
    (do ((← (← nb.container i).read "image").orElse "").contains clusterRegistry) = isFinal c := by
  rw [hcontainer]
  rfl

theorem pickInPlace_of_found (hcontainer : nb.container i = .ok c) (hfinal : isFinal c = .ok false)
    (hlookUp : (lookUp operatorNamespace selection).run h s = (.ok (some reference), t)) :
    pickInPlace h operatorNamespace selection i (nb, s) =
      (InPlace.edit (·.modifyContainer i (·.put "image" reference)) >>= fun _ =>
        InPlace.edit (·.modifyContainer i (putVariableIn selection))) (nb, t) := by
  unfold pickInPlace
  rw [InPlace.look_seq_ok ((final_eq hcontainer).trans hfinal), if_neg Bool.false_ne_true,
    InPlace.ask_seq, hlookUp]

/-- **Unfit variables end the work half way.** When the image that was picked is found, and the
variables of the container cannot be gone through, the image has been put in by then, and nothing
else has changed. -/
theorem resolve_unfit (hselection : nb.annotationValue AnnotationKey.imageSelection = .ok selection)
    (hpicked : selection ≠ .null) (hthere : HasPrimary nb name cs i c)
    (hfinal : isFinal c = .ok false)
    (hlookUp : (lookUp operatorNamespace selection).run h s = (.ok (some reference), t))
    {env : Doc} (henv : c.at? [.member "env"] = some env) (hunfit : Unfit env) :
    ∃ fault nb' c', resolveInPlace h operatorNamespace (nb, s) = .error (.fault fault) (nb', t) ∧
      c.put "image" reference = .ok c' ∧ Leaves nb nb' (some (.arr (cs.set i c'))) := by
  obtain ⟨ps, hopens⟩ := opens_of_at? hthere.containers
  have hprimary := hthere.primary.primary ((hopens.at? "containers").symm.trans hthere.containers)
  have hindex := (hopens.primaryIndex? hthere.named).trans hprimary.primaryIn?
  obtain ⟨ms, _, rfl, hms, -⟩ := at?_member_eq_some henv
  have himage : (Doc.obj ms).put "image" reference = .ok (.obj (setMember "image" reference ms)) := rfl
  obtain ⟨fault, hfault⟩ := (putVariableIn_fails_iff himage selection).mpr ⟨env, henv, hunfit⟩
  obtain ⟨put, hput, -, hwrite⟩ := write_cases hopens.hasPodSpec hprimary himage selection t
  rw [hfault] at hwrite
  refine ⟨fault, _, _, ?_, himage, leaves_of_replaced hopens (hput _)⟩
  unfold resolveInPlace
  rw [InPlace.look_seq_ok hselection, if_neg hpicked, InPlace.look_seq_ok hthere.named,
    InPlace.edit_seq_ok hopens.ensure, InPlace.look_seq_ok hindex]
  exact (pickInPlace_of_found (container_eq hopens.hasPodSpec hprimary) hfinal hlookUp).trans hwrite

theorem resolves_pickInPlace (s : σ) (hopens : nb.Opens nb₀ ps) (hname : nb.name = .ok name)
    (hprimary : Primary name ps cs i c)
    (hselection : nb.annotationValue AnnotationKey.imageSelection = .ok selection) :
    ∃ r, pickInPlace h operatorNamespace selection i (nb₀, s) = r ∧
      InPlace.outcome r = (Admission.pickImage operatorNamespace selection i nb₀).run h s ∧
      Resolves h operatorNamespace s nb r := by
  have hcontainer := container_eq hopens.hasPodSpec hprimary
  have hthere : HasPrimary nb name cs i c :=
    ⟨hname, by rw [hopens.at?, hprimary.containers], hprimary.isPrimary⟩
  have hleft := leaves_of_opens hopens
  have hlook := final_eq hcontainer
  rw [Admission.pickImage_eq hcontainer]
  unfold pickInPlace
  cases hfinal : isFinal c with
  | error fault =>
    rw [hfinal] at hlook
    exact ⟨_, InPlace.look_seq_error hlook _, rfl, .raised hleft⟩
  | ok final =>
  rw [hfinal] at hlook
  rw [InPlace.look_seq_ok hlook, Action.liftM_ok_seq]
  cases final with
  | true => exact ⟨_, rfl, rfl, .kept (.final hthere hfinal) hleft⟩
  | false =>
  rw [if_neg Bool.false_ne_true, if_neg Bool.false_ne_true, InPlace.ask_seq, Action.run_seq]
  rcases hrun : (lookUp operatorNamespace selection).run h s with ⟨trouble | found, t⟩
  · exact ⟨_, rfl, rfl, .raised hleft⟩
  have hfound := looksUp_of_run hselection hrun
  cases found with
  | none => exact ⟨_, rfl, rfl, .kept (.unknown hfound) hleft⟩
  | some reference => exact resolves_write hopens hthere hprimary hfinal t hfound

/-- **The image of a notebook is put in in place.** The work comes to what the notebook is said to
come to, and in each case it is known what is left of it. -/
theorem resolves_run (h : Host σ) (operatorNamespace : String) (s : σ) (nb : Notebook) :
    ∃ r, resolveInPlace h operatorNamespace (nb, s) = r ∧
      InPlace.outcome r = (resolve operatorNamespace nb).run h s ∧
      Resolves h operatorNamespace s nb r := by
  unfold resolveInPlace resolve
  cases hselection : nb.annotationValue AnnotationKey.imageSelection with
  | error fault => exact ⟨_, InPlace.look_seq_error hselection _, rfl, .raised (.refl nb)⟩
  | ok selection =>
  rw [InPlace.look_seq_ok hselection, Action.liftM_ok_seq]
  split
  · next hnull =>
    subst hnull
    exact ⟨_, rfl, rfl, .kept (.unpicked hselection) (.refl nb)⟩
  cases hname : nb.name with
  | error fault =>
    have hindex : nb.primaryIndex? = .error fault := by
      rw [primaryIndex?, hname]
      rfl
    rw [hindex]
    exact ⟨_, InPlace.look_seq_error hname _, rfl, .raised (.refl nb)⟩
  | ok name =>
  rw [InPlace.look_seq_ok hname]
  cases hensure : nb.ensurePodSpec with
  | error fault =>
    have hindex : nb.primaryIndex? = .error fault := by
      rw [primaryIndex?, hname, ok_bind, containers, podSpec, hensure]
      rfl
    rw [hindex]
    exact ⟨_, InPlace.edit_seq_error hensure _, rfl, .raised (.refl nb)⟩
  | ok nb₀ =>
  rw [InPlace.edit_seq_ok hensure]
  obtain ⟨hleft, hsame⟩ := leaves_of_ensurePodSpec hname hensure
  cases hindex : nb.primaryIndex? with
  | error fault => exact ⟨_, InPlace.look_seq_error (hsame.trans hindex) _, rfl, .raised hleft⟩
  | ok primary? =>
  rw [InPlace.look_seq_ok (hsame.trans hindex), Action.liftM_ok_seq, Action.liftM_ok_seq]
  cases primary? with
  | none => exact ⟨_, rfl, rfl, .kept (.nameless hindex) hleft⟩
  | some i =>
  obtain ⟨_, ps, hopens⟩ := opens_of_primaryIndex? hindex
  cases hensure.symm.trans hopens.ensure
  rw [hopens.primaryIndex? hname] at hindex
  obtain ⟨cs, c, hprimary⟩ := primary_of_primaryIn? hindex
  exact resolves_pickInPlace s hopens hname hprimary hselection

end Runs

/-- **The image of a notebook is picked rightly, and unfit variables apart it is put in wholly or not
at all.** Of items that are objects the newest one counts, the first one when several are from one
instant. Whatever ends the look-up leaves the containers as they are, and so does a reason to keep the
image. Otherwise the container of the notebook gets the image that the selection stands for, its first
variable for the image is the selection, and nothing else changes. When its variables cannot be gone
through it gets the image alone, and the work ends in trouble. -/
theorem resolve_picks_or_keeps {σ : Type} (h : Host σ) (s : σ) (operatorNamespace : String)
    (nb : Notebook) :
    (∀ items : List Doc, (∃ found, newest? items = .ok found ∧ NewestOf items found) ↔
      ∀ item ∈ items, item.isObj = true) ∧
    InPlace.outcome (resolveInPlace h operatorNamespace (nb, s)) =
      (resolve operatorNamespace nb).run h s ∧
    Resolves h operatorNamespace s nb (resolveInPlace h operatorNamespace (nb, s)) := by
  obtain ⟨_, rfl, hresolves⟩ := resolves_run h operatorNamespace s nb
  exact ⟨fun _ => ⟨fun ⟨_, hfound, _⟩ => isObj_of_newest? hfound, exists_newest?⟩, hresolves⟩

open Admission

/-- The guest picks the second version of its image. -/
theorem resolve_guest_picks : ∃ nb' t,
    resolveInPlace Memory.host "opendatahub" (guestNotebook "wb", imageCluster) = .ok () (nb', t) ∧
    (resolve "opendatahub" (guestNotebook "wb")).run Memory.host imageCluster = (.ok nb', t) ∧
    nb'.at? (podSpecPlace "containers") =
      some (.arr [databaseContainer, .obj [("name", "wb"), ("image", "lab-2")]]) ∧
    Resolves Memory.host "opendatahub" imageCluster (guestNotebook "wb") (.ok () (nb', t)) := by
  have hcontainers : ((resolve "opendatahub" (guestNotebook "wb")).run Memory.host
      imageCluster).1.map (·.at? (podSpecPlace "containers")) =
        .ok (some (.arr [databaseContainer, .obj [("name", "wb"), ("image", "lab-2")]])) := by
    decide +kernel
  obtain ⟨-, houtcome, hresolves⟩ :=
    resolve_picks_or_keeps Memory.host imageCluster "opendatahub" (guestNotebook "wb")
  rw [← houtcome] at hcontainers ⊢
  rcases hrun : resolveInPlace Memory.host "opendatahub" (guestNotebook "wb", imageCluster)
    with ⟨⟨⟩, nb', t⟩ | ⟨trouble, nb', t⟩
  · rw [hrun] at hcontainers hresolves
    exact ⟨nb', t, rfl, rfl, Except.ok.inj hcontainers, hresolves⟩
  · rw [hrun] at hcontainers
    cases hcontainers

/-- A notebook with a text among the variables of its container. -/
def unfitNotebook : Notebook :=
  .obj [
    ("metadata", .obj [
      ("name", "wb"),
      ("namespace", "ns"),
      ("annotations", .obj [(AnnotationKey.imageSelection, "lab:2")])]),
    ("spec", .obj [("template", .obj [("spec", .obj [
      ("containers", .arr [.obj [("name", "wb"), ("image", "lab-1"), ("env", .arr ["x"])]])])])])]

/-- **An item that is no object has no newest image, and a text among the variables leaves the image
put in**: the work on that notebook ends in trouble with other containers. -/
theorem resolve_unfit_halfway : newest? ["x"] = .error .wrongShape ∧
    ∃ fault nb' t,
      resolveInPlace Memory.host "opendatahub" (unfitNotebook, imageCluster) =
        .error (.fault fault) (nb', t) ∧
      unfitNotebook.at? (podSpecPlace "containers") =
        some (.arr [.obj [("name", "wb"), ("image", "lab-1"), ("env", .arr ["x"])]]) ∧
      nb'.at? (podSpecPlace "containers") =
        some (.arr [.obj [("name", "wb"), ("image", "lab-2"), ("env", .arr ["x"])]]) := by
  have hlookUp : ((lookUp "opendatahub" "lab:2").run Memory.host imageCluster).1 =
      .ok (some "lab-2") := by decide +kernel
  have hthere : HasPrimary unfitNotebook "wb"
      [.obj [("name", "wb"), ("image", "lab-1"), ("env", .arr ["x"])]] 0
      (.obj [("name", "wb"), ("image", "lab-1"), ("env", .arr ["x"])]) := ⟨rfl, rfl, rfl, rfl⟩
  have hunfit : Unfit (.arr ["x"]) :=
    ⟨rfl, fun _ hds => Doc.arr.inj hds ▸ ⟨[], "x", [], rfl, by simp, rfl⟩⟩
  obtain ⟨fault, nb', c', hend, himage, hleft⟩ := resolve_unfit (by decide) (by decide) hthere
    (by decide) (Prod.ext hlookUp rfl) rfl hunfit
  cases himage
  exact ⟨rfl, fault, nb', _, hend, rfl, hleft.containers⟩

end Image

end Workbench
