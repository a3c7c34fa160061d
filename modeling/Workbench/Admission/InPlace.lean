import Workbench.Admission.Image

/-!
# Work in place

The operator edits a copy of the submitted notebook, which it changes in place, one edit after the
other. Trouble ends the work, and leaves the copy with the edits that were made by then.

* `InPlace`: programs that change a notebook in place, next to a cluster;
* `InPlace.look`, `InPlace.edit`, `InPlace.ask`: what such programs are made of;
* `InPlace.outcome`: the notebook that the work comes to, which is given up in trouble;
* `InPlace.look_seq_ok`, `InPlace.edit_seq_ok`, `InPlace.ask_seq` and the like: runs of such programs;
* `Image.resolveInPlace`: the image that was picked, put into a notebook in place.
-/

namespace Workbench

/-- A program that changes a notebook in place, next to a cluster. Trouble ends it with both of them
as they are then. -/
abbrev InPlace (σ : Type) := EStateM Trouble (Notebook × σ)

namespace InPlace

variable {σ α : Type}

/-- What the notebook says as it is now. -/
def look (f : Notebook → Except Fault α) : InPlace σ α := fun (nb, s) =>
  match f nb with
  | .ok v => .ok v (nb, s)
  | .error fault => .error (.fault fault) (nb, s)

/-- A single edit, which is made wholly or not at all. -/
def edit (f : Notebook → Except Fault Notebook) : InPlace σ Unit := fun (nb, s) =>
  match f nb with
  | .ok nb' => .ok () (nb', s)
  | .error fault => .error (.fault fault) (nb, s)

/-- A program that talks to the cluster. -/
def ask (h : Host σ) (a : Action α) : InPlace σ α := fun (nb, s) =>
  match a.run h s with
  | (.ok v, t) => .ok v (nb, t)
  | (.error trouble, t) => .error trouble (nb, t)

/-- The notebook that the work comes to. In trouble what was done to it is given up. -/
def outcome : EStateM.Result Trouble (Notebook × σ) Unit → Except Trouble Notebook × σ
  | .ok _ (nb, s) => (.ok nb, s)
  | .error trouble (_, s) => (.error trouble, s)

section Runs

variable {β : Type} {nb nb' : Notebook} {s : σ} {v : α} {fault : Fault} {h : Host σ}

theorem look_seq_ok {f : Notebook → Except Fault α} (hf : f nb = .ok v) (g : α → InPlace σ β) :
    (look f >>= g) (nb, s) = g v (nb, s) := by
  change EStateM.bind _ _ _ = _
  simp only [EStateM.bind, look, hf]

theorem look_seq_error {f : Notebook → Except Fault α} (hf : f nb = .error fault)
    (g : α → InPlace σ β) : (look f >>= g) (nb, s) = .error (.fault fault) (nb, s) := by
  change EStateM.bind _ _ _ = _
  simp only [EStateM.bind, look, hf]

theorem edit_ok {f : Notebook → Except Fault Notebook} (hf : f nb = .ok nb') :
    edit f (nb, s) = .ok () (nb', s) := by
  simp only [edit, hf]

theorem edit_error {f : Notebook → Except Fault Notebook} (hf : f nb = .error fault) :
    edit f (nb, s) = .error (.fault fault) (nb, s) := by
  simp only [edit, hf]

theorem edit_seq_ok {f : Notebook → Except Fault Notebook} (hf : f nb = .ok nb')
    (g : Unit → InPlace σ β) : (edit f >>= g) (nb, s) = g () (nb', s) := by
  change EStateM.bind _ _ _ = _
  simp only [EStateM.bind, edit_ok hf]

theorem edit_seq_error {f : Notebook → Except Fault Notebook} (hf : f nb = .error fault)
    (g : Unit → InPlace σ β) : (edit f >>= g) (nb, s) = .error (.fault fault) (nb, s) := by
  change EStateM.bind _ _ _ = _
  simp only [EStateM.bind, edit_error hf]

theorem ask_seq (a : Action α) (g : α → InPlace σ β) : (ask h a >>= g) (nb, s) =
    match a.run h s with
    | (.ok v, t) => g v (nb, t)
    | (.error trouble, t) => .error trouble (nb, t) := by
  change EStateM.bind _ _ _ = _
  unfold EStateM.bind ask
  dsimp only
  rcases a.run h s with ⟨trouble | v, t⟩ <;> rfl

end Runs

end InPlace

namespace Image

open InPlace

variable {σ : Type}

/-- The container with the variable for its image set, if it is there. -/
def putVariableIn (selection container : Doc) : Except Fault Doc := do
  let env ← container.read "env"
  if env.truthy then
    container.put "env" (.arr (← putVariable selection (← env.items)))
  else return container

/-- The image that was picked, put into the container at `i` in place. The image is written before
the variables are gone through. The variable is a single edit: what comes before it is only looked
at, and nothing comes after it. -/
def pickInPlace (h : Host σ) (operatorNamespace : String) (selection : Doc) (i : Nat) :
    InPlace σ Unit := do
  if ← look fun nb => do ((← (← nb.container i).read "image").orElse "").contains clusterRegistry
    then return
  match ← ask h (lookUp operatorNamespace selection) with
  | none => return
  | some reference =>
    edit (·.modifyContainer i (·.put "image" reference))
    edit (·.modifyContainer i (putVariableIn selection))

/-- The image that was picked, put into a notebook in place. Looking for the container creates the
pod template. -/
def resolveInPlace (h : Host σ) (operatorNamespace : String) : InPlace σ Unit := do
  let selection ← look (·.annotationValue AnnotationKey.imageSelection)
  if selection = .null then return
  let _ ← look Notebook.name
  edit Notebook.ensurePodSpec
  match ← look Notebook.primaryIndex? with
  | none => return
  | some i => pickInPlace h operatorNamespace selection i

end Image

end Workbench
