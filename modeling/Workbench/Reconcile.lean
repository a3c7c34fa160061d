import Workbench.Reconcile.Steps

/-!
# Reconciling a notebook

One run brings everything that hangs off a notebook into its wanted state. The steps have a fixed
order, and the first one that fails ends the run; the notebook is tried again later. The hold on a
new notebook is dropped last, so its pod starts with everything in place.

* `Reconciler`: what a run works with;
* `Reconciler.reconcile`: the run.
-/

namespace Workbench

/-- What a run works with: the settings, and where the keys of new cookies come from. -/
structure Reconciler where
  settings : Settings
  cookieKey : Owner → List UInt8

namespace Reconciler

open Reconcile

/-- The way in to a notebook: through the mesh, which others set up, through the sign-in proxy, or
straight to it. -/
def openWayIn (r : Reconciler) (nb : Notebook) : Action Unit := do
  if ← nb.meshEnabled then return
  if ← nb.oauthEnabled then oauth nb r.cookieKey else plainRoute nb

/-- The steps for a notebook, in order. -/
def steps (r : Reconciler) (nb : Notebook) : Action Unit := do
  TrustBundle.publish nb
  if ← bundleIsGone nb then dropBundle nb
  policies nb r.settings.ns
  if r.settings.pipelineAccess then roleBinding nb
  r.openWayIn nb
  if ← nb.isLocked then release nb

/-- One run for the notebook `name`. There is nothing to do when it is gone. -/
def reconcile (r : Reconciler) (ns name : Doc) : Action Unit := do
  match ← Action.find? ⟨notebookKind, ns, name⟩ with
  | none => return
  | some nb => r.steps nb

end Reconciler

end Workbench
