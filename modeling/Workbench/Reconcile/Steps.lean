import Workbench.Doc.MergePatch
import Workbench.Reconcile.Drift
import Workbench.Settings
import Workbench.TrustBundle.Mount
import Workbench.TrustBundle.Publish

/-!
# The steps of a reconcile

A notebook is brought into its wanted state in steps, each over what hangs off it.

* `Reconcile.policies`: the network policies;
* `Reconcile.roleBinding`: the right to run pipelines;
* `Reconcile.oauthObjects`, `Reconcile.plainRoute`: the way in, with sign-in and without;
* `Reconcile.bundleIsGone`, `Reconcile.dropBundle`: a notebook that mounts a bundle that is not there
  any more;
* `Reconcile.release`: the end of the hold that admission put on a new notebook.
-/

namespace Workbench

/-- Where a notebook is kept. -/
def Notebook.address (nb : Notebook) : Except Fault Address := do
  return ⟨notebookKind, ← nb.namespace', ← nb.name⟩

namespace Reconcile

/-! ## Network policies -/

/-- The policies for the notebook's port and, unless it is behind the mesh, for the port of the
sign-in proxy. -/
def policies (nb : Notebook) (operatorNamespace : String) : Action Unit := do
  discard (nb.address : Except Fault Address)
  let owner ← nb.owner
  discard (converge .policy (Resource.notebookPolicy owner operatorNamespace))
  if !(← nb.meshEnabled) then
    discard (converge .policy (Resource.oauthPolicy owner))

/-! ## Rights -/

/-- A role binding with another role is removed: its role cannot be changed. -/
def removeStaleBinding (address : Address) : Action Unit := do
  match ← Action.find? address with
  | none => return
  | some found =>
    if (← found.read "roleRef").equivalent Resource.pipelineRoleRef then return
    Action.delete address

/-- The role for pipelines, bound to the account of the notebook, when the role is there. -/
def roleBinding (nb : Notebook) : Action Unit := do
  let ns ← nb.namespace'
  if !(← Action.exists? ⟨"Role", ns, pipelineRole⟩) then return
  let desired := Resource.roleBinding (← nb.owner)
  removeStaleBinding (← desired.address)
  discard (converge .binding desired)

/-! ## The way in -/

/-- The objects that the sign-in proxy works with. -/
def oauthObjects (owner : Owner) (cookieKey : List UInt8) : List Doc := [
  Resource.serviceAccount owner,
  Resource.service owner,
  Resource.secret owner cookieKey,
  Resource.oauthRoute owner]

/-- Each of some objects, made when it is missing. -/
def createMissing : List Doc → Action Unit
  | [] => return
  | d :: ds => do
    discard (makeIfMissing d)
    createMissing ds

/-- The objects that the sign-in proxy works with, made when they are missing. -/
def oauth (nb : Notebook) (cookieKey : Owner → List UInt8) : Action Unit := do
  let owner ← nb.owner
  createMissing (oauthObjects owner (cookieKey owner))

/-- The route straight to the notebook. -/
def plainRoute (nb : Notebook) : Action Unit := do
  discard (converge .route (Resource.plainRoute (← nb.owner)))

/-! ## The trusted bundle -/

/-- The merged bundle of the namespace is not there, and the notebook mounts it. -/
def bundleIsGone (nb : Notebook) : Action Bool := do
  let ns ← nb.namespace'
  if ← Action.exists? (TrustBundle.configMapAt ns bundleConfigMap) then return false
  if !(← nb.usesConfigMap bundleConfigMap) then return false
  discard (nb.name : Except Fault Doc)
  return true

/-- The bundle taken out of the notebook, by a patch of what changes. -/
def dropBundle (nb : Notebook) : Action Unit := do
  let address ← nb.address
  let (changed, without) ← TrustBundle.unmount nb
  if !changed then return
  Action.patch address (.obj (mergePatch (← nb.members) (← without.members)))

/-! ## The hold -/

/-- The waits for a pull secret. -/
def pullSecretWaits : List Nat := [1000, 5000]

/-- The account of the notebook has a pull secret. -/
def checkPullSecret (address : Address) : Action Unit := do
  let account ← Action.get ⟨"ServiceAccount", address.ns, address.name⟩
  if (← account.read "imagePullSecrets").truthy then return
  throw (.failure (.noPullSecret
    ("pull secret not mounted on " ++ address.ns.display ++ "/" ++ address.name.display)))

/-- A failure that time may mend. Cancellation is none. -/
def isPassing (t : Trouble) : Bool := t.isFailure && !t.isCancelled

/-- A wait for the pull secret that gives up after some tries. -/
def awaitPullSecret (address : Address) : Action Unit :=
  Action.except (Action.retrying isPassing (checkPullSecret address) pullSecretWaits) isPassing
    (return)

/-- The patch that drops the annotation by which the notebook is held. -/
def releasePatch : Doc :=
  .obj [("metadata", .obj [("annotations", .obj [(AnnotationKey.stopped, .null)])])]

/-- The notebook let go once its account has a pull secret, or nobody waits for that any longer. -/
def release (nb : Notebook) : Action Unit := do
  let address ← nb.address
  awaitPullSecret address
  Action.patch address releasePatch

end Reconcile

end Workbench
