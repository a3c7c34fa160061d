import Workbench.Cluster.Action
import Workbench.Notebook
import Workbench.TrustBundle.Publish

/-!
# Changes that reach notebooks

A config map with certificates or an object of a notebook changes, and notebooks have to be
reconciled again. Each gets an annotation with the time, and that change of the notebook itself
starts its reconcile.

* `Request`: a notebook to be reconciled;
* `FanOut.forConfigMap`, `FanOut.forOwned`: the notebooks that a change reaches;
* `FanOut.trigger`: the annotation set on each, and the notebooks that could not be annotated.
-/

namespace Workbench

/-- A notebook to be reconciled, by its namespace and name. -/
structure Request where
  ns : Doc
  name : Doc
  deriving DecidableEq

/-- Where the notebook is kept. -/
def Request.address (r : Request) : Address := ⟨notebookKind, r.ns, r.name⟩

namespace FanOut

/-! ## Which notebooks -/

/-- The config maps with certificates. -/
def watchedConfigMaps : List String := [
  TrustBundle.platformConfigMap,
  TrustBundle.clusterRootConfigMap,
  bundleConfigMap]

/-- The notebooks of a namespace that mount the merged bundle. -/
def mounting (ns : Doc) : (notebooks : List Doc) → Except Fault (List Request)
  | [] => return []
  | nb :: rest => do
    if ← Notebook.usesConfigMap nb bundleConfigMap then
      let name ← Notebook.name nb
      return ⟨ns, name⟩ :: (← mounting ns rest)
    else mounting ns rest

/-- The first notebook of a namespace. -/
def first (ns : Doc) : (notebooks : List Doc) → Except Fault (List Request)
  | [] => return []
  | nb :: _ => do return [⟨ns, ← Notebook.name nb⟩]

/-- The notebooks of a namespace, none when they cannot be listed. -/
def notebooksOf (ns : Doc) : Action Doc :=
  Action.except (Action.list notebookKind ns) Trouble.isFailure (return .arr [])

/-- The notebooks that a change of a config map reaches. The merged bundle is read by whoever mounts
it; a source of it is merged by any one notebook for the whole namespace. -/
def forConfigMap (configMap : Doc) : Action (List Request) := do
  let metadata ← configMap.require "metadata"
  let name ← metadata.require "name"
  let ns ← metadata.require "namespace"
  if !(watchedConfigMaps.any fun watched => name = .str watched) then return []
  let notebooks ← (← notebooksOf ns).elements
  if name = .str bundleConfigMap then mounting ns notebooks else first ns notebooks

/-- A reference to a notebook that controls the object. -/
def isController (reference : Doc) : Except Fault Bool := do
  if !((← reference.read "kind").looseEq notebookKind) then return false
  let version := notebookGroup ++ "/" ++ notebookVersion
  if !((← reference.read "apiVersion").looseEq version) then return false
  return (← reference.read "controller").truthy

/-- The first reference to a notebook that controls the object. -/
def controller? : (references : List Doc) → Except Fault (Option Doc)
  | [] => return none
  | r :: rest => do if ← isController r then return some r else controller? rest

/-- The notebook that an object belongs to. -/
def forOwned (object : Doc) : Except Fault (List Request) := do
  let metadata := (← object.read "metadata").orElse .empty
  let references := (← metadata.read "ownerReferences").orElse (.arr [])
  match ← controller? (← references.elements) with
  | none => return []
  | some reference => return [⟨← metadata.require "namespace", ← reference.require "name"⟩]

/-! ## How they are told -/

/-- The patch that sets the annotation. -/
def stampPatch (stamp : String) : Doc :=
  .obj [("metadata", .obj [("annotations", .obj [(AnnotationKey.reconcileRequested, stamp)])])]

/-- The waits between two tries for one notebook. -/
def stampWaits : List Nat := [200, 400]

/-- A failure of the cluster other than that the notebook is gone. -/
def mayRecover : Trouble → Bool
  | .failure f => f.ofCluster && !(Trouble.failure f).isNotFound
  | _ => false

/-- The annotation set on one notebook. A notebook that is gone needs none; says whether it could not
be set on one that may be there. -/
def stampFails (stamp : String) (request : Request) : Action Bool :=
  Action.except
    (Action.except
      (do
        Action.retrying mayRecover (Action.patch request.address (stampPatch stamp)) stampWaits
        return false)
      Trouble.isNotFound (return false))
    Trouble.isFailure (return true)

/-- The annotation set on each notebook. Returns those that it could not be set on. -/
def trigger (stamp : String) : List Request → Action (List Request)
  | [] => return []
  | request :: rest => do
    let fails ← stampFails stamp request
    let others ← trigger stamp rest
    return if fails then request :: others else others

end FanOut

end Workbench
