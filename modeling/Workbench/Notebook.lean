import Workbench.Doc.Access

/-!
# Notebooks

A notebook is an object of the cluster whose pod template runs a workbench. Its annotations steer
the operator.

* `Notebook.annotationValue`, `Notebook.hasAnnotation`, `Notebook.ensureAnnotations`: annotations;
* `parseFlag`: an annotation as a truth value;
* `Notebook.ensurePodSpec`, `Notebook.podSpec`: the pod template's specification, which is created
  when it is missing;
* `Notebook.primaryIndex?`: the container named like the notebook;
* `Notebook.usesConfigMap`: whether a volume is backed by a config map;
* `Notebook.templateSpec`: the specification as it stands, nothing created.
-/

namespace Workbench

/-- A notebook, as the cluster stores it. -/
abbrev Notebook := Doc

/-! ## Names -/

/-- The kind of notebooks. -/
def notebookKind : String := "Notebook"

/-- The group of the notebook interface. -/
def notebookGroup : String := "kubeflow.org"

/-- The version of the notebook interface. -/
def notebookVersion : String := "v1"

/-- The collection of notebooks. -/
def notebookPlural : String := "notebooks"

namespace AnnotationKey

/-- Asks for the sign-in proxy. -/
def injectOAuth : String := "notebooks.opendatahub.io/inject-oauth"

/-- Puts the notebook behind the service mesh. -/
def serviceMesh : String := "opendatahub.io/service-mesh"

/-- Where the proxy sends a user who signs out. -/
def logoutUrl : String := "notebooks.opendatahub.io/oauth-logout-url"

/-- The image that was picked, by name and tag. -/
def imageSelection : String := "notebooks.opendatahub.io/last-image-selection"

/-- Edits that wait for the next restart. -/
def updatePending : String := "notebooks.opendatahub.io/update-pending"

/-- Asks for a restart. -/
def restart : String := "notebooks.opendatahub.io/notebook-restart"

/-- Hands a notebook to its reconciler again. -/
def reconcileRequested : String := "notebooks.opendatahub.io/reconcile-requested"

/-- The notebook is stopped. -/
def stopped : String := "kubeflow-resource-stopped"

/-- The value of `stopped` by which the operator holds a new notebook back. -/
def lockValue : String := "odh-notebook-controller-lock"

end AnnotationKey

/-- The texts that mean true. -/
def trueWords : List String := ["1", "t", "T", "TRUE", "true", "True"]

/-- An annotation as a truth value: anything but the words for true is false. Lists and objects are
no values of annotations. -/
def parseFlag : Doc → Except Fault Bool
  | .str s => .ok (trueWords.contains s)
  | .arr _ => .error .wrongShape
  | .obj _ => .error .wrongShape
  | _ => .ok false

namespace Notebook

/-! ## Metadata -/

/-- The name; it has to be there. -/
def name (nb : Notebook) : Except Fault Doc := do (← nb.require "metadata").require "name"

/-- The namespace; it has to be there. -/
def namespace' (nb : Notebook) : Except Fault Doc := do
  (← nb.require "metadata").require "namespace"

/-- The annotations as they stand, the empty object when there are none. -/
def annotations (nb : Notebook) : Except Fault Doc := do
  return (← ((← nb.read "metadata").orElse .empty).read "annotations").orElse .empty

/-- The value of an annotation, null when it is not there. -/
def annotationValue (nb : Notebook) (key : String) : Except Fault Doc := do
  (← nb.annotations).read key

/-- An annotation is there, whatever its value. -/
def hasAnnotation (nb : Notebook) (key : String) : Except Fault Bool := do
  (← nb.annotations).contains key

/-- The notebook with annotations: they are created when they are missing or null. -/
def ensureAnnotations (nb : Notebook) : Except Fault Notebook := do
  let nb ← nb.ensure "metadata" .empty
  nb.modify "metadata" fun metadata => do
    if (← metadata.read "annotations") = .null then metadata.put "annotations" .empty
    else return metadata

/-- The notebook with an annotation set. -/
def annotate (nb : Notebook) (key value : String) : Except Fault Notebook := do
  (← nb.ensureAnnotations).modifyUnder ["metadata", "annotations"] (·.put key value)

/-- The notebook without an annotation. -/
def dropAnnotation (nb : Notebook) (key : String) : Except Fault Notebook := do
  nb.modifyUnder ["metadata", "annotations"] (·.remove key)

/-- The sign-in proxy is asked for. -/
def oauthEnabled (nb : Notebook) : Except Fault Bool := do
  parseFlag (← nb.annotationValue AnnotationKey.injectOAuth)

/-- The notebook is behind the service mesh. -/
def meshEnabled (nb : Notebook) : Except Fault Bool := do
  parseFlag (← nb.annotationValue AnnotationKey.serviceMesh)

/-- The operator holds the notebook back. -/
def isLocked (nb : Notebook) : Except Fault Bool := do
  return (← nb.annotationValue AnnotationKey.stopped).looseEq AnnotationKey.lockValue

/-! ## The pod template -/

/-- The way to the specification of the pod template. -/
def podSpecPath : List String := ["spec", "template", "spec"]

/-- The notebook with a pod template: the specification is created when it is missing or null. -/
def ensurePodSpec (nb : Notebook) : Except Fault Notebook := do
  let nb ← nb.ensure "spec" .empty
  nb.modify "spec" fun spec => do
    let spec ← spec.ensure "template" .empty
    spec.modify "template" fun template => do
      if (← template.read "spec") = .null then template.put "spec" .empty else return template

/-- The specification of the pod template, which has to be there. -/
def podSpecOf (nb : Notebook) : Except Fault Doc := do
  ((← ((← nb.require "spec").require "template")).require "spec")

/-- The specification of the pod template, empty when it would have to be created. -/
def podSpec (nb : Notebook) : Except Fault Doc := do
  (← nb.ensurePodSpec).podSpecOf

/-- An edit of the specification of the pod template, which has to be there. -/
def modifyPodSpec (edit : Doc → Except Fault Doc) (nb : Notebook) : Except Fault Notebook :=
  Doc.modifyUnder podSpecPath edit nb

/-- The containers, the empty list when there are none. -/
def containers (nb : Notebook) : Except Fault Doc := do
  return (← (← nb.podSpec).read "containers").orElse (.arr [])

/-- The index of the first entry with a name; none has the name that is not a number. -/
def indexOfName? (name : Doc) : List Doc → Except Fault (Option Nat)
  | [] => .ok none
  | d :: ds => do
    let found ← d.read "name"
    if found.looseEq name && !name.isUnordered then return some 0
    else return (← indexOfName? name ds).map (· + 1)

/-- The index of the container named like the notebook. -/
def primaryIndex? (nb : Notebook) : Except Fault (Option Nat) := do
  let name ← nb.name
  indexOfName? name (← (← nb.containers).elements)

/-- A container by its index. -/
def container (i : Nat) (nb : Notebook) : Except Fault Doc := do
  return (← (← nb.containers).elements).getD i .null

/-- The container named like the notebook. -/
def primaryContainer? (nb : Notebook) : Except Fault (Option Doc) := do
  match ← nb.primaryIndex? with
  | some i => return some (← nb.container i)
  | none => return none

/-- An edit of one item of a list. -/
def modifyItem (i : Nat) (edit : Doc → Except Fault Doc) (d : Doc) : Except Fault Doc := do
  let items ← d.items
  match items[i]? with
  | some item => return .arr (items.set i (← edit item))
  | none => return d

/-- An edit of one container. -/
def modifyContainer (i : Nat) (edit : Doc → Except Fault Doc) (nb : Notebook) :
    Except Fault Notebook :=
  nb.modifyPodSpec (·.modify "containers" (modifyItem i edit))

/-- A volume is backed by the config map `name`. -/
def isBackedBy (name volume : Doc) : Except Fault Bool := do
  let source ← volume.read "configMap"
  if source.truthy then return (← source.read "name").looseEq name else return false

/-- The first entry that `holds` of is there. -/
def anyEntry (holds : Doc → Except Fault Bool) : List Doc → Except Fault Bool
  | [] => .ok false
  | d :: ds => do if ← holds d then return true else anyEntry holds ds

/-- A volume of the notebook is backed by a config map. -/
def usesConfigMap (nb : Notebook) (name : Doc) : Except Fault Bool := do
  let volumes := (← (← nb.podSpec).read "volumes").orElse (.arr [])
  anyEntry (isBackedBy name) (← volumes.elements)

/-- The specification of the pod template as it stands, empty when a part of the way is. -/
def templateSpec (nb : Notebook) : Except Fault Doc := do
  let spec := (← (nb.orElse .empty).read "spec").orElse .empty
  let template := (← spec.read "template").orElse .empty
  return (← template.read "spec").orElse .empty

end Notebook

end Workbench
