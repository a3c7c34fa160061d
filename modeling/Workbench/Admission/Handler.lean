import Workbench.Admission.Answer
import Workbench.Admission.Image
import Workbench.Admission.RestartGuard
import Workbench.Settings
import Workbench.Sidecar
import Workbench.TrustBundle.Mount
import Workbench.TrustBundle.Publish

/-!
# Admission of notebooks

Every new notebook and every change of one passes the operator first. It holds new notebooks back,
puts in the image that was picked, the trusted bundle and the sign-in proxy, and has the restart
guard look at the result.

* `Admission.mountBundle`: the notebook with the bundle, when the namespace has one;
* `Admission.edit`: all edits, before the guard;
* `Admission.settle`: the notebook after the guard's decision;
* `Admission.handle`: the answer to a request;
* `Admission.review`: the same for a request inside a review.
-/

namespace Workbench.Admission

/-! ## Edits -/

/-- A new notebook, held back until its objects are there. -/
def holdBack (nb : Notebook) : Except Fault Notebook :=
  nb.annotate AnnotationKey.stopped AnnotationKey.lockValue

/-- The notebook with the bundle, when the platform provides certificates and they are merged. -/
def mountBundle (nb : Notebook) : Action Notebook := do
  let ns ← nb.namespace'
  if !(← Action.exists? (TrustBundle.configMapAt ns TrustBundle.platformConfigMap)) then return nb
  if !(← Action.exists? (TrustBundle.configMapAt ns bundleConfigMap)) then return nb
  TrustBundle.mount nb

/-- The operation makes or changes a notebook. -/
def writes (operation : Doc) : Bool :=
  operation = RestartGuard.createOperation || operation = RestartGuard.updateOperation

/-- The notebook with its image and its bundle. -/
def editContainers (settings : Settings) (nb : Notebook) : Action Notebook := do
  mountBundle (← Image.resolve settings.ns nb)

/-- The notebook with the sign-in proxy when it asks for it; none when it asks for the mesh, too. -/
def addSidecar (settings : Settings) (nb : Notebook) : Except Fault (Option Notebook) := do
  if !(← nb.oauthEnabled) then return some nb
  if ← nb.meshEnabled then return none
  return some (← Sidecar.inject settings.proxyImage nb)

/-- All edits of a notebook; none when it asks for sign-in and for the mesh. -/
def edit (settings : Settings) (operation : Doc) (nb : Notebook) : Action (Option Notebook) := do
  let nb ← if operation = RestartGuard.createOperation then holdBack nb else pure nb
  let nb ← if writes operation then editContainers settings nb else pure nb
  addSidecar settings nb

/-! ## The guard -/

/-- The notebook with a note of the edits that wait, and without one when none do. -/
def mark (decision : RestartGuard.Decision) (nb : Notebook) : Except Fault Notebook :=
  match decision with
  | .deferred reason => nb.annotate AnnotationKey.updatePending reason
  | .allow => do
    if ← nb.hasAnnotation AnnotationKey.updatePending then
      nb.dropAnnotation AnnotationKey.updatePending
    else return nb

/-- The notebook after the guard's decision. -/
def settle (operation : Doc) (old submitted edited : Notebook) : Except Fault Notebook := do
  let decision ← RestartGuard.decide operation old submitted edited
  mark decision (← RestartGuard.apply decision submitted edited)

/-! ## Requests -/

/-- Why a notebook with sign-in and with the mesh is not let in. -/
def bothWaysIn : String :=
  "Cannot have both " ++ AnnotationKey.serviceMesh ++ " and " ++ AnnotationKey.injectOAuth ++
    " set to true. Pick one."

/-- The object has a name. -/
def isNamed (object : Doc) : Except Fault Bool := do
  if !object.isObj then return false
  let metadata := (← object.read "metadata").orElse .empty
  return (← metadata.read "name").truthy

/-- The notebook with a namespace: the one of the request when it has none. -/
def fillNamespace (ns : Doc) (nb : Notebook) : Except Fault Notebook :=
  nb.modify "metadata" fun metadata => do
    if (← metadata.read "namespace").truthy then return metadata
    else metadata.put "namespace" ns

/-- What is said to a notebook. -/
def judge (settings : Settings) (operation : Doc) (old submitted nb : Notebook) :
    Action Verdict := do
  match ← edit settings operation nb with
  | none => return .denied bothWaysIn
  | some edited => return .admitted (← settle operation old submitted edited)

/-- A failure on the way is an error of the operator; other trouble ends the program. -/
def failed : Trouble → Action Verdict
  | .failure f => return .errored 500 f.text
  | t => throw t

/-- What is said to a request. -/
def verdict (settings : Settings) (request object : Doc) : Action Verdict := do
  let operation ← request.read "operation"
  if !(← isNamed object) then return .errored 400 "request does not contain a Notebook object"
  let old ← request.read "oldObject"
  if operation = RestartGuard.updateOperation && !old.isObj then
    return .errored 400 "update request does not contain the old Notebook object"
  let nb ← fillNamespace (← request.read "namespace") object
  Action.rescue (judge settings operation old object nb) failed

/-- The answer to a request. -/
def handle (settings : Settings) (request : Doc) : Action Answer := do
  let uid := ((← request.members).lookup "uid").getD ""
  let object ← request.read "object"
  return { uid, submitted := object, verdict := ← verdict settings request object }

/-! ## Reviews -/

/-- An answer, and the version of the interface that it was asked in. -/
structure Review where
  apiVersion : Doc
  answer : Answer

/-- The review around a response. -/
def Review.around (r : Review) (response : Doc) : Doc :=
  .obj [
    ("apiVersion", r.apiVersion),
    ("kind", "AdmissionReview"),
    ("response", response)]

/-- The review as it is sent. -/
def Review.toDoc (r : Review) : Doc := r.around r.answer.response.toDoc

/-- The answer to a review that carries no request. -/
def missingRequest : Answer where
  uid := ""
  submitted := .null
  verdict := .errored 400 "No request information provided"

/-- The answer to a review. -/
def review (settings : Settings) (body : Doc) : Action Review := do
  let request ← body.read "request"
  let answer ← if request.isObj then handle settings request else pure missingRequest
  let apiVersion := ((← body.members).lookup "apiVersion").getD "admission.k8s.io/v1"
  return { apiVersion, answer }

end Workbench.Admission
