import Workbench.Admission.Handler
import Workbench.Admission.Target

/-!
# The endpoint for admission requests

Reviews come in over HTTP, at one path and by one method.

* `Endpoint.Reply`: a status, and a review unless the request went astray;
* `Endpoint.reply`: the reply to a request.
-/

namespace Workbench.Endpoint

/-- The path for reviews. -/
def path : String := "/mutate-notebook-v1"

/-- The method for reviews. -/
def method : String := "POST"

/-- What is sent back. -/
structure Reply where
  status : Nat
  review? : Option Admission.Review

/-- The document in a body: UTF-8, and one document. -/
def document? (body : ByteArray) : Option Doc := (String.fromUTF8? body).bind Doc.parse?

/-- The reply to a request. A body without a document is answered as a review without a request, and
so is a document that is no object. -/
def reply (settings : Settings) (requestMethod target : String) (body : ByteArray) :
    Action Reply := do
  if (Target.ofText target).location ≠ path.toList then return ⟨404, none⟩
  if requestMethod ≠ method then return ⟨405, none⟩
  match document? body with
  | none => return ⟨400, some (← Admission.review settings .empty)⟩
  | some d =>
    let review ← Admission.review settings (if d.isObj then d else .empty)
    return ⟨200, some review⟩

end Workbench.Endpoint
