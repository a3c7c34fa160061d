import Workbench.Doc.Patch
import Workbench.Doc.Printer
import Workbench.Notebook
import Workbench.Text.Base64

/-!
# Answers to admission requests

* `Verdict`, `Answer`: what the operator says to a request;
* `Response`, `Response.toDoc`: the form in which the answer is sent; what has to change goes into it
  as a patch, written in base 64;
* `Answer.response`, `Answer.patched`: the response to an answer, and the object that its patch makes
  of the submitted one;
* `Answer.response_of_admitted`, `Answer.response_patch`: the patch of a response is that of the answer.
-/

namespace Workbench

/-- What the operator says to a request. -/
inductive Verdict where
  /-- The notebook is let in, in this form. -/
  | admitted (mutated : Notebook)
  /-- The notebook is not let in. -/
  | denied (message : String)
  /-- The request could not be worked on. -/
  | errored (code : Nat) (message : String)
  deriving DecidableEq

/-- What the operator says to the request `uid`, and what was submitted. -/
structure Answer where
  uid : Doc
  submitted : Doc
  verdict : Verdict
  deriving DecidableEq

/-- The form in which an answer is sent. -/
structure Response where
  uid : Doc
  allowed : Bool
  patch : List Doc := []
  code : Int := 200
  reason : String := ""
  message : String := ""

namespace Response

/-- The response to a request for something that is let in, changed by a patch. -/
def admitted (uid : Doc) (patch : Patch) : Response :=
  { uid, allowed := true, patch := patch.map Operation.toDoc }

/-- The response to a request for something that is not allowed. -/
def denied (uid : Doc) (message : String) : Response :=
  { uid, allowed := false, code := 403, reason := "Forbidden", message }

/-- The response to a request that could not be worked on. -/
def errored (uid : Doc) (code : Int) (message : String) : Response :=
  { uid, allowed := false, code, message }

/-- The members that carry a patch, none for the empty one. -/
def patchMembers (patch : List Doc) : List Member :=
  if patch.isEmpty then []
  else [
    ("patchType", "JSONPatch"),
    ("patch", String.ofList (Base64.encode (Doc.spacedText (.arr patch)).toUTF8.toList))]

/-- The members that say why a request is not allowed. -/
def statusMembers (r : Response) : List Member :=
  if r.allowed then []
  else
    let reason : List Member := if r.reason = "" then [] else [("reason", r.reason)]
    let members : List Member := ("code", .int r.code) :: ("message", r.message) :: reason
    [("status", .obj members)]

/-- The response as it is sent. -/
def toDoc (r : Response) : Doc :=
  .obj (("uid", r.uid) :: ("allowed", r.allowed) :: (patchMembers r.patch ++ statusMembers r))

end Response

namespace Answer

/-- What has to change in the submitted object. Nothing does unless it is let in. -/
def patch (a : Answer) : Patch :=
  match a.verdict with
  | .admitted mutated => Patch.between a.submitted mutated
  | _ => []

/-- The object that the patch makes of the submitted one. -/
def patched (a : Answer) : Option Doc := a.patch.applyTo? a.submitted

/-- The response to an answer. -/
def response (a : Answer) : Response :=
  match a.verdict with
  | .admitted _ => .admitted a.uid a.patch
  | .denied message => .denied a.uid message
  | .errored code message => .errored a.uid code message

variable {a : Answer} {mutated : Notebook}

theorem patch_of_admitted (h : a.verdict = .admitted mutated) :
    a.patch = Patch.between a.submitted mutated := by
  rw [patch, h]

/-- The response to a notebook that is let in carries the patch of the answer. -/
theorem response_of_admitted (h : a.verdict = .admitted mutated) :
    a.response = .admitted a.uid a.patch := by
  rw [response, h]

theorem allowed_iff : a.response.allowed = true ↔ ∃ mutated, a.verdict = .admitted mutated := by
  unfold response
  cases a.verdict <;> simp [Response.admitted, Response.denied, Response.errored]

/-- A response carries the patch of its answer; what is not let in is not changed. -/
theorem response_patch (a : Answer) : a.response.patch = a.patch.map Operation.toDoc := by
  obtain ⟨uid, submitted, mutated | message | ⟨code, message⟩⟩ := a <;> rfl

end Answer

end Workbench
