import Workbench.Doc.Change
import Workbench.Notebook

/-!
# The restart guard

The pod of a notebook restarts when its template changes. The operator's own edits of the template
are held back while the notebook runs, unless the update restarts the pod anyway.

* `RestartGuard.Decision`: the edits may go through, or have to wait, and why;
* `RestartGuard.decide`: the decision;
* `RestartGuard.hold`: the notebook with the template as it was submitted.
-/

namespace Workbench.RestartGuard

/-- Whether the edits of a template go through. -/
inductive Decision where
  | allow
  /-- The edits wait; `reason` says which. -/
  | deferred (reason : String)
  deriving DecidableEq

/-- The operation by which a notebook is made. -/
def createOperation : Doc := "CREATE"

/-- The operation by which a notebook is changed. -/
def updateOperation : Doc := "UPDATE"

/-- The pod of the notebook stands still, or restarts anyway. -/
def isStill (mutated : Notebook) : Except Fault Bool := do
  if ← mutated.hasAnnotation AnnotationKey.stopped then return true
  mutated.hasAnnotation AnnotationKey.restart

/-- The templates before the update, as it was submitted, and after the edits, compared. Edits wait
when the update leaves the template alone and they do not. -/
def compareTemplates (old requested mutated : Notebook) : Except Fault Decision := do
  let before ← old.templateSpec
  let wanted ← requested.templateSpec
  if !(before.equivalent wanted) then return .allow
  let edited ← mutated.templateSpec
  if before.equivalent edited then return .allow
  return .deferred (wanted.changeSummary edited)

/-- Whether the edits of the template go through. -/
def decide (operation : Doc) (old requested mutated : Notebook) :
    Except Fault Decision := do
  discard (← mutated.require "metadata").members
  if operation = createOperation then return .allow
  if ← isStill mutated then return .allow
  compareTemplates old requested mutated

/-- The notebook with the template as it was submitted. -/
def hold (requested mutated : Notebook) : Except Fault Notebook := do
  let wanted ← requested.templateSpec
  mutated.modifyUnder ["spec", "template"] (·.put "spec" wanted)

/-- The notebook after a decision: the template goes back when the edits wait. -/
def apply (decision : Decision) (requested mutated : Notebook) : Except Fault Notebook :=
  match decision with
  | .allow => return mutated
  | .deferred _ => hold requested mutated

end Workbench.RestartGuard
