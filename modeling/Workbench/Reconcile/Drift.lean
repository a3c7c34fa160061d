import Workbench.Cluster.Action
import Workbench.Doc.Canonical

/-!
# Drift

An object that the operator makes may be changed by others afterwards. The operator owns an aspect of
it, and puts only that aspect right.

* `Aspect`: what of an object is compared, and how it is put right;
* `Aspect.policy`, `Aspect.route`, `Aspect.binding`: the aspects of policies, routes and role
  bindings;
* `converge`: the object made when it is missing, or its aspect put right.
-/

namespace Workbench

/-- What of an object is compared with the one that is wanted, and how it is put right. -/
structure Aspect where
  project : Doc → Except Fault Doc
  overwrite : (found desired : Doc) → Except Fault Doc

namespace Aspect

/-- The labels of an object, the empty object when there are none. -/
def labels (d : Doc) : Except Fault Doc := do
  return (← ((← d.read "metadata").orElse .empty).read "labels").orElse .empty

/-- The object with other labels. Its metadata have to be there. -/
def putLabels (value found : Doc) : Except Fault Doc :=
  found.modify "metadata" (·.put "labels" value)

/-- The labels and the specification. -/
def policy : Aspect where
  project d := do
    return .obj [
      ("labels", ← labels d),
      ("spec", (← d.read "spec").orElse .empty)]
  overwrite found desired := do
    let value ← (← desired.require "metadata").read "labels"
    let found ← putLabels value found
    found.put "spec" (← desired.require "spec")

/-- The members of a route's specification that the operator owns. The host belongs to the router. -/
def routeMembers : List String := ["to", "port", "tls"]

/-- One member of the specification taken over from the desired object. -/
def takeOver (desired : Doc) (spec : Doc) (name : String) : Except Fault Doc := do
  spec.put name (← (← desired.require "spec").require name)

/-- The labels, and where a route leads and how. -/
def route : Aspect where
  project d := do
    let spec := (← d.read "spec").orElse .empty
    let labels ← labels d
    let owned ← routeMembers.mapM fun name => do return (name, ← spec.read name)
    return .obj (("labels", labels) :: owned)
  overwrite found desired := do
    let value ← (← desired.require "metadata").require "labels"
    let found ← putLabels value found
    let found ← found.ensure "spec" .empty
    found.modify "spec" fun spec => routeMembers.foldlM (takeOver desired) spec

/-- The labels, and who is bound to a role. -/
def binding : Aspect where
  project d := do
    return .obj [
      ("labels", ← labels d),
      ("subjects", (← d.read "subjects").orElse (.arr []))]
  overwrite found desired := do
    let value ← (← desired.require "metadata").require "labels"
    let found ← putLabels value found
    found.put "subjects" (← desired.require "subjects")

/-- Two objects agree in an aspect. -/
def agrees (aspect : Aspect) (found desired : Doc) : Except Fault Bool := do
  return (← aspect.project found).equivalent (← aspect.project desired)

end Aspect

/-- The object at `address`, read again and written back with its aspect put right. -/
def restore (aspect : Aspect) (address : Address) (desired : Doc) : Action Unit := do
  let found ← Action.get address
  Action.update (← aspect.overwrite found desired)

/-- The object made when it is missing, and otherwise its aspect put right. Says whether anything
was written. Somebody else may have made the object in the meantime; it is left alone then. -/
def converge (aspect : Aspect) (desired : Doc) : Action Bool := do
  let address ← desired.address
  match ← Action.find? address with
  | none => Action.createUnlessThere desired
  | some found =>
    if ← aspect.agrees found desired then return false
    Action.retryingOnConflict (restore aspect address desired)
    return true

/-- The object made when it is missing, and left alone otherwise. Says whether it was made. -/
def makeIfMissing (desired : Doc) : Action Bool := do
  let address ← desired.address
  if ← Action.exists? address then return false
  Action.createUnlessThere desired

end Workbench
