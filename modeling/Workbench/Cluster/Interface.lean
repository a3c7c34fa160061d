import Workbench.Cluster.Action
import Workbench.Notebook
import Workbench.Numeral.Layout

/-!
# The interface of a cluster

A real cluster is called through an interface with an operation for each verb. Kinds that are built
in have operations of their own, in one of three groups; the others share the operations for custom
objects and are told apart by a group, a version and a collection.

* `Interface.kinds`: how each kind is called;
* `Interface.Operation`, `Interface.operation`: an operation with its arguments, and the one for a
  call;
* `Interface.Outcome`, `Interface.answer`: what comes back from an operation, and the answer to the
  call; `Interface.failure` says which failure a status stands for.
-/

namespace Workbench.Interface

/-! ## Kinds -/

/-- How a kind is called. -/
inductive KindOfObject where
  | builtIn (api resource : String)
  | custom (group version plural : String)

/-- How each kind is called. -/
def kinds : List (String × KindOfObject) := [
  (notebookKind, .custom notebookGroup notebookVersion notebookPlural),
  ("Route", .custom "route.openshift.io" "v1" "routes"),
  ("ImageStream", .custom "image.openshift.io" "v1" "imagestreams"),
  ("ConfigMap", .builtIn "core" "config_map"),
  ("Secret", .builtIn "core" "secret"),
  ("Service", .builtIn "core" "service"),
  ("ServiceAccount", .builtIn "core" "service_account"),
  ("NetworkPolicy", .builtIn "networking" "network_policy"),
  ("Role", .builtIn "rbac" "role"),
  ("RoleBinding", .builtIn "rbac" "role_binding")]

/-- How the kind is called; a kind that is not known is missing. -/
def kindOf (kind : Doc) : Except Fault KindOfObject :=
  match kind with
  | .arr _ => throw .wrongShape
  | .obj _ => throw .wrongShape
  | _ =>
    match kinds.find? fun k => kind = .str k.1 with
    | some k => return k.2
    | none => throw (.missingMember kind.display)

/-! ## Operations -/

/-- An operation with its arguments and options. -/
structure Operation where
  api : String
  method : String
  arguments : List Doc
  options : List Member

/-- What a call is about, in words. -/
def what : Call → Except Fault String
  | .list kind ns => return "list " ++ kind.display ++ " in " ++ ns.display
  | c@(.create d) | c@(.update d) => do return c.verb ++ " " ++ (← d.address).text
  | c@(.get address) | c@(.patch address _) | c@(.delete address) =>
    return c.verb ++ " " ++ address.text

/-- The kind, the namespace, the name if there is one, and the object or patch that go into an
operation. -/
structure Parts where
  kind : Doc
  ns : Doc
  name : Option Doc
  payload : Option Doc

/-- The parts of a call. A new object brings its name itself. -/
def parts : Call → Except Fault Parts
  | .get a => return ⟨a.kind, a.ns, some a.name, none⟩
  | .delete a => return ⟨a.kind, a.ns, some a.name, none⟩
  | .patch a patch => return ⟨a.kind, a.ns, some a.name, some patch⟩
  | .list kind ns => return ⟨kind, ns, none, none⟩
  | .create d => do
    let a ← d.address
    return ⟨a.kind, a.ns, none, some d⟩
  | .update d => do
    let a ← d.address
    return ⟨a.kind, a.ns, some a.name, some d⟩

/-- The verb in the name of an operation. -/
def operationVerb (isBuiltIn : Bool) : Call → String
  | .get _ => if isBuiltIn then "read" else "get"
  | .update _ => "replace"
  | c => c.verb

/-- The options of a call: the kind of patch, and how long it may take if that is bounded. -/
def optionsOf (timeout : Doc) (c : Call) : List Member :=
  let patch : List Member :=
    match c with
    | .patch _ _ => [("_content_type", "application/merge-patch+json")]
    | _ => []
  let bound : List Member := if timeout = .null then [] else [("_request_timeout", timeout)]
  patch ++ bound

/-- The operation for a call. -/
def operation (timeout : Doc) (c : Call) : Except Fault Operation := do
  let p ← parts c
  let options := optionsOf timeout c
  match ← kindOf p.kind with
  | .builtIn api resource =>
    return {
      api
      method := operationVerb true c ++ "_namespaced_" ++ resource
      arguments := p.name.toList ++ p.ns :: p.payload.toList
      options }
  | .custom group version plural =>
    return {
      api := "custom"
      method := operationVerb false c ++ "_namespaced_custom_object"
      arguments :=
        [.str group, .str version, p.ns, .str plural] ++ p.name.toList ++ p.payload.toList
      options }

/-! ## Answers -/

/-- What comes back from an operation. -/
inductive Outcome where
  | value (d : Doc)
  /-- The cluster refused, with a status and a reason. -/
  | refused (status : Option Int) (reason : Option String)
  /-- The cluster was not reached. -/
  | unreached (why : String)

/-- The word for something that may be missing. -/
def orNone (text : Option String) : String := text.getD "None"

/-- The failure that a status stands for. -/
def failure (status : Option Int) (reason : Option String) (what : String) : Failure :=
  match status with
  | some 404 => .notFound (what ++ " not found") 404
  | some 409 => .conflict (what ++ " conflict: " ++ orNone reason) 409
  | s =>
    let number := orNone (s.map fun n => String.ofList (integerText n))
    .unexpected (what ++ " failed: " ++ number ++ " " ++ orNone reason) (s.getD 0)

/-- The part of an outcome that a call is answered with. -/
def result : Call → Doc → Except Fault Doc
  | .list _ _, d => do return (← d.read "items").orElse (.arr [])
  | .delete _, _ => return .null
  | _, d => return d

/-- The answer to a call. -/
def answer (c : Call) : Outcome → Except Trouble Doc
  | .value d => do return (← result c d)
  | .refused status reason => do throw (.failure (failure status reason (← what c)))
  | .unreached why => do throw (.failure (.unexpected ((← what c) ++ " failed: " ++ why) 0))

end Workbench.Interface
