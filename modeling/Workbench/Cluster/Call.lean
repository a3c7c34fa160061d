import Workbench.Doc.Printer
import Workbench.Failure

/-!
# Calls to a cluster

A cluster keeps objects by kind, namespace and name, and serves one call at a time.

* `Address`: where an object is kept;
* `Call`: what can be asked of a cluster;
* `Doc.address`: where an object says that it is kept.
-/

namespace Workbench

/-- Where an object is kept. Objects come from outside, so each part is a document. -/
structure Address where
  kind : Doc
  ns : Doc
  name : Doc
  deriving DecidableEq

/-- Where an object is kept, in words. -/
def Address.text (a : Address) : String :=
  a.kind.display ++ " " ++ a.ns.display ++ "/" ++ a.name.display

/-- Where an object says that it is kept: its kind first, then its namespace and its name. -/
def Doc.address (d : Doc) : Except Fault Address := do
  let kind ← d.require "kind"
  let metadata ← d.require "metadata"
  return { kind, ns := ← metadata.require "namespace", name := ← metadata.require "name" }

/-- What can be asked of a cluster. An answer is an object; the objects of a list are the items of a
list, and the removal of an object is answered with null. -/
inductive Call where
  | get (address : Address)
  | list (kind ns : Doc)
  | create (object : Doc)
  | update (object : Doc)
  /-- A merge of the object with a patch: a member that the patch says is null is dropped. -/
  | patch (address : Address) (patch : Doc)
  | delete (address : Address)
  deriving DecidableEq

/-- The word for what a call does. -/
def Call.verb : Call → String
  | .get _ => "get"
  | .list _ _ => "list"
  | .create _ => "create"
  | .update _ => "update"
  | .patch _ _ => "patch"
  | .delete _ => "delete"

end Workbench
