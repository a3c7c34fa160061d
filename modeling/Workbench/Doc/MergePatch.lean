import Workbench.Doc.Access
import Workbench.Doc.Printer

/-!
# Merge patches

A merge patch is a document laid over another one: a null takes a member away, an object goes into
the member, and everything else replaces it.

* `Doc.merge`: a patch laid over a document;
* `mergePatch`: the patch that turns one object into another, as far as a merge patch can;
* `Doc.mergePatchTo`: the same for documents, of which the first may be no object.
-/

namespace Workbench

namespace Doc

/-- The members of an object, none for any other document. -/
def membersOrNone : Doc → List Member
  | .obj ms => ms
  | _ => []

mutual

/-- A patch laid over a document. -/
def merge (target : Doc) : Doc → Doc
  | .obj patch => .obj (mergeMembers target.membersOrNone patch)
  | d => d
termination_by structural patch => patch

/-- The members of a patch, laid over those of an object one after the other. -/
def mergeMembers (target : List Member) : List Member → List Member
  | [] => target
  | m :: ms => mergeMembers (mergeMember target m) ms
termination_by structural ms => ms

/-- One member of a patch. -/
def mergeMember (target : List Member) : Member → List Member
  | (name, .null) => dropMember name target
  | (name, d) => setMember name (merge ((target.lookup name).getD .null) d) target
termination_by structural m => m

end

end Doc

/-- A null for every member that is not there afterwards. -/
def removals (before after : List Member) : List Member :=
  (before.filter fun m => (after.lookup m.1).isNone).map fun m => (m.1, .null)

mutual

/-- What a member has to be patched with, if anything: objects are compared member by member, other
documents by value. -/
def valuePatch (name : String) (before : Doc) : Doc → List Member
  | .obj after =>
    match before with
    | .obj ms =>
      let nested := removals ms after ++ memberPatches ms after
      if nested.isEmpty then [] else [(name, .obj nested)]
    | d => if d.looseEq (.obj after) then [] else [(name, .obj after)]
  | d => if before.looseEq d then [] else [(name, d)]
termination_by structural after => after

/-- The patches for all members that are there afterwards. -/
def memberPatches (before : List Member) : List Member → List Member
  | [] => []
  | m :: ms => memberPatch before m ++ memberPatches before ms
termination_by structural after => after

/-- The patch for one member that is there afterwards. -/
def memberPatch (before : List Member) : Member → List Member
  | (name, d) =>
    match before.lookup name with
    | none => [(name, d)]
    | some old => valuePatch name old d
termination_by structural m => m

end

/-- The merge patch that turns the members `before` into the members `after`. -/
def mergePatch (before after : List Member) : List Member :=
  removals before after ++ memberPatches before after

namespace Doc

/-- The name of a member that a document gives: a text as it is, and anything else but a list or an
object as it is written. -/
def asName (d : Doc) : Except Fault String :=
  match d with
  | .str s => .ok s
  | _ => do
    discard d.asKey
    return d.compactText

/-- The patch that makes the members `after` of a document that is no object: what it is walked
through by goes, and then the members come. None of them may be in it already, since it has no
members to compare them with. -/
def replacement (before : Doc) (after : List Member) : Except Fault (List Member) := do
  let names ← (← before.elements).mapM asName
  let gone := removals (names.map fun n => (n, .null)) after
  if ← after.anyM fun m => before.contains (.str m.1) then throw .wrongShape
  return gone ++ after

/-- The merge patch that turns a document into an object. -/
def mergePatchTo (before after : Doc) : Except Fault Doc := do
  let after ← after.members
  match before with
  | .obj before => return .obj (mergePatch before after)
  | d => return .obj (← d.replacement after)

end Doc

end Workbench
