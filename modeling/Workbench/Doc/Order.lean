import Workbench.Doc.Basic

/-!
# Documents up to the order of members

The order of an object's members is kept, but carries no meaning. `Doc.ordered` puts the members of
every object in the order of their names, by code point, so two documents that differ in the order
of members only have the same ordered form.

* `sortMembers`: members in the order of their names;
* `Doc.ordered`: the ordered form;
* `Doc.same`: the same document up to the order of members; `1`, `1.0` and `true` differ.
-/

namespace Workbench

/-- A member put in front of the first one with a greater name. -/
def insertMember {α : Type} (m : String × α) : List (String × α) → List (String × α)
  | [] => [m]
  | n :: ns => if m.1 < n.1 then m :: n :: ns else n :: insertMember m ns

/-- Members in the order of their names. -/
def sortMembers {α : Type} : List (String × α) → List (String × α)
  | [] => []
  | m :: ms => insertMember m (sortMembers ms)

namespace Doc

/-- The members of every object in the order of their names. -/
def ordered : Doc → Doc :=
  fold { Fold.rebuild with obj := fun ms => .obj (sortMembers ms) }

/-- The same document up to the order of members. -/
def same (a b : Doc) : Bool := a.ordered == b.ordered

end Doc

end Workbench
