import Workbench.Doc.Printer

/-!
# Canonical documents

A cluster leaves out optional members that are empty, so a member that is missing means the same as
one that is null, an empty list or an empty object.

* `Doc.canonical`: the document without such members, at every level;
* `Doc.canonicalText`: its text, with the members in order;
* `Doc.equivalent`: equality of the canonical texts.
-/

namespace Workbench.Doc

/-- Null, the empty list and the empty object. -/
def isVacant : Doc → Bool
  | .null => true
  | .arr [] => true
  | .obj [] => true
  | _ => false

/-- The document without vacant members, at every level. Items of lists stay. -/
def canonical : Doc → Doc :=
  fold { Fold.rebuild with obj := fun ms => .obj (ms.filter fun m => !m.2.isVacant) }

/-- The text of the canonical document, members in the order of their names, without blanks. -/
def canonicalText (d : Doc) : String := d.canonical.ordered.compactText

/-- Two documents mean the same. -/
def equivalent (a b : Doc) : Bool := a.canonicalText == b.canonicalText

end Workbench.Doc
