import Workbench.Doc.Loose
import Workbench.Text.Search

/-!
# Reading and editing documents

A program reads documents that nobody has checked. Each access says how it fails: a member that has
to be there is missing, or a document has the wrong shape for what is asked of it.

* `Fault`: the two ways of failing;
* `Doc.truthy`, `Doc.orElse`: which documents count as empty, and a default for them;
* `Doc.require`, `Doc.read`: a member that has to be there, and one that may be missing;
* `Doc.elements`, `Doc.contains`: what a document is walked through by, and what counts as in it;
* `Doc.precedes`: the order of numbers, and that of texts;
* `Doc.put`, `Doc.ensure`, `Doc.remove`, `Doc.modify`, `Doc.modifyUnder`: edits of one member, and of
  what lies under several.
-/

namespace Workbench

/-- How a document fails a program that reads it. -/
inductive Fault where
  /-- A member that has to be there is missing. -/
  | missingMember (name : String)
  /-- The document has the wrong shape for what is asked of it. -/
  | wrongShape
  deriving DecidableEq

namespace Doc

/-- Null, false, zero and everything without contents count as empty. -/
def truthy : Doc → Bool
  | .null => false
  | .bool b => b
  | .int n => n != 0
  | .real r => !r.isZero
  | .str s => s != ""
  | .arr items => !items.isEmpty
  | .obj members => !members.isEmpty

/-- The document, or a default when it counts as empty. -/
def orElse (d default : Doc) : Doc := if d.truthy then d else default

/-- An object. -/
def isObj : Doc → Bool
  | .obj _ => true
  | _ => false

/-- The members of an object. -/
def members : Doc → Except Fault (List Member)
  | .obj ms => .ok ms
  | _ => .error .wrongShape

/-- A member that has to be there. -/
def require (d : Doc) (name : String) : Except Fault Doc := do
  match (← d.members).lookup name with
  | some v => .ok v
  | none => .error (.missingMember name)

/-- A member that may be missing, and is null then. -/
def read (d : Doc) (name : String) : Except Fault Doc := do
  return ((← d.members).lookup name).getD .null

/-- A text. -/
def asText : Doc → Except Fault String
  | .str s => .ok s
  | _ => .error .wrongShape

/-- The documents that a document is walked through by: the items of a list, the names of an
object, the characters of a text. -/
def elements : Doc → Except Fault (List Doc)
  | .arr items => .ok items
  | .obj ms => .ok (ms.map fun m => .str m.1)
  | .str s => .ok (s.toList.map fun c => .str (String.singleton c))
  | _ => .error .wrongShape

/-- A list. -/
def items : Doc → Except Fault (List Doc)
  | .arr ds => .ok ds
  | _ => .error .wrongShape

/-- A document by which things are told apart: no list and no object. -/
def asKey (d : Doc) : Except Fault Doc :=
  match d.key? with
  | some k => .ok k
  | none => .error .wrongShape

/-- `d` is in a document: as an item, as the name of a member, or inside a text. -/
def contains (whole d : Doc) : Except Fault Bool :=
  match whole with
  | .arr ds => .ok (ds.any (looseEq d))
  | .obj ms => do
    discard d.asKey
    return ms.any fun m => looseEq (.str m.1) d
  | .str s => do return Text.hasInfix (← d.asText).toList s.toList
  | _ => .error .wrongShape

/-- A document comes before another one: numbers are ordered by value, and texts by their
characters. Nothing else has an order. -/
def precedes (a b : Doc) : Except Fault Bool :=
  match a, b with
  | .str s, .str t => .ok (s < t)
  | _, _ =>
    match a.number?, b.number? with
    | some m, some n => .ok (m.less n)
    | _, _ => .error .wrongShape

/-- The object with one member set. -/
def put (d : Doc) (name : String) (value : Doc) : Except Fault Doc := do
  return .obj (setMember name value (← d.members))

/-- The object with one member there: its default is added when it is missing. -/
def ensure (d : Doc) (name : String) (default : Doc) : Except Fault Doc := do
  let ms ← d.members
  return .obj (if (ms.lookup name).isSome then ms else ms ++ [(name, default)])

/-- The object without one member. -/
def remove (d : Doc) (name : String) : Except Fault Doc := do
  return .obj (dropMember name (← d.members))

/-- The object with a member that has to be there replaced by an edit of it. -/
def modify (d : Doc) (name : String) (edit : Doc → Except Fault Doc) : Except Fault Doc := do
  d.put name (← edit (← d.require name))

/-- An edit of what lies under a chain of members, all of which have to be there. -/
def modifyUnder : (names : List String) → (edit : Doc → Except Fault Doc) → Doc → Except Fault Doc
  | [], edit, d => edit d
  | name :: names, edit, d => d.modify name (modifyUnder names edit)

end Doc

end Workbench
