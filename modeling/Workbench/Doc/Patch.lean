import Workbench.Doc.Order

/-!
# Patches

A patch is a list of operations on places of a document, applied one after the other.

* `Step`, `Place`: a member or an item, and a way from the root of a document to one of its parts;
  `Place.text` is the written form;
* `Operation`, `Operation.applyTo?`: one edit, and its result where the place is there;
* `Patch.applyTo?`: all edits;
* `Patch.between`: a patch that turns one document into another. Documents that are the same up to
  the order of members need none.
-/

namespace Workbench

/-- One step down from a document. -/
inductive Step where
  | member (name : String)
  | item (index : Nat)
  deriving DecidableEq

/-- The way from the root of a document to one of its parts. -/
abbrev Place := List Step

/-- A name inside a written place: `~` and `/` are escaped. -/
def Step.escape (c : Char) : List Char :=
  if c = '~' then ['~', '0'] else if c = '/' then ['~', '1'] else [c]

/-- A step inside a written place. -/
def Step.text : Step → List Char
  | .member name => name.toList.flatMap Step.escape
  | .item index => Nat.toDigits 10 index

/-- The written form of a place: a slash before each step. -/
def Place.text (p : Place) : String :=
  String.ofList (p.flatMap fun s => '/' :: s.text)

/-- One edit of a document. -/
inductive Operation where
  | add (place : Place) (value : Doc)
  | remove (place : Place)
  | replace (place : Place) (value : Doc)
  | move (origin place : Place)
  deriving DecidableEq

/-- A list of edits. -/
abbrev Patch := List Operation

namespace Doc

/-- The part of a document at a place. -/
def at? : Place → Doc → Option Doc
  | [], d => some d
  | .member name :: rest, .obj ms => (ms.lookup name).bind (at? rest)
  | .item i :: rest, .arr ds => ds[i]?.bind (at? rest)
  | _, _ => none

/-- An edit of the part of a document at a place. -/
def editAt? (edit : Doc → Option Doc) : Place → Doc → Option Doc
  | [], d => edit d
  | .member name :: rest, .obj ms => do
    let v ← editAt? edit rest (← ms.lookup name)
    return .obj (setMember name v ms)
  | .item i :: rest, .arr ds => do
    let v ← editAt? edit rest (← ds[i]?)
    return .arr (ds.set i v)
  | _, _ => none

/-- A value put at one step below a document: a member is set, an item pushes the later ones on. -/
def addAt? (value : Doc) (s : Step) (d : Doc) : Option Doc :=
  match s, d with
  | .member name, .obj ms => some (.obj (setMember name value ms))
  | .item i, .arr ds => if i ≤ ds.length then some (.arr (ds.insertIdx i value)) else none
  | _, _ => none

/-- A document without what is one step below it. -/
def dropAt? (s : Step) (d : Doc) : Option Doc :=
  match s, d with
  | .member name, .obj ms =>
    if (ms.lookup name).isSome then some (.obj (dropMember name ms)) else none
  | .item i, .arr ds => if i < ds.length then some (.arr (ds.eraseIdx i)) else none
  | _, _ => none

end Doc

/-- The last step of a place, and the way to it. -/
def Place.splitLast? (p : Place) : Option (Place × Step) :=
  p.getLast?.map fun s => (p.dropLast, s)

namespace Operation

/-- A value added to a document at a place. -/
def addTo? (p : Place) (value : Doc) (d : Doc) : Option Doc :=
  match p.splitLast? with
  | none => some value
  | some (way, s) => d.editAt? (Doc.addAt? value s) way

/-- A document without what is at a place. -/
def removeFrom? (p : Place) (d : Doc) : Option Doc := do
  let (way, s) ← p.splitLast?
  d.editAt? (Doc.dropAt? s) way

/-- The result of one edit, if the place is there. -/
def applyTo? (d : Doc) : Operation → Option Doc
  | .add p v => addTo? p v d
  | .remove p => removeFrom? p d
  | .replace p v => d.editAt? (fun _ => some v) p
  | .move q p => do
    let v ← d.at? q
    addTo? p v (← removeFrom? q d)

/-- An edit as a document. -/
def toDoc : Operation → Doc
  | .add p v => .obj [("op", "add"), ("path", p.text), ("value", v)]
  | .remove p => .obj [("op", "remove"), ("path", p.text)]
  | .replace p v => .obj [("op", "replace"), ("path", p.text), ("value", v)]
  | .move q p => .obj [("op", "move"), ("from", q.text), ("path", p.text)]

end Operation

namespace Patch

/-- The result of all edits, if every place is there. -/
def applyTo? (patch : Patch) (d : Doc) : Option Doc := patch.foldlM Operation.applyTo? d

mutual

/-- The edits that turn what is at `place` into `after`. Objects are compared member by member and
lists of one length item by item; anything else is replaced as a whole. -/
def valueEdits (place : Place) (before : Doc) : Doc → Patch
  | .obj after =>
    match before with
    | .obj ms =>
      ((ms.filter fun m => (after.lookup m.1).isNone).map fun m =>
        .remove (place ++ [.member m.1])) ++ memberEdits place ms after
    | _ => [.replace place (.obj after)]
  | .arr after =>
    match before with
    | .arr ds =>
      if ds.length = after.length then itemEdits place 0 ds after
      else [.replace place (.arr after)]
    | _ => [.replace place (.arr after)]
  | after => if before = after then [] else [.replace place after]
termination_by structural after => after

/-- The edits for the items from `index` on. -/
def itemEdits (place : Place) (index : Nat) (before : List Doc) : List Doc → Patch
  | [] => []
  | d :: after =>
    match before with
    | [] => []
    | old :: before =>
      valueEdits (place ++ [.item index]) old d ++ itemEdits place (index + 1) before after
termination_by structural after => after

/-- The edits for the members that are there afterwards. -/
def memberEdits (place : Place) (before : List Member) : List Member → Patch
  | [] => []
  | m :: after => memberEdit place before m ++ memberEdits place before after
termination_by structural after => after

/-- The edits for one member that is there afterwards. -/
def memberEdit (place : Place) (before : List Member) : Member → Patch
  | (name, d) =>
    match before.lookup name with
    | none => [.add (place ++ [.member name]) d]
    | some old => valueEdits (place ++ [.member name]) old d
termination_by structural m => m

end

/-- A patch that turns `before` into `after`. -/
def between (before after : Doc) : Patch := valueEdits [] before after

end Patch

end Workbench
