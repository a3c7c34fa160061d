import Workbench.Doc.Canonical
import Workbench.Doc.Patch

/-!
# What changed, for a reader

The changes from one document to another, as a line of text. A value that goes away in one place
and appears in another is shown as moved.

* `Draft`: the edits found so far, with those that a move may still be made of;
* `Doc.changes`: the edits from one document to another;
* `Doc.changeSummary`: the text, over the canonical forms.
-/

namespace Workbench

/-- An edit that a move may still be made of: its number, and the text of its value. -/
structure Pending where
  number : Nat
  value : String

/-- The edits found so far, each with its number. Removals and additions that no move is made of
yet are kept apart, the latest first. -/
structure Draft where
  next : Nat
  edits : List (Nat × Operation)
  removed : List Pending
  added : List Pending

namespace Draft

/-- Nothing found yet. -/
def start : Draft := ⟨0, [], [], []⟩

/-- The text by which values are compared. -/
def valueText (d : Doc) : String := d.ordered.compactText

/-- An edit at the end. -/
def push (t : Draft) (op : Operation) : Draft :=
  { t with next := t.next + 1, edits := t.edits ++ [(t.next, op)] }

/-- The place of an addition or a removal. -/
def placeOf? (t : Draft) (number : Nat) : Option Place :=
  match t.edits.lookup number with
  | some (.add p _) => some p
  | some (.remove p) => some p
  | _ => none

/-- The draft without one edit. -/
def forget (t : Draft) (number : Nat) : Draft :=
  { t with
    edits := t.edits.filter fun e => e.1 ≠ number
    removed := t.removed.filter fun e => e.number ≠ number
    added := t.added.filter fun e => e.number ≠ number }

/-- The latest edit among `pool` with this value, and its place. -/
def partner? (t : Draft) (pool : List Pending) (text : String) : Option (Nat × Place) := do
  let found ← pool.find? fun e => e.value == text
  return (found.number, ← t.placeOf? found.number)

/-- A value goes away. -/
def remove (t : Draft) (place : Place) (value : Doc) : Draft :=
  let text := valueText value
  match t.partner? t.added text with
  | some (number, target) =>
    let t := t.forget number
    if target = place then t else t.push (.move place target)
  | none =>
    { t.push (.remove place) with removed := ⟨t.next, text⟩ :: t.removed }

/-- A value appears. -/
def add (t : Draft) (place : Place) (value : Doc) : Draft :=
  let text := valueText value
  match t.partner? t.removed text with
  | some (number, origin) =>
    let t := t.forget number
    if origin = place then t else t.push (.move origin place)
  | none =>
    { t.push (.add place value) with added := ⟨t.next, text⟩ :: t.added }

/-- A value gives way to another one: an item of a list goes away and the other one appears, a member
is replaced. -/
def exchange (t : Draft) (inList : Bool) (place : Place) (before after : Doc) : Draft :=
  if inList then (t.remove place before).add place after else t.push (.replace place after)

end Draft

namespace Doc

/-- The number of items at the front that two lists have in common. -/
def commonFront : List Doc → List Doc → Nat
  | a :: as, b :: bs => if a.same b then commonFront as bs + 1 else 0
  | _, _ => 0

/-- The items of two lists that are compared one by one, and what is left over of each. -/
structure Alignment where
  front : Nat
  paired : Nat
  leftBefore : List Doc
  leftAfter : List Doc

/-- Two lists without their common front and their common back. -/
def align (before after : List Doc) : Alignment :=
  let front := commonFront before after
  let restBefore := before.drop front
  let restAfter := after.drop front
  let back := commonFront restBefore.reverse restAfter.reverse
  let middleBefore := restBefore.take (restBefore.length - back)
  let middleAfter := restAfter.take (restAfter.length - back)
  let paired := min middleBefore.length middleAfter.length
  ⟨front, paired, middleBefore.drop paired, middleAfter.drop paired⟩

/-- The members of `ms` that `others` does not have. -/
def unmatched (ms others : List Member) : List Member :=
  ms.filter fun m => (others.lookup m.1).isNone

/-- Additions at the items of `place` from `index` on. -/
def addItems (place : Place) : (index : Nat) → List Doc → Draft → Draft
  | _, [], t => t
  | i, d :: ds, t => addItems place (i + 1) ds (t.add (place ++ [.item i]) d)

mutual

/-- The edits from one value to another at a place: objects are compared member by member and lists
item by item, anything else is exchanged. -/
def compareValue (inList : Bool) (place : Place) (after : Doc) : Doc → Draft → Draft
  | .obj ms, t =>
    match after with
    | .obj ns =>
      let t := (unmatched ms ns).foldl (fun t m => t.remove (place ++ [.member m.1]) m.2) t
      let t := (unmatched ns ms).foldl (fun t m => t.add (place ++ [.member m.1]) m.2) t
      compareMembers place ns ms t
    | d => t.exchange inList place (.obj ms) d
  | .arr as, t =>
    match after with
    | .arr bs =>
      let found := align as bs
      let t := compareItems place found.front found.paired 0 bs as t
      let next := found.front + found.paired
      let t := found.leftBefore.foldl (fun t d => t.remove (place ++ [.item next]) d) t
      addItems place next found.leftAfter t
    | d => t.exchange inList place (.arr as) d
  | before, t => if before.same after then t else t.exchange inList place before after
termination_by structural before => before

/-- The edits of the items that are compared one by one: `paired` of them after the first
`front`. -/
def compareItems (place : Place) (front paired index : Nat) (after : List Doc) :
    List Doc → Draft → Draft
  | [], t => t
  | a :: as, t =>
    match after with
    | [] => t
    | b :: bs =>
      let t :=
        if index < front ∨ front + paired ≤ index then t
        else compareValue true (place ++ [.item index]) b a t
      compareItems place front paired (index + 1) bs as t
termination_by structural before => before

/-- The edits of the members that both objects have, in the order of the first. -/
def compareMembers (place : Place) (after : List Member) : List Member → Draft → Draft
  | [], t => t
  | m :: ms, t => compareMembers place after ms (compareMember place after m t)
termination_by structural before => before

/-- The edits of one member, if both objects have it. -/
def compareMember (place : Place) (after : List Member) : Member → Draft → Draft
  | (name, a), t =>
    match after.lookup name with
    | none => t
    | some b => compareValue false (place ++ [.member name]) b a t
termination_by structural before => before

end

/-- A removal and an addition at one place, next to each other, are a replacement. -/
def joinReplacements : List Operation → List Operation
  | .remove p :: .add q v :: rest =>
    if p = q then .replace p v :: joinReplacements rest
    else .remove p :: joinReplacements (.add q v :: rest)
  | op :: rest => op :: joinReplacements rest
  | [] => []

/-- The edits from one document to another. -/
def changes (before after : Doc) : Patch :=
  joinReplacements ((compareValue false [] after before .start).edits.map Prod.snd)

/-- One edit as text. -/
def changeText : Operation → String
  | .remove p => "remove " ++ p.text
  | .move q p => "move " ++ q.text ++ " -> " ++ p.text
  | .add p v => "add " ++ p.text ++ ": " ++ v.ordered.compactText
  | .replace p v => "replace " ++ p.text ++ ": " ++ v.ordered.compactText

/-- What changed between the canonical forms of two documents. -/
def changeSummary (before after : Doc) : String :=
  "; ".intercalate ((changes before.canonical after.canonical).map changeText)

end Doc

end Workbench
