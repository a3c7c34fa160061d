import Workbench.Doc.Access

/-!
# Lists of named entries

Containers and volumes are unique by name: `Entries` keeps one entry for each name, at the place
of the first and with the contents of the last one given. Environment variables and mounts may
repeat a name, so they are edited in place.

* `Entries.ofList`, `Entries.insert`, `Entries.toList`: the list with one entry a name;
* `putEntry`: the first entry of a name replaced, or the entry added;
* `dropWhere`: a list without some of its entries, and whether there were any.
-/

namespace Workbench

/-- Entries in order, each with what its name counts as. -/
structure Entries where
  keyed : List (Doc × Doc)

namespace Entries

/-- No entries. -/
def empty : Entries := ⟨[]⟩

/-- What the name of an entry counts as. An entry has a name, and it is no list or object. -/
def keyOf (entry : Doc) : Except Fault Doc := do (← entry.require "name").asKey

/-- The entries with the one of the same key replaced, or the new one at the end. -/
def set (key entry : Doc) : List (Doc × Doc) → List (Doc × Doc)
  | [] => [(key, entry)]
  | (k, e) :: rest => if k = key then (k, entry) :: rest else (k, e) :: set key entry rest

/-- The list with an entry put in: in the place of the one with its name, else at the end. -/
def insert (l : Entries) (entry : Doc) : Except Fault Entries := do
  return ⟨set (← keyOf entry) entry l.keyed⟩

/-- The list of entries given one after the other. -/
def ofList (entries : List Doc) : Except Fault Entries := entries.foldlM insert empty

/-- The list of the entries of a document, none when it counts as empty. -/
def ofDoc (d : Doc) : Except Fault Entries := do
  if d.truthy then ofList (← d.elements) else return empty

/-- The entries in order. -/
def toList (l : Entries) : List Doc := l.keyed.map Prod.snd

end Entries

/-- The first entry with the name of `entry` replaced by it, or `entry` at the end. Names are
compared by value, and an entry without a name has the name null. -/
def putEntry (entry : Doc) : List Doc → Except Fault (List Doc)
  | [] => .ok [entry]
  | e :: es => do
    let name ← e.read "name"
    if name.looseEq (← entry.require "name") then return entry :: es
    else return e :: (← putEntry entry es)

/-- The entries that `drops` does not hold of. -/
def keepUnless (drops : Doc → Except Fault Bool) : List Doc → Except Fault (List Doc)
  | [] => .ok []
  | e :: es => do
    let drop ← drops e
    let kept ← keepUnless drops es
    return if drop then kept else e :: kept

/-- A list without the entries that `drops` holds of, and whether there were any. A document that
loses none stays as it is. -/
def dropWhere (drops : Doc → Except Fault Bool) (d : Doc) : Except Fault (Bool × Doc) := do
  let entries ← d.elements
  let kept ← keepUnless drops entries
  return if kept.length = entries.length then (false, d) else (true, .arr kept)

/-- A member of an entry is one of some values. -/
def memberIsOneOf (name : String) (values entry : Doc) : Except Fault Bool := do
  values.contains (← entry.read name)

end Workbench
