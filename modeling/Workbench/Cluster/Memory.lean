import Workbench.Cluster.Action
import Workbench.Doc.MergePatch

/-!
# A cluster in memory

The objects of a cluster, each with a version. A write gives an object the next version of the whole
cluster, and an update has to name the version that it replaces.

* `Address.looseEq`, `Address.precedes`: addresses of one object, and the order of addresses;
* `Memory`: the objects in the order in which they were first put in;
* `Memory.find?`, `Memory.put`, `Memory.drop`, `Memory.ofKind`: look-up, a write, a removal, and the
  objects of a kind;
* `Memory.serve`: the answer to a call, and the objects afterwards;
* `Memory.host`: the cluster as a host, on which no time passes.
-/

namespace Workbench

namespace Address

/-- Something can be kept at an address: lists and objects are no parts of one. -/
def check (a : Address) : Except Fault Unit := do
  discard a.kind.asKey
  discard a.ns.asKey
  discard a.name.asKey

/-- Addresses of one object: their parts are equal by value. -/
def looseEq (a b : Address) : Bool :=
  a.kind.looseEq b.kind && a.ns.looseEq b.ns && a.name.looseEq b.name

/-- An address comes before another one: the first part that differs decides. -/
def precedes (a b : Address) : Except Fault Bool :=
  if !a.kind.looseEq b.kind then a.kind.precedes b.kind
  else if !a.ns.looseEq b.ns then a.ns.precedes b.ns
  else a.name.precedes b.name

end Address

/-- An object and where it is kept. -/
abbrev Kept := Address × Doc

/-- Objects, each with the address under which one was first put in, and the last version that was
given. -/
structure Memory where
  objects : List Kept := []
  version : Nat := 0

namespace Memory

/-- Where an object is to be kept. A cluster reads the metadata first. -/
def addressOf (d : Doc) : Except Fault Address := do
  let metadata ← d.require "metadata"
  return {
    kind := ← d.require "kind"
    ns := ← metadata.require "namespace"
    name := ← metadata.require "name" }

/-- The object at an address. -/
def find? (m : Memory) (address : Address) : Except Fault (Option Doc) := do
  address.check
  return (m.objects.find? (·.1.looseEq address)).map Prod.snd

/-- The objects with one put in: in the place of the one at its address, or at the end. -/
def insert (address : Address) (d : Doc) : List Kept → List Kept
  | [] => [(address, d)]
  | (a, e) :: rest =>
    if a.looseEq address then (a, d) :: rest else (a, e) :: insert address d rest

/-- The identity that an object gets when it comes without one. -/
def identityFor (address : Address) : Doc :=
  .str ("auto-" ++ address.kind.display ++ "-" ++ address.ns.display ++ "-" ++
    address.name.display)

/-- The object as it is kept: with an identity and a version. -/
def stamped (address : Address) (version : Nat) (d : Doc) : Except Fault Doc :=
  d.modify "metadata" fun metadata => do
    let metadata ← metadata.ensure "uid" (identityFor address)
    metadata.put "resourceVersion" (toString version)

/-- An object put in, with the next version. The object has to say where it belongs; the version is
used up even if nothing can be kept there. -/
def put (m : Memory) (d : Doc) : Except Fault Doc × Memory :=
  match addressOf d with
  | .error f => (.error f, m)
  | .ok address =>
    let version := m.version + 1
    match address.check with
    | .error f => (.error f, { m with version })
    | .ok () =>
      match stamped address version d with
      | .error f => (.error f, m)
      | .ok d => (.ok d, { objects := insert address d m.objects, version })

/-- The objects without the one at an address. -/
def drop (m : Memory) (address : Address) : Memory :=
  { m with objects := m.objects.filter fun e => !e.1.looseEq address }

/-- An object put in front of the first one that it comes before. -/
def insertInOrder (e : Kept) : List Kept → Except Fault (List Kept)
  | [] => return [e]
  | f :: fs => do
    if ← e.1.precedes f.1 then return e :: f :: fs
    else return f :: (← insertInOrder e fs)

/-- All objects in the order of their addresses. They have none when two of them differ first in
parts that have no order. -/
def inOrder (m : Memory) : Except Fault (List Kept) :=
  m.objects.foldlM (fun sorted e => insertInOrder e sorted) []

/-- The objects of a kind in a namespace, in the order of their names. All objects of the cluster
have to have an order for that. -/
def ofKind (m : Memory) (kind ns : Doc) : Except Fault (List Doc) := do
  discard kind.asKey
  let found := (← m.inOrder).filter fun e => e.1.kind.looseEq kind && e.1.ns.looseEq ns
  return found.map Prod.snd

/-- The object is not there. -/
def missing (verb : String) (a : Address) : Trouble :=
  .failure (.notFound (verb ++ " " ++ a.text ++ " not found") 404)

/-- The object is there, or was written by somebody else. -/
def conflicting (verb : String) (a : Address) (why : String) : Trouble :=
  .failure (.conflict (verb ++ " " ++ a.text ++ " " ++ why) 409)

/-- A write that names the version that is there. -/
def isCurrent (found d : Doc) : Except Fault Bool := do
  let given ← (← d.require "metadata").read "resourceVersion"
  let kept ← (← found.require "metadata").require "resourceVersion"
  return given.looseEq kept

/-- The object at an address; it has to be there. -/
def fetch (m : Memory) (verb : String) (address : Address) : Except Trouble Doc := do
  match ← m.find? address with
  | some d => return d
  | none => throw (missing verb address)

/-- The answer to a write that puts in an object, if it may. -/
def write (m : Memory) (checked : Except Trouble Doc) : Except Trouble Doc × Memory :=
  match checked with
  | .error t => (.error t, m)
  | .ok d =>
    let (r, m) := m.put d
    (r.mapError .fault, m)

/-- The object of a `create`, if there is none at its address. -/
def checkCreate (m : Memory) (d : Doc) : Except Trouble Doc := do
  let address ← addressOf d
  if (← m.find? address).isSome then throw (conflicting "create" address "already exists")
  return d

/-- The object of an `update`, if it names the version that is there. -/
def checkUpdate (m : Memory) (d : Doc) : Except Trouble Doc := do
  let address ← addressOf d
  let found ← m.fetch "update" address
  if ← isCurrent found d then return d
  throw (conflicting "update" address "stale resourceVersion")

/-- The answer to a call, and the objects afterwards. -/
def serve (m : Memory) : Call → Except Trouble Doc × Memory
  | .get address => (m.fetch "get" address, m)
  | .list kind ns => (return .arr (← m.ofKind kind ns), m)
  | .create d => m.write (m.checkCreate d)
  | .update d => m.write (m.checkUpdate d)
  | .patch address patch => m.write (do return (← m.fetch "patch" address).merge patch)
  | .delete address =>
    match m.fetch "delete" address with
    | .ok _ => (return .null, m.drop address)
    | .error t => (throw t, m)

/-- The objects with one put in, if it says where it belongs. -/
def putChecked (m : Memory) (d : Doc) : Except Fault Memory :=
  match m.put d with
  | (.ok _, m) => return m
  | (.error f, _) => throw f

/-- A cluster with some objects, put in one after the other. -/
def ofObjects (objects : List Doc) : Except Fault Memory := objects.foldlM putChecked {}

/-- The cluster as a host. No time passes. -/
def host : Host Memory where
  serve c m := m.serve c
  pause _ m := (return, m)

end Memory

end Workbench
