import Workbench.Cluster.Action
import Workbench.Notebook
import Workbench.Timestamp

/-!
# The image of a notebook

A user picks an image by a name and a tag. Image streams say which image a tag stands for: each tag
has items with an image and the time it was made, and the newest one counts.

* `Image.newest?`: the image of the newest item;
* `Image.find?`: the image that a name and a tag stand for;
* `Image.Selection`: a name and a tag, read from the text `name:tag`;
* `Image.resolve`: the notebook with the image that was picked.
-/

namespace Workbench.Image

/-- The registry of the cluster itself. Images from there are final. -/
def clusterRegistry : String := "image-registry.openshift-image-registry.svc:5000"

/-- The variable by which a notebook knows its own image. -/
def variableName : String := "JUPYTER_IMAGE"

/-! ## Image streams -/

/-- An image and when it was made. -/
structure Made where
  created : Timestamp
  reference : Doc

/-- The image of an item, if it has a time and an image. -/
def made? (item : Doc) : Except Fault (Option Made) := do
  let created ← item.read "created"
  let reference ← item.read "dockerImageReference"
  match created with
  | .str text =>
    match Timestamp.parse? text with
    | some t => return if reference.truthy then some ⟨t, reference⟩ else none
    | none => return none
  | _ => return none

/-- The later of two images, the first one when they were made at the same instant. -/
def later (best : Option Made) (m : Made) : Option Made :=
  match best with
  | none => some m
  | some b => if b.created.instant < m.created.instant then some m else some b

/-- The newest of some images, starting from the best one so far. -/
def newestFrom (best : Option Made) : (items : List Doc) → Except Fault (Option Made)
  | [] => return best
  | item :: rest => do
    match ← made? item with
    | some m => newestFrom (later best m) rest
    | none => newestFrom best rest

/-- The image of the newest item, if any has one. -/
def newest? (items : List Doc) : Except Fault (Option Doc) := do
  return (← newestFrom none items).map Made.reference

/-- The image that `tag` stands for, the first time that it stands for one. -/
def findTag? (tag : Doc) : (tags : List Doc) → Except Fault (Option Doc)
  | [] => return none
  | t :: rest => do
    if !((← t.read "tag").looseEq tag) then findTag? tag rest
    else
      let items := (← t.read "items").orElse (.arr [])
      match ← newest? (← items.elements) with
      | some reference => return some reference
      | none => findTag? tag rest

/-- The image that a name and a tag stand for, the first time that they stand for one. Both are
compared by value, and one that is missing is null. -/
def find? (name tag : Doc) : (streams : List Doc) → Except Fault (Option Doc)
  | [] => return none
  | stream :: rest => do
    let metadata := (← stream.read "metadata").orElse .empty
    if !((← metadata.read "name").looseEq name) then find? name tag rest
    else
      let status := (← stream.read "status").orElse .empty
      let tags := (← status.read "tags").orElse (.arr [])
      match ← findTag? tag (← tags.elements) with
      | some reference => return some reference
      | none => find? name tag rest

/-! ## Selections -/

/-- An image by its name and tag. -/
structure Selection where
  name : String
  tag : String

/-- The selection that a text writes: two parts with a colon between them. -/
def Selection.ofText (text : String) : Except Trouble Selection :=
  match Text.splitAt ':' text.toList with
  | [name, tag] => return ⟨String.ofList name, String.ofList tag⟩
  | _ => throw (.failure (.badSelection ("invalid image selection format: " ++ Text.quoted text)))

/-- The variables with the one for the image set, if it is there. -/
def putVariable (selection : Doc) : (env : List Doc) → Except Fault (List Doc)
  | [] => return []
  | v :: rest => do
    if (← v.read "name").looseEq variableName then
      return (← (← v.put "value" selection).remove "valueFrom") :: rest
    else return v :: (← putVariable selection rest)

/-- The container with an image, and with the variable for it set if it is there. -/
def putImage (reference selection container : Doc) : Except Fault Doc := do
  let container ← container.put "image" reference
  let env ← container.read "env"
  if env.truthy then
    container.put "env" (.arr (← putVariable selection (← env.items)))
  else return container

/-- The image that a selection stands for in a namespace. -/
def lookUp (ns : String) (selection : Doc) : Action (Option Doc) := do
  let selection ← Selection.ofText (← selection.asText)
  let streams ← Action.list "ImageStream" ns
  find? selection.name selection.tag (← streams.elements)

/-- The notebook with the image that was picked, looked up in the operator's namespace. It stays as
it is when nothing was picked, when its image comes from the registry of the cluster, or when the
selection stands for no image. -/
def resolve (operatorNamespace : String) (nb : Notebook) : Action Notebook := do
  let selection ← nb.annotationValue AnnotationKey.imageSelection
  if selection = .null then return nb
  let primary? ← nb.primaryIndex?
  let nb ← nb.ensurePodSpec
  match primary? with
  | none => return nb
  | some i =>
    let image := (← (← nb.container i).read "image").orElse ""
    if ← image.contains clusterRegistry then return nb
    match ← lookUp operatorNamespace selection with
    | none => return nb
    | some reference => nb.modifyContainer i (putImage reference selection)

end Workbench.Image
