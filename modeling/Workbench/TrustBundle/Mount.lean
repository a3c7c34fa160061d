import Workbench.Failure
import Workbench.Entries
import Workbench.Resource

/-!
# The trusted bundle inside a notebook

The primary container of a notebook sees the merged bundle of its namespace as a file, and the usual
variables point there.

* `TrustBundle.mount`: the notebook with the volume, the mount and the variables;
* `TrustBundle.unmount`: the notebook without them, and whether there was anything to take away.

Variables and mounts are taken away by their names, volumes by the config map behind them.
-/

namespace Workbench

/-- The container named like the notebook, by its index; it has to be there. -/
def Notebook.primaryIndex (nb : Notebook) : Except Trouble Nat := do
  match ← nb.primaryIndex? with
  | some i => return i
  | none =>
    let name ← nb.name
    throw (.failure (.noPrimaryContainer ("notebook image container not found " ++ name.display)))

namespace TrustBundle

/-- The name of the volume and of its mount. -/
def volumeName : String := "trusted-ca"

/-- Where the container finds the bundle. -/
def mountPath : String := "/etc/pki/tls/custom-certs/ca-bundle.crt"

/-- The variables by which programs find the certificates they trust. -/
def variableNames : List String := [
  "PIP_CERT",
  "REQUESTS_CA_BUNDLE",
  "SSL_CERT_FILE",
  "PIPELINES_SSL_SA_CERTS",
  "GIT_SSL_CAINFO"]

/-- The volume with the merged bundle, which need not be there yet. -/
def volume : Doc :=
  .obj [
    ("name", volumeName),
    ("configMap", .obj [
      ("name", bundleConfigMap),
      ("optional", true),
      ("items", .arr [.obj [("key", bundleKey), ("path", bundleKey)]])])]

/-- The mount of the volume. -/
def volumeMount : Doc :=
  .obj [
    ("name", volumeName),
    ("readOnly", true),
    ("mountPath", mountPath),
    ("subPath", bundleKey)]

/-- A variable that points at the bundle. -/
def pointer (variableName : String) : Doc :=
  .obj [("name", variableName), ("value", mountPath)]

/-- The list under `name`, which counts as empty when it is missing or null, with entries put in:
each in the place of the first one of its name or at the end. -/
def putEntries (name : String) (entries : List Doc) (d : Doc) : Except Fault Doc := do
  let found ← d.read name
  let items ← if found = .null then pure [] else found.items
  d.put name (.arr (← entries.foldlM (fun items entry => putEntry entry items) items))

/-- The container with the variables and the mount. -/
def mountInContainer (container : Doc) : Except Fault Doc := do
  let container ← putEntries "env" (variableNames.map pointer) container
  putEntries "volumeMounts" [volumeMount] container

/-- The specification of the pod template with the volume. -/
def addVolume (spec : Doc) : Except Fault Doc := do
  let volumes ← Entries.ofDoc (← spec.read "volumes")
  spec.put "volumes" (.arr (← volumes.insert volume).toList)

/-- The notebook with the bundle in its primary container. -/
def mount (nb : Notebook) : Except Trouble Notebook := do
  let primary ← nb.primaryIndex
  let nb ← nb.ensurePodSpec
  let nb ← nb.modifyPodSpec addVolume
  nb.modifyContainer primary mountInContainer

/-- The list under `name` without some of its entries, and whether there were any of them. -/
def dropEntries (name : String) (drops : Doc → Except Fault Bool) (d : Doc) :
    Except Fault (Bool × Doc) := do
  let found ← d.read name
  if found.truthy then
    let (dropped, kept) ← dropWhere drops found
    return (dropped, ← d.put name kept)
  else return (false, d)

/-- A variable that points programs at certificates. -/
def isPointer : Doc → Except Fault Bool := memberIsOneOf "name" (.arr (variableNames.map .str))

/-- The mount of the bundle, or another one of its name. -/
def isMount : Doc → Except Fault Bool := memberIsOneOf "name" (.arr [.str volumeName])

/-- The container without the variables and the mount. -/
def unmountInContainer (container : Doc) : Except Fault (Bool × Doc) := do
  let (fewerVariables, container) ← dropEntries "env" isPointer container
  let (fewerMounts, container) ← dropEntries "volumeMounts" isMount container
  return (fewerVariables || fewerMounts, container)

/-- The notebook without the bundle in its primary container, and whether anything changed. -/
def unmount (nb : Notebook) : Except Trouble (Bool × Notebook) := do
  let primary ← nb.primaryIndex
  let nb ← nb.ensurePodSpec
  let (inContainer, container) ← unmountInContainer (← nb.container primary)
  let (inVolumes, spec) ← dropEntries "volumes" (Notebook.isBackedBy bundleConfigMap)
    (← nb.podSpecOf)
  let nb ← nb.modifyPodSpec fun _ => return spec
  let nb ← nb.modifyContainer primary fun _ => return container
  return (inContainer || inVolumes, nb)

end TrustBundle

end Workbench
