import Workbench.Cluster.Action
import Workbench.Doc.Canonical
import Workbench.Resource
import Workbench.Text.Blank

/-!
# The merged bundle of a namespace

The certificates that a namespace trusts are spread over config maps: one that the platform provides
and one with the root of the cluster. The operator merges them into one bundle.

* `TrustBundle.Source`, `TrustBundle.sources`: the config maps, in order;
* `TrustBundle.collect`: the valid certificates, in order; none when the platform does not provide
  any, or provides them in another way;
* `TrustBundle.publish`: the config map with the merged bundle, made or brought up to date.
-/

namespace Workbench.TrustBundle

/-- A config map with certificates. -/
structure Source where
  configMap : String
  /-- The entry without which nothing is merged at all, in a config map that has to be there. -/
  primary? : Option String
  /-- The entries, in order. -/
  keys : List String

/-- The config map that the platform provides. -/
def platformConfigMap : String := "odh-trusted-ca-bundle"

/-- The config map with the root of the cluster. -/
def clusterRootConfigMap : String := "kube-root-ca.crt"

/-- The certificates that the platform provides. -/
def platformSource : Source where
  configMap := platformConfigMap
  primary? := some bundleKey
  keys := [bundleKey, "odh-ca-bundle.crt"]

/-- The root of the cluster. -/
def clusterRootSource : Source where
  configMap := clusterRootConfigMap
  primary? := none
  keys := ["ca.crt"]

/-- The config maps with certificates, in order. -/
def sources : List Source := [platformSource, clusterRootSource]

/-- Where a config map of a namespace is kept. -/
def configMapAt (ns : Doc) (name : String) : Address := ⟨"ConfigMap", ns, name⟩

/-- An entry of a config map without the blanks around it, empty when it is missing. -/
def entry (data : Doc) (key : String) : Except Fault String := do
  return Text.strip (← ((← data.read key).orElse "").asText)

/-- The entries that are certificates, in order. -/
def validEntries (data : Doc) : (keys : List String) → Except Trouble (List String)
  | [] => return []
  | key :: keys => do
    let text ← entry data key
    let valid ← if text = "" then pure false else Certificate.accepts text
    let rest ← validEntries data keys
    return if valid then text :: rest else rest

/-- The certificates of a source, none when its primary entry is empty. -/
def Source.certificates (source : Source) (configMap : Doc) :
    Except Trouble (Option (List String)) := do
  let data := (← configMap.read "data").orElse .empty
  match source.primary? with
  | some key => if (← entry data key) = "" then return none
  | none => pure ()
  return some (← validEntries data source.keys)

/-- The certificates of the sources, none when one that has to be there is missing. -/
def collectFrom (ns : Doc) : List Source → Action (Option (List String))
  | [] => return some []
  | source :: rest => do
    match ← Action.find? (configMapAt ns source.configMap) with
    | none => if source.primary?.isSome then return none else collectFrom ns rest
    | some configMap =>
      match ← source.certificates configMap with
      | none => return none
      | some found => return (← collectFrom ns rest).map (found ++ ·)

/-- The valid certificates of a namespace, in order. -/
def collect (ns : Doc) : Action (Option (List String)) := collectFrom ns sources

/-- One file of many. -/
def join (certificates : List String) : String := "\n".intercalate certificates

/-- The config map at `address` with other data, unless it has these already. -/
def refresh (address : Address) (data : Doc) : Action Unit := do
  let found ← Action.get address
  if (← found.read "data").equivalent data then return
  Action.update (← found.put "data" data)

/-- The merged bundle of the namespace of a notebook, made or brought up to date. -/
def publish (nb : Notebook) : Action Unit := do
  let ns ← nb.namespace'
  match ← collect ns with
  | none | some [] => return
  | some certificates =>
    let address := configMapAt ns bundleConfigMap
    let bundle := join certificates
    match ← Action.find? address with
    | none => discard (Action.createUnlessThere (Resource.trustedBundle ns bundle))
    | some _ => Action.retryingOnConflict (refresh address (Resource.bundleData bundle))

end Workbench.TrustBundle
