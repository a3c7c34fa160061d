import Workbench.FanOut
import Workbench.Reconcile

/-!
# The life of the operator

The operator starts from its environment, is told about changes of the cluster, and stops.

* `Operator.start`, `Operator.stop`: the beginning and the end;
* `Operator.notebookChanged`: a reconcile, and the delay after which it is tried again;
* `Operator.configMapChanged`, `Operator.ownedChanged`: changes that reach notebooks.
-/

namespace Workbench

/-! ## The beginning and the end -/

/-- A server for admission requests; with a certificate and a key it encrypts. -/
structure Server where
  host : String
  port : Int
  tls : Option (String × String)

/-- The server that the settings ask for, given the files that exist. -/
def Server.ofSettings (settings : Settings) (files : List String) : Server where
  host := "0.0.0.0"
  port := settings.port
  tls :=
    if files.contains settings.certificatePath && files.contains settings.keyPath then
      some (settings.certificatePath, settings.keyPath)
    else none

/-- A running operator. -/
structure Operator where
  settings : Settings
  server? : Option Server
  isStopping : Bool := false

/-- Where the operator keeps track of what it has seen. -/
structure Bookkeeping where
  /-- The group of the annotations it writes. -/
  group : String := "notebooks.opendatahub.io"
  /-- The annotation with the last state it has seen. -/
  lastSeen : String := "last-handled-configuration"
  /-- The least severity of what it reports as an event: warnings. -/
  severity : Nat := 30

namespace Operator

/-- The operator started in an environment, given the file with its namespace and the files that
exist. -/
def start (env : Settings.Environment) (namespaceFile : Option String) (files : List String) :
    Except SettingError Operator := do
  let settings ← Settings.ofEnvironment env namespaceFile
  return {
    settings
    server? := if settings.servesAdmission then some (.ofSettings settings files) else none }

/-- The operator stopped: its server is shut down and reconciles that are under way are ended. -/
def stop (o : Operator) : Operator := { o with server? := none, isStopping := true }

/-! ## Changes of notebooks -/

/-- A reconcile that failed and is tried again. -/
structure Delay where
  reason : String
  ms : Nat

/-- How long one reconcile may take, in milliseconds. -/
def reconcileTimeout : Int := 300000

/-- How long the operator waits before it tries a reconcile again. -/
def retryDelay : Nat := 10000

/-- A reconcile of a notebook. A failure delays it. -/
def notebookChanged (r : Reconciler) (ns name : Doc) : Action (Option Delay) :=
  Action.rescue (do r.reconcile ns name; return none) fun
    | .failure f => return some ⟨f.text, retryDelay⟩
    | t => throw t

/-! ## Changes that reach notebooks -/

/-- A change of a config map with certificates. The first listing is no change: every notebook is
reconciled then anyway. -/
def configMapChanged (stamp : String) (type configMap : Doc) : Action (List Request) := do
  if type = .null then return []
  FanOut.trigger stamp (← FanOut.forConfigMap configMap)

/-- The events of an object of a notebook that matter. New objects are the operator's own. -/
def reportedTypes : List Doc := ["MODIFIED", "DELETED"]

/-- A change of an object that belongs to a notebook. -/
def ownedChanged (stamp : String) (type object : Doc) : Action (List Request) := do
  if !(reportedTypes.contains type) then return []
  FanOut.trigger stamp (← FanOut.forOwned object)

end Operator

end Workbench
