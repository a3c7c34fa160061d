import Workbench.Numeral.Layout
import Workbench.Numeral.Reading
import Workbench.Text.Quoted
import Workbench.Text.Search

/-!
# Settings

The operator is set up by variables of its environment, and by a file with the namespace it runs in.

* `Settings`: what can be set, with the values that hold when nothing is;
* `Settings.flag`, `Settings.namespaceFrom`: a variable as a truth value, and the contents of the
  file as a namespace;
* `Settings.ofEnvironment`: the settings of an environment; `SettingError` says what is refused.
-/

namespace Workbench

/-- What can be set. -/
structure Settings where
  /-- The namespace of the operator, where it looks for images. -/
  ns : String := "opendatahub"
  /-- The image of the sign-in proxy. -/
  proxyImage : String := "registry.redhat.io/openshift4/ose-oauth-proxy:latest"
  /-- Notebooks are let run pipelines. -/
  pipelineAccess : Bool := false
  /-- The operator serves admission requests. -/
  servesAdmission : Bool := true
  /-- The port for admission requests. -/
  port : Int := 8443
  /-- How long a call to the cluster may take, in seconds. -/
  requestTimeout : Decimal := .finite (.ofDigits false 10 0)
  /-- The certificate for admission requests. -/
  certificatePath : String := "/tmp/k8s-webhook-server/serving-certs/tls.crt"
  /-- The key of that certificate. -/
  keyPath : String := "/tmp/k8s-webhook-server/serving-certs/tls.key"

/-- A variable that should hold a number and does not. -/
inductive SettingError where
  | notAnInteger (text : String)
  | tooManyDigits (digits : Nat)
  | notANumber (text : String)
  deriving DecidableEq

/-- The characters of a quoted text that are shown when it should have been an integer. -/
def shownWidth : Nat := 200

/-- What is refused, in words. -/
def SettingError.message : SettingError → String
  | .notAnInteger t =>
    "invalid literal for int() with base 10: " ++
      String.ofList ((Text.quotedChars t.toList).take shownWidth)
  | .tooManyDigits n =>
    "Exceeds the limit (" ++ toString digitLimit ++
      " digits) for integer string conversion: value has " ++ toString n ++
      " digits; use sys.set_int_max_str_digits() to increase the limit"
  | .notANumber t => "could not convert string to float: " ++ Text.quoted t

namespace Settings

/-- The variables of an environment. -/
abbrev Environment := List (String × String)

/-- A variable is the word `true`, blanks and case aside. Only the letters of ASCII have `true` as
their lower case. -/
def flag (value : Option String) : Bool :=
  (Text.strip (value.getD "")).toList.map Char.toLower == "true".toList

/-- The default when a text is empty. -/
def orDefault (default text : String) : String := if text = "" then default else text

/-- The namespace in the contents of a file, which need not exist. -/
def namespaceFrom (file : Option String) : String :=
  match file with
  | some contents =>
    orDefault ({} : Settings).ns (Text.strip (String.ofList (Text.oneLineEnd contents.toList)))
  | none => ({} : Settings).ns

/-- A variable read as an integer. -/
def integer (default : Int) (value : Option String) : Except SettingError Int :=
  match value with
  | none => return default
  | some t => match readInteger t with
    | .ok n => return n
    | .error .notInteger => throw (.notAnInteger t)
    | .error (.tooLong n) => throw (.tooManyDigits n)

/-- A variable read as a number. -/
def number (default : Decimal) (value : Option String) : Except SettingError Decimal :=
  match value with
  | none => return default
  | some t => match readDecimal? t with
    | some d => return d
    | none => throw (.notANumber t)

/-- The settings of an environment and a file with the namespace. -/
def ofEnvironment (env : Environment) (namespaceFile : Option String) :
    Except SettingError Settings := do
  let unset : Settings := {}
  return {
    ns := orDefault (namespaceFrom namespaceFile) ((env.lookup "CONTROLLER_NAMESPACE").getD "")
    proxyImage := (env.lookup "OAUTH_PROXY_IMAGE").getD unset.proxyImage
    pipelineAccess := flag (env.lookup "SET_PIPELINE_RBAC")
    servesAdmission := flag ((env.lookup "ENABLE_WEBHOOK").or (some "true"))
    port := ← integer unset.port (env.lookup "WEBHOOK_PORT")
    requestTimeout := ← number unset.requestTimeout (env.lookup "KUBE_REQUEST_TIMEOUT")
    certificatePath := (env.lookup "WEBHOOK_CERT_PATH").getD unset.certificatePath
    keyPath := (env.lookup "WEBHOOK_KEY_PATH").getD unset.keyPath }

end Settings

end Workbench
