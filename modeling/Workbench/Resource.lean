import Workbench.Doc.Printer
import Workbench.Notebook
import Workbench.Text.Base64

/-!
# The objects of a notebook

A notebook comes with objects of its own: network policies, an account, a service, a secret, a route
and a role binding. Each is made from the name, the namespace and the identity of the notebook, and
belongs to it, so the cluster drops it together with the notebook.

* `ObjectName.notebookPolicy` and the like: what they are called;
* `Owner`, `Notebook.owner`: what the objects are made from;
* `Owner.metadata`, `Owner.reference`: what all of them have in common;
* `Resource.notebookPolicy`, `Resource.oauthPolicy`, `Resource.serviceAccount`, `Resource.service`,
  `Resource.secret`, `Resource.oauthRoute`, `Resource.plainRoute`, `Resource.roleBinding`: the
  objects;
* `Resource.trustedBundle`: the bundle of certificates that a namespace shares, owned by nobody.
-/

namespace Workbench

/-! ## Names -/

/-- The label by which an object names its notebook. -/
def notebookLabel : String := "notebook-name"

/-- The port of a notebook. -/
def notebookPort : Nat := 8888

/-- The port of the sign-in proxy. -/
def oauthPort : Nat := 8443

/-- The name of the port of the sign-in proxy. -/
def oauthPortName : String := "oauth-proxy"

/-- The config map that holds the merged bundle of a namespace. -/
def bundleConfigMap : String := "workbench-trusted-ca-bundle"

/-- The entry of the merged bundle, and the file it is mounted as. -/
def bundleKey : String := "ca-bundle.crt"

/-- The role that lets notebooks run pipelines. -/
def pipelineRole : String := "ds-pipeline-user-access-dspa"

namespace ObjectName

/-- The name of the policy for the port of the notebook `name`. -/
def notebookPolicy (name : Doc) : String := name.display ++ "-ctrl-np"

/-- The name of the policy for the port of the sign-in proxy. -/
def oauthPolicy (name : Doc) : String := name.display ++ "-oauth-np"

/-- The name of the service of the sign-in proxy, and of the secret with its certificate. -/
def service (name : Doc) : String := name.display ++ "-tls"

/-- The name of the secret with the key of the proxy's cookies. -/
def secret (name : Doc) : String := name.display ++ "-oauth-config"

/-- The name of the role binding. -/
def roleBinding (name : Doc) : String := "elyra-pipelines-" ++ name.display

/-- The name of the port that the notebook itself serves on. -/
def plainPort (name : Doc) : String := "http-" ++ name.display

end ObjectName

/-! ## Owners -/

/-- The name, the namespace and the identity of a notebook. -/
structure Owner where
  name : Doc
  ns : Doc
  uid : Doc

/-- The identity of a notebook; it has to be there. -/
def Notebook.uid (nb : Notebook) : Except Fault Doc := do (← nb.require "metadata").require "uid"

/-- What the objects of a notebook are made from. -/
def Notebook.owner (nb : Notebook) : Except Fault Owner := do
  return { name := ← nb.name, ns := ← nb.namespace', uid := ← nb.uid }

namespace Owner

/-- The labels of an object of the notebook `name`. -/
def labels (name : Doc) : Doc := .obj [(notebookLabel, name)]

/-- The reference from an object to the notebook that owns it. -/
def reference (name uid : Doc) : Doc :=
  .obj [
    ("apiVersion", notebookGroup ++ "/" ++ notebookVersion),
    ("kind", notebookKind),
    ("name", name),
    ("uid", uid),
    ("controller", true),
    ("blockOwnerDeletion", true)]

/-- The metadata of an object with the name `objectName`, and with `extra` members. -/
def metadata (o : Owner) (objectName : Doc) (extra : List Member) : Doc :=
  .obj ([
    ("name", objectName),
    ("namespace", o.ns),
    ("labels", labels o.name),
    ("ownerReferences", .arr [reference o.name o.uid])] ++ extra)

end Owner

namespace Resource

/-! ## Network policies -/

/-- A policy for the pods of the notebook that lets in what `ingress` says. -/
def policy (o : Owner) (name : String) (ingress : Doc) : Doc :=
  .obj [
    ("apiVersion", "networking.k8s.io/v1"),
    ("kind", "NetworkPolicy"),
    ("metadata", o.metadata name []),
    ("spec", .obj [
      ("podSelector", .obj [("matchLabels", .obj [(notebookLabel, o.name)])]),
      ("ingress", .arr [ingress]),
      ("policyTypes", .arr ["Ingress"])])]

/-- A port that is let through. -/
def openPort (port : Nat) : Member :=
  ("ports", .arr [.obj [("protocol", "TCP"), ("port", .int port)]])

/-- Lets the operator's namespace reach the notebook's port. -/
def notebookPolicy (o : Owner) (operatorNamespace : String) : Doc :=
  policy o (ObjectName.notebookPolicy o.name) (.obj [
    openPort notebookPort,
    ("from", .arr [.obj [
      ("namespaceSelector", .obj [
        ("matchLabels", .obj [("kubernetes.io/metadata.name", operatorNamespace)])])]])])

/-- Lets everybody reach the port of the sign-in proxy. -/
def oauthPolicy (o : Owner) : Doc := policy o (ObjectName.oauthPolicy o.name) (.obj [openPort oauthPort])

/-! ## The sign-in proxy -/

/-- Where the account sends users back to, as the text of an annotation. -/
def redirectReference (o : Owner) : String :=
  Doc.spacedText (.obj [
    ("kind", "OAuthRedirectReference"),
    ("apiVersion", "v1"),
    ("reference", .obj [("kind", "Route"), ("name", o.name)])])

/-- The account that the proxy signs in as. -/
def serviceAccount (o : Owner) : Doc :=
  .obj [
    ("apiVersion", "v1"),
    ("kind", "ServiceAccount"),
    ("metadata", o.metadata o.name [("annotations", .obj [
      ("serviceaccounts.openshift.io/oauth-redirectreference.first", redirectReference o)])])]

/-- The service in front of the proxy. Its annotation makes the platform issue the certificate that
the proxy serves with. -/
def service (o : Owner) : Doc :=
  .obj [
    ("apiVersion", "v1"),
    ("kind", "Service"),
    ("metadata", o.metadata (ObjectName.service o.name) [("annotations", .obj [
      ("service.beta.openshift.io/serving-cert-secret-name", ObjectName.service o.name)])]),
    ("spec", .obj [
      ("selector", .obj [("statefulset", o.name)]),
      ("ports", .arr [.obj [
        ("name", oauthPortName),
        ("port", 443),
        ("targetPort", oauthPortName),
        ("protocol", "TCP")]])])]

/-- The secret with the key of the proxy's cookies, which is written in base 64. -/
def secret (o : Owner) (cookieKey : List UInt8) : Doc :=
  .obj [
    ("apiVersion", "v1"),
    ("kind", "Secret"),
    ("metadata", o.metadata (ObjectName.secret o.name) []),
    ("type", "Opaque"),
    ("stringData", .obj [("cookie_secret", String.ofList (Base64.encode cookieKey))])]

/-! ## Routes -/

/-- A route from outside to a port of a service. -/
def route (o : Owner) (service : Doc) (port termination : String) : Doc :=
  .obj [
    ("apiVersion", "route.openshift.io/v1"),
    ("kind", "Route"),
    ("metadata", o.metadata o.name []),
    ("spec", .obj [
      ("to", .obj [("kind", "Service"), ("name", service), ("weight", 100)]),
      ("port", .obj [("targetPort", port)]),
      ("tls", .obj [
        ("termination", termination),
        ("insecureEdgeTerminationPolicy", "Redirect")]),
      ("wildcardPolicy", "None")])]

/-- The route to the service of the proxy, encrypted again on the way. -/
def oauthRoute (o : Owner) : Doc := route o (ObjectName.service o.name) oauthPortName "reencrypt"

/-- The route straight to the service of the notebook, encrypted up to the edge. -/
def plainRoute (o : Owner) : Doc := route o o.name (ObjectName.plainPort o.name) "edge"

/-! ## Roles -/

/-- The role that lets the account of the notebook run pipelines. -/
def pipelineRoleRef : Doc :=
  .obj [
    ("apiGroup", "rbac.authorization.k8s.io"),
    ("kind", "Role"),
    ("name", pipelineRole)]

/-- The role, bound to the account of the notebook. -/
def roleBinding (o : Owner) : Doc :=
  .obj [
    ("apiVersion", "rbac.authorization.k8s.io/v1"),
    ("kind", "RoleBinding"),
    ("metadata", o.metadata (ObjectName.roleBinding o.name) []),
    ("subjects", .arr [.obj [
      ("kind", "ServiceAccount"),
      ("name", o.name),
      ("namespace", o.ns)]]),
    ("roleRef", pipelineRoleRef)]

/-! ## The shared bundle -/

/-- The members of the config map that holds the merged bundle. -/
def bundleData (bundle : String) : Doc := .obj [(bundleKey, bundle)]

/-- The config map that holds the merged bundle of a namespace. -/
def trustedBundle (ns : Doc) (bundle : String) : Doc :=
  .obj [
    ("apiVersion", "v1"),
    ("kind", "ConfigMap"),
    ("metadata", .obj [
      ("name", bundleConfigMap),
      ("namespace", ns),
      ("labels", .obj [("opendatahub.io/managed-by", "workbenches")])]),
    ("data", bundleData bundle)]

end Resource

end Workbench
