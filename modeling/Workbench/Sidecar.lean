import Workbench.Entries
import Workbench.Resource

/-!
# The sign-in proxy

A notebook that asks for sign-in gets a second container in front of its own port. The container
takes its cookie key and its certificate from two volumes, and lets in whoever may read the
notebook.

* `Sidecar.container`: the container;
* `Sidecar.inject`: the notebook with the container, its volumes and its account.
-/

namespace Workbench.Sidecar

/-- The name of the container. -/
def containerName : String := "oauth-proxy"

/-- The volume with the key of the cookies. -/
def configVolume : String := "oauth-config"

/-- The volume with the certificate. -/
def certificateVolume : String := "tls-certificates"

/-- A check of the container's health that starts after a delay in seconds. -/
def healthCheck (delay : Nat) : Doc :=
  .obj [
    ("httpGet", .obj [
      ("path", "/oauth/healthz"),
      ("port", oauthPortName),
      ("scheme", "HTTPS")]),
    ("initialDelaySeconds", .int delay),
    ("timeoutSeconds", 1),
    ("periodSeconds", 5),
    ("successThreshold", 1),
    ("failureThreshold", 3)]

/-- The question that the proxy asks of the cluster: may this user read this notebook? -/
def accessReview (name : Doc) : Doc :=
  .obj [
    ("verb", "get"),
    ("resource", notebookPlural),
    ("resourceAPIGroup", notebookGroup),
    ("resourceName", name),
    ("namespace", "$(NAMESPACE)")]

/-- The arguments of the proxy in front of the notebook `name`. -/
def arguments (name : Doc) : List String := [
  "--provider=openshift",
  "--https-address=:" ++ toString oauthPort,
  "--http-address=",
  "--openshift-service-account=" ++ name.display,
  "--cookie-secret-file=/etc/oauth/config/cookie_secret",
  "--cookie-expire=24h0m0s",
  "--tls-cert=/etc/tls/private/tls.crt",
  "--tls-key=/etc/tls/private/tls.key",
  "--upstream=http://localhost:" ++ toString notebookPort,
  "--upstream-ca=/var/run/secrets/kubernetes.io/serviceaccount/ca.crt",
  "--email-domain=*",
  "--skip-provider-button",
  "--openshift-sar=" ++ (accessReview name).compactText]

/-- The argument that says where a user who signs out is sent, if there is such a place. -/
def logoutArguments (url : Doc) : List String :=
  if url.truthy then ["--logout-url=" ++ url.display] else []

/-- What the container may use, and is promised. -/
def allowance : Doc := .obj [("cpu", "100m"), ("memory", "64Mi")]

/-- The container with the arguments given. -/
def containerWith (image : String) (args : List String) : Doc :=
  .obj [
    ("name", containerName),
    ("image", image),
    ("imagePullPolicy", "Always"),
    ("env", .arr [.obj [
      ("name", "NAMESPACE"),
      ("valueFrom", .obj [("fieldRef", .obj [("fieldPath", "metadata.namespace")])])]]),
    ("args", .arr (args.map .str)),
    ("ports", .arr [.obj [
      ("name", oauthPortName),
      ("containerPort", .int oauthPort),
      ("protocol", "TCP")]]),
    ("livenessProbe", healthCheck 30),
    ("readinessProbe", healthCheck 5),
    ("resources", .obj [("requests", allowance), ("limits", allowance)]),
    ("volumeMounts", .arr [
      .obj [("name", configVolume), ("mountPath", "/etc/oauth/config")],
      .obj [("name", certificateVolume), ("mountPath", "/etc/tls/private")]])]

/-- The container in front of a notebook. -/
def container (nb : Notebook) (image : String) : Except Fault Doc := do
  let name ← nb.name
  let url ← nb.annotationValue AnnotationKey.logoutUrl
  return containerWith image (arguments name ++ logoutArguments url)

/-- A volume with the contents of a secret, readable by all. -/
def volumeOfSecret (name secretName : String) : Doc :=
  .obj [
    ("name", name),
    ("secret", .obj [("secretName", secretName), ("defaultMode", 0o644)])]

/-- The notebook with the container and its volumes, each in the place of the one of its name or at
the end, and with the account of its own name. -/
def inject (image : String) (nb : Notebook) : Except Fault Notebook := do
  let name ← nb.name
  let nb ← nb.ensurePodSpec
  let spec ← nb.podSpecOf
  let containers ← Entries.ofDoc (← spec.read "containers")
  let containers ← containers.insert (← container nb image)
  let volumes ← Entries.ofDoc (← spec.read "volumes")
  let volumes ← volumes.insert (volumeOfSecret configVolume (ObjectName.secret name))
  let volumes ← volumes.insert (volumeOfSecret certificateVolume (ObjectName.service name))
  nb.modifyPodSpec fun spec => do
    let spec ← spec.put "containers" (.arr containers.toList)
    let spec ← spec.put "volumes" (.arr volumes.toList)
    spec.put "serviceAccountName" name

end Workbench.Sidecar
