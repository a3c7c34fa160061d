import Workbench.Admission.Endpoint
import Workbench.Cluster.Interface
import Workbench.Cluster.Rehearsal
import Workbench.Lifecycle
import Workbench.Proofs.Cluster.Run
import Workbench.Proofs.Notebook
import Workbench.Proofs.Admission.Handler
import Workbench.Proofs.Admission.RestartGuard
import Workbench.Proofs.Cluster.Memory
import Workbench.Proofs.Cluster.Safe
import Workbench.Proofs.Cluster.Version
import Workbench.Proofs.Cluster.Calls
import Workbench.Proofs.Reconcile.Aspect
import Workbench.Proofs.Reconcile.Drift
import Workbench.Proofs.Cluster.Reads
import Workbench.Proofs.TrustBundle.Publish
import Workbench.Proofs.Doc.MergePatch
import Workbench.Proofs.TrustBundle.Mount
import Workbench.Proofs.Cluster.Local
import Workbench.Proofs.Reconcile.Steps
import Workbench.Proofs.Reconcile.Runs
import Workbench.Proofs.Reconcile.Settled
import Workbench.Proofs.Reconcile.Idempotent
import Workbench.Proofs.Reconcile.Independent
import Workbench.Proofs.Cluster.Interrupted
import Workbench.Proofs.Cluster.Resumes
import Workbench.Proofs.Reconcile.Resumes
import Workbench.Proofs.Reconcile.Retried
import Workbench.Proofs.Cluster.Dated
import Workbench.Proofs.Cluster.Shared
import Workbench.Proofs.Doc.Places
import Workbench.Proofs.Reconcile.Contended
import Workbench.Proofs.Doc.Patched
import Workbench.Proofs.TrustBundle.Withdrawn
import Workbench.Proofs.Cluster.Spares
import Workbench.Proofs.Reconcile.Overwritten
import Workbench.Proofs.Entries
import Workbench.Proofs.Admission.Containers
import Workbench.Proofs.Admission.Template
import Workbench.Proofs.Annotations
import Workbench.Proofs.PodTemplate
import Workbench.Proofs.Admission.Edits
import Workbench.Proofs.Doc.Patch
import Workbench.Proofs.Admission.Reinvocation
import Workbench.Proofs.Doc.Order
import Workbench.Proofs.Metadata
import Workbench.Proofs.Admission.Deferral
import Workbench.Proofs.Cluster.Mishaps
import Workbench.Proofs.Cluster.Growth
import Workbench.Proofs.Reconcile.Guarded
import Workbench.Proofs.Reconcile.SignIn
import Workbench.Proofs.Cluster.Replies
import Workbench.Proofs.Shape
import Workbench.Proofs.Admission.Serviceable
import Workbench.Proofs.Admission.Answered
import Workbench.Proofs.Cluster.Journal
import Workbench.Proofs.Cluster.Watch
import Workbench.Proofs.Reconcile.GivesUp
import Workbench.Proofs.Reconcile.Watched
import Workbench.Proofs.Admission.Closed
import Workbench.Proofs.Doc.Within
import Workbench.Proofs.Others
import Workbench.Proofs.Within
import Workbench.Proofs.Admission.Frame
import Workbench.Proofs.Cluster.Confined
import Workbench.Proofs.Cluster.Elsewhere
import Workbench.Proofs.FanOut
import Workbench.Proofs.Reconcile.Confined
import Workbench.Proofs.Reconcile.Footprint
import Workbench.Proofs.Certificate.Accepts
import Workbench.Proofs.TrustBundle.Collect
import Workbench.Proofs.Certificate.Pem
import Workbench.Proofs.TrustBundle.Readable
import Workbench.Proofs.FanOut.Sources
import Workbench.Proofs.Admission.Released
import Workbench.Proofs.Doc.Alike
import Workbench.Proofs.Doc.Difference
import Workbench.Proofs.Numeral.Layout
import Workbench.Proofs.Doc.Texts
import Workbench.Proofs.Doc.Printer
import Workbench.Proofs.Doc.Meaning
import Workbench.Proofs.Admission.Sidecar
import Workbench.Proofs.TrustBundle.Unmount
import Workbench.Proofs.Admission.Primary
import Workbench.Proofs.Admission.Newest
import Workbench.Proofs.Admission.Picked
import Workbench.Proofs.TrustBundle.RoundTrip
import Workbench.Proofs.Cluster.Tries
import Workbench.Proofs.FanOut.Reported
import Workbench.Proofs.Entries.LastGiven
import Workbench.Proofs.TrustBundle.Pointers
import Workbench.Proofs.Numeral.Padded
import Workbench.Proofs.Calendar
import Workbench.Proofs.Timestamp
import Workbench.Proofs.Admission.Registry
