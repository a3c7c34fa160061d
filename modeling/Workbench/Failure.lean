import Workbench.Certificate.X509
import Workbench.Doc.Access

/-!
# What can go wrong

* `Failure`: an operation did not succeed; programs catch these by their kind, and the text says
  what happened;
* `Trouble`: everything that can end a program: a failure, a document that nobody checked, or a
  certificate of an unsupported version. Only failures are ever caught.
-/

namespace Workbench

/-- An operation did not succeed. -/
inductive Failure where
  /-- The cluster does not have the object. -/
  | notFound (text : String) (status : Int)
  /-- The object was written by somebody else since, or exists already. -/
  | conflict (text : String) (status : Int)
  /-- The cluster answered with another error. -/
  | unexpected (text : String) (status : Int)
  /-- The run was cancelled, or ran past its deadline. -/
  | cancelled (text : String)
  /-- An image selection does not name an image and a tag. -/
  | badSelection (text : String)
  /-- A notebook has no container of its own name. -/
  | noPrimaryContainer (text : String)
  /-- A service account has no pull secret yet. -/
  | noPullSecret (text : String)
  /-- Any other failure. -/
  | other (text : String)
  deriving DecidableEq

namespace Failure

/-- What happened, in words. -/
def text : Failure → String
  | .notFound t _ | .conflict t _ | .unexpected t _ => t
  | .cancelled t | .badSelection t | .noPrimaryContainer t | .noPullSecret t | .other t => t

/-- The cluster reported the failure. -/
def ofCluster : Failure → Bool
  | .notFound .. | .conflict .. | .unexpected .. => true
  | _ => false

end Failure

/-- What ends a program without a result. -/
inductive Trouble where
  | failure (cause : Failure)
  | fault (cause : Fault)
  | unsupportedVersion (cause : Certificate.UnsupportedVersion)
  deriving DecidableEq

namespace Trouble

/-- The cluster does not have an object. -/
def isNotFound : Trouble → Bool
  | .failure (.notFound ..) => true
  | _ => false

/-- A write conflicts with another one. -/
def isConflict : Trouble → Bool
  | .failure (.conflict ..) => true
  | _ => false

/-- The run was cancelled. -/
def isCancelled : Trouble → Bool
  | .failure (.cancelled _) => true
  | _ => false

/-- An operation did not succeed. -/
def isFailure : Trouble → Bool
  | .failure _ => true
  | _ => false

end Trouble

/-- A fault of a document ends the program that reads it. -/
instance : MonadLift (Except Fault) (Except Trouble) := ⟨Except.mapError .fault⟩

/-- So does a certificate of an unsupported version. -/
instance : MonadLift (Except Certificate.UnsupportedVersion) (Except Trouble) :=
  ⟨Except.mapError .unsupportedVersion⟩

end Workbench
