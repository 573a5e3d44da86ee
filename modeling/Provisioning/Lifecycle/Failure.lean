import Provisioning.Binding.Basic
import Provisioning.Plane.Client

/-!
Why an operation on a managed object fails. Each failure belongs to one class, from which a caller
knows whether trying again can help, and tells what it leaves behind.
-/

namespace Provisioning

/-- What was being done when a call failed. -/
inductive Task where
  | checkForExisting
  | write
  | readBack
  | poll
  | read
  | delete
  | awaitDeletion
  | expand
  | flatten
deriving DecidableEq

/-- How messages name a task. -/
def Task.text : Task → String
  | .checkForExisting => "check for existing"
  | .write => "create or update"
  | .readBack => "read back"
  | .poll => "poll"
  | .read => "read"
  | .delete => "delete"
  | .awaitDeletion => "wait for deletion of"
  | .expand => "expand"
  | .flatten => "flatten"

/-- What was waited for when the time was up. -/
inductive Goal where
  | provisioned
  | deleted
deriving DecidableEq

/-- How messages name a goal. -/
def Goal.text : Goal → String
  | .provisioned => "finish provisioning"
  | .deleted => "be deleted"

/-- Why an operation fails. -/
inductive Failure where
  | invalidDocument (report : Report)
  | invalidId (cause : InvalidId)
  /-- The identifier is that of an object of another type. -/
  | wrongType (id : String)
  /-- The identifier and the document speak of different objects. -/
  | keyMismatch (id : String) (idKey documentKey : NaturalKey)
  | updateNotSupported
  /-- There is an object under the key already. -/
  | alreadyExists (key : NaturalKey) (id : String)
  /-- A call to the management plane failed. -/
  | remote (task : Task) (key : NaturalKey) (cause : ClientError)
  /-- The binding failed. -/
  | binding (task : Task) (key : NaturalKey) (cause : BindingError)
  /-- A state was reported that is neither pending nor a target. -/
  | provisioningFailed (key : NaturalKey) (state : State) (expected : String)
  | timedOut (key : NaturalKey) (goal : Goal) (limit : Millis) (last : Option State)
  /-- The object was written, but has no identifier. -/
  | missingId (key : NaturalKey)
  /-- The object was written, but is not there. -/
  | vanished (key : NaturalKey)

/-- The classes of failures that callers tell apart. -/
inductive Failure.Class where
  /-- The document or the identifier is wrong; nothing was sent. -/
  | validation
  /-- There is an object already, which may be imported instead. -/
  | conflict
  | remote
  /-- Trying the same again cannot help. -/
  | terminal
  /-- The operation may still be completed. -/
  | timeout
  /-- The management plane did what it should not. -/
  | internal
deriving DecidableEq

namespace Failure

/-- The wording of a failure for objects of the given kind. -/
def message (kind : String) : Failure → String
  | invalidDocument report => "Invalid " ++ kind ++ " document: " ++ report.text
  | invalidId cause => "Invalid " ++ kind ++ " id: " ++ cause.message
  | wrongType id => "Id '" ++ id ++ "' does not refer to a " ++ kind
  | keyMismatch id idKey documentKey =>
    "Id '" ++ id ++ "' refers to " ++ idKey.text ++ " but the document describes "
      ++ documentKey.text
  | updateNotSupported => "A " ++ kind ++ " cannot be updated in place, it must be replaced"
  | alreadyExists key id =>
    "A " ++ kind ++ " named " ++ key.text ++ " already exists with id '" ++ id
      ++ "', import it instead of creating it"
  | remote task key cause =>
    "Unable to " ++ task.text ++ " " ++ kind ++ " " ++ key.text ++ ": " ++ cause.message
  | binding task key cause =>
    "Unable to " ++ task.text ++ " " ++ kind ++ " " ++ key.text ++ ": " ++ cause.message
  | provisioningFailed key state expected =>
    "The " ++ kind ++ " " ++ key.text ++ " reached provisioning state '" ++ state.label
      ++ "' while waiting for one of [" ++ expected ++ "]"
  | timedOut key goal limit last =>
    "Timed out after " ++ limit.text ++ " waiting for " ++ kind ++ " " ++ key.text ++ " to "
      ++ goal.text ++ ", last observed state: " ++ (last.map State.label).getD "none"
  | missingId key =>
    "The " ++ kind ++ " " ++ key.text ++ " was written but the API returned no id for it"
  | vanished key =>
    "The " ++ kind ++ " " ++ key.text ++ " could not be read back after it was written"

/-- What a failure was caused by, nearest first. -/
def causes : Failure → List String
  | invalidId cause => [cause.message]
  | remote _ _ cause => cause.message :: cause.causes
  | binding _ _ cause => cause.message :: cause.message :: cause.causes
  | _ => []

/-- The class of a failure. -/
def toClass : Failure → Class
  | invalidDocument _ => .validation
  | invalidId _ => .validation
  | wrongType _ => .validation
  | keyMismatch .. => .validation
  | updateNotSupported => .validation
  | alreadyExists .. => .conflict
  | remote .. => .remote
  | binding .. => .internal
  | provisioningFailed .. => .terminal
  | timedOut .. => .timeout
  | missingId _ => .internal
  | vanished _ => .internal

/-- What a failure leaves behind. -/
def residue : Failure → Residue
  | invalidDocument _ => .clear
  | invalidId _ => .clear
  | wrongType _ => .clear
  | keyMismatch .. => .clear
  | updateNotSupported => .clear
  | alreadyExists .. => .clear
  | remote .. => .unknown
  | binding _ _ cause => cause.residue
  | provisioningFailed .. => .remaining
  | timedOut .. => .remaining
  | missingId _ => .remaining
  | vanished _ => .unknown

end Failure

end Provisioning
