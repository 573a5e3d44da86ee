import Provisioning.Json.Source
import Provisioning.Object.Managed
import Provisioning.Watch
import Provisioning.Web.Status

/-!
The management plane as a caller sees it: three calls, each on the object under a key, and why a
call fails. Whatever is behind the calls is a state that they act on. A missing object is an error
too, and the only one that callers tell apart from all others.
-/

namespace Provisioning

/-! ### Errors -/

/-- Why a call fails. `task` is what was tried and `target` the object it was tried on. -/
inductive ClientError where
  /-- A setting is not in the environment. -/
  | settingMissing (name : String)
  /-- The connection failed before there was a response. -/
  | noResponse (task target reason : String)
  /-- The response says that the request was not carried out. -/
  | badStatus (task target : String) (status : Web.Status) (body : String)
  /-- The plane took the request for a bad one. -/
  | rejected (task target reason : String)
  | notFound (target : String)
  /-- The response holds no object. -/
  | unreadable (target : String) (complaint : Json.Complaint)

namespace ClientError

/-- What is wrong with a setting that is missing. -/
def unset : String := "environment variable not found"

/-- The wording of an error. -/
def message : ClientError → String
  | settingMissing name => "Unable to read environment variable '" ++ name ++ "': " ++ unset
  | noResponse task target reason => "Unable to " ++ task ++ " " ++ target ++ ": " ++ reason
  | badStatus task target status body =>
    "Unable to " ++ task ++ " " ++ target ++ ": the API responded " ++ status.text ++ ": " ++ body
  | rejected task target reason =>
    "Unable to " ++ task ++ " " ++ target ++ ": the request was rejected: " ++ reason
  | notFound target => target ++ " was not found"
  | unreadable target complaint => "Error deserializing " ++ target ++ ": " ++ complaint.text

/-- What an error was caused by, nearest first. -/
def causes : ClientError → List String
  | settingMissing _ => [unset]
  | noResponse _ _ reason => [reason]
  | unreadable _ complaint => [complaint.text]
  | badStatus .. => []
  | rejected .. => []
  | notFound _ => []

/-- The status that an error stands for, if there is one. -/
def status? : ClientError → Option Web.Status
  | badStatus _ _ status _ => some status
  | rejected .. => some .badRequest
  | notFound _ => some .notFound
  | settingMissing _ => none
  | noResponse .. => none
  | unreadable .. => none

/-- Whether the error says that there is no such object. -/
def isNotFound (e : ClientError) : Bool := e.status? = some .notFound

@[simp] theorem isNotFound_notFound (target : String) : (notFound target).isNotFound = true := rfl

@[simp] theorem isNotFound_rejected (task target reason : String) :
    (rejected task target reason).isNotFound = false := rfl

end ClientError

/-! ### Calls -/

/-- A way to call a management plane whose state is `σ`. -/
structure Client (σ Obj : Type) where
  /-- The subscription that objects are created in. -/
  subscription : String
  get : NaturalKey → σ → Answer σ (Except ClientError Obj)
  /-- Creates the object, or replaces the one that is there. -/
  put : NaturalKey → Obj → σ → Answer σ (Except ClientError Obj)
  /-- What the client itself has to say in the log before it writes an object. -/
  announce : NaturalKey → Obj → List String := fun _ _ => []
  delete : NaturalKey → σ → Answer σ (Except ClientError Unit)

namespace Client

/-- What messages call a write. -/
def writing : String := "create or update"

end Client

end Provisioning
