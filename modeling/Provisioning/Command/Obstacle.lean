import Provisioning.Command.Content
import Provisioning.Document.Form
import Provisioning.Lifecycle.Basic
import Provisioning.Yaml.Reader

/-!
Why a command fails. A user is told what the command was about to do and every cause behind that,
nearest first.
-/

namespace Provisioning.Command

/-- What an operation was run for. -/
inductive Aim where
  | plan
  | apply (file : String)
  | read (id : String)
  | delete (id : String)

/-- Why a command fails. -/
inductive Obstacle where
  | documentUnread (file reason : String)
  | documentUnparsed (file : String) (flaw : Yaml.Flaw)
  | documentMalformed (file : String) (cause : DocumentError)
  | documentInvalid (report : Report)
  | recordUnread (path reason : String)
  | recordUnparsed (path : String) (cause : Json.Complaint)
  | recordUnwritten (path reason : String)
  | nothingRecorded (path : String)
  /-- The object that a record speaks of cannot be simulated. -/
  | notRebuilt (cause : BindingError)
  | noSubscription
  | noToken
  | failed (aim : Aim) (failure : Failure)
  /-- The clock cannot hold the deadline of a wait, and the program breaks off. -/
  | overflowed
  /-- A wait was given up without an outcome. -/
  | unsettled (aim : Aim)

namespace Aim

/-- What a user is told that an operation was run for; `residue` is what it left behind. -/
def text (residue : Residue) : Aim → String
  | plan => "Unable to plan"
  | apply file => "Unable to apply '" ++ file ++ "', " ++ residue.hint
  | read id => "Unable to read '" ++ id ++ "'"
  | delete id => "Unable to delete '" ++ id ++ "'"

/-- The obstacle that the end of an operation is. -/
def obstacle (aim : Aim) : Stop → Obstacle
  | .failed failure => .failed aim failure
  | .endless .beyondClock => .overflowed
  | .endless .unsettled => .unsettled aim

end Aim

namespace Obstacle

/-- What a user is told about an obstacle and its causes, nearest first, when objects of the given
kind are in question. -/
def chain (kind : String) : Obstacle → List String
  | documentUnread file reason => ["Unable to read document '" ++ file ++ "'", reason]
  | documentUnparsed file flaw => ["Unable to parse document '" ++ file ++ "'", flaw.text]
  | documentMalformed file cause =>
    ("Malformed document '" ++ file ++ "'") :: cause.message :: cause.causes
  | documentInvalid report => ["Invalid " ++ kind ++ " document", report.text]
  | recordUnread path reason => ["Unable to read state file '" ++ path ++ "'", reason]
  | recordUnparsed path cause => ["Unable to parse state file '" ++ path ++ "'", cause.text]
  | recordUnwritten path reason => ["Unable to write state file '" ++ path ++ "'", reason]
  | nothingRecorded path => ["Nothing is recorded in '" ++ path ++ "'"]
  | notRebuilt cause =>
    "Unable to rebuild the simulated object from the state file" :: cause.message ::
      cause.message :: cause.causes
  | noSubscription =>
    ["A subscription id is required, use '--subscription-id' or 'ARM_SUBSCRIPTION_ID'"]
  | noToken => ["An access token is required, use '--access-token' or 'ARM_ACCESS_TOKEN'"]
  | failed aim failure => aim.text failure.residue :: failure.message kind :: failure.causes
  | overflowed => ["overflow when adding duration to instant"]
  | unsettled aim => [aim.text .unknown, "the wait has not come to an end"]

/-- The exit code of a command that meets an obstacle. -/
def code : Obstacle → Nat
  | overflowed => 101
  | _ => 1

theorem code_ne_zero (o : Obstacle) : o.code ≠ 0 := by
  cases o <;> exact nofun

/-- The line that a user is told about an obstacle. -/
def line (kind : String) (o : Obstacle) : String := ": ".intercalate (o.chain kind) ++ "\n"

end Obstacle

end Provisioning.Command
