import Provisioning.Text.Case
import Provisioning.Json.Decode

/-!
Provisioning states: what the management plane says of an object that it is working on. A known
label is recognised in any case of its letters; an unknown one is kept as it was reported.
-/

namespace Provisioning

/-- The state of provisioning that an object reports. -/
inductive State where
  | pending
  | creating
  | updating
  | deleting
  | repairing
  | succeeded
  | failed
  | canceled
  | other (label : String)
deriving DecidableEq

namespace State

/-- The states that have a label of their own. -/
def known : List State :=
  [pending, creating, updating, deleting, repairing, succeeded, failed, canceled]

/-- The label of a state. -/
def label : State → String
  | pending => "Pending"
  | creating => "Creating"
  | updating => "Updating"
  | deleting => "Deleting"
  | repairing => "Repairing"
  | succeeded => "Succeeded"
  | failed => "Failed"
  | canceled => "Canceled"
  | other label => label

/-- The state that a label stands for. -/
def ofLabel (label : String) : State :=
  (known.find? fun s => Text.equalFold s.label label).getD (other label)

/-- The label as JSON. -/
def toJson (s : State) : Json := .str s.label

/-- A state from its label in JSON. -/
def decode : Json.Decoder State := fun source => ofLabel <$> Json.Decode.string source

end State

end Provisioning
