import Provisioning.Text.Case
import Provisioning.Json.Decode

/-!
Closed choices: types whose few values have labels. A label is accepted in any case of its letters
and always written in the management plane's own.
-/

namespace Provisioning

/-- A type with finitely many labelled values. -/
class Choice (α : Type) where
  /-- What a value is called in messages. -/
  what : String
  /-- All values, in the order in which messages list them. -/
  all : List α
  /-- The value where none is given. -/
  usual : α
  /-- The label of a value. -/
  label : α → String

/-- A text that is none of the labels of a choice. -/
structure UnknownLabel where
  what : String
  value : String
  labels : List String
deriving DecidableEq

/-- The wording of the complaint about an unknown label. -/
def UnknownLabel.message (e : UnknownLabel) : String :=
  "'" ++ e.value ++ "' is not a valid " ++ e.what ++ ", expected one of: "
    ++ ", ".intercalate e.labels

namespace Choice

variable {α : Type} [Choice α]

/-- The labels of all values. -/
def labels (α : Type) [Choice α] : List String := (all : List α).map label

/-- The value with the label, if there is one. -/
def ofLabel? (text : String) : Option α :=
  (all : List α).find? fun a => Text.equalFold text (label a)

/-- The value with the label, or the complaint that there is none. -/
def ofLabel (text : String) : Except UnknownLabel α :=
  match (ofLabel? text : Option α) with
  | some a => .ok a
  | none => .error ⟨what α, text, labels α⟩

/-- The label as JSON. -/
def toJson (a : α) : Json := .str (label a)

/-- A value from its label in JSON. -/
def decode : Json.Decoder α := Json.Decode.label (what α) ofLabel?

end Choice

end Provisioning
