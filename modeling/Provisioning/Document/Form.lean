import Provisioning.Json.Decode

/-!
Documents as JSON. A document is read from any JSON value and written as one; where a caller needs
its fields one by one, the value has to be an object.
-/

namespace Provisioning

/-- A type of documents. -/
class Document (Doc : Type) where
  /-- The document that says nothing. -/
  blank : Doc
  toJson : Doc → Json
  decode : Json.Decoder Doc

/-- Why a document cannot be turned from JSON or into an object. -/
inductive DocumentError where
  | unreadable (complaint : Json.Complaint)
  | notAnObject

namespace DocumentError

/-- The wording of an error. -/
def message : DocumentError → String
  | unreadable c => "Error deserializing configuration: " ++ c.text
  | notAnObject =>
    "Error serializing configuration: expected Value::Object type but got something else."

/-- What an error was caused by, nearest first. -/
def causes : DocumentError → List String
  | unreadable c => [c.text]
  | notAnObject => []

end DocumentError

namespace Document

variable {Doc : Type} [Document Doc]

/-- The document that a JSON value describes. -/
def ofJson (value : Json) : Except DocumentError Doc :=
  (decode value.toSource).mapError .unreadable

/-- The members of a document's JSON form. -/
def members (d : Doc) : Except DocumentError (List (String × Json)) :=
  match toJson d with
  | .obj members => .ok members
  | _ => .error .notAnObject

/-! ### Bare texts -/

/-- A document that is a text and nothing else. It has a JSON form but no fields. -/
structure Plain where
  text : String := ""
deriving DecidableEq

instance : Document Plain where
  blank := {}
  toJson d := .str d.text
  decode source := Plain.mk <$> Json.Decode.string source

/-- A bare text has no members. -/
theorem Plain.members_eq (d : Plain) : members d = .error .notAnObject := rfl

end Document

end Provisioning
