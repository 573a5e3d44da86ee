import Provisioning.Dictionary
import Provisioning.Number.Decimal

/-!
JSON values. Members keep the order in which a writer put them, and integers are kept apart from
floating point numbers, as a reader of a document tells the two apart.
-/

namespace Provisioning

/-- A JSON value. -/
inductive Json where
  | null
  | bool (value : Bool)
  | int (value : Int)
  | float (value : Binary64)
  | str (value : String)
  | arr (items : List Json)
  | obj (members : List (String × Json))
deriving Inhabited

namespace Json

/-- A floating point number as a JSON value. The numbers JSON has no notation for become null. -/
def ofFloat (x : Binary64) : Json :=
  if x.isFinite then .float x else .null

/-- An integer of 32 bits as a JSON value. -/
def ofWord32 (n : UInt32) : Json := .int n.toNat

/-- An integer of 16 bits as a JSON value. -/
def ofWord16 (n : UInt16) : Json := .int n.toNat

/-- A list as a JSON value. -/
def ofList {α : Type} (encode : α → Json) (values : List α) : Json := .arr (values.map encode)

/-- A dictionary as a JSON value. -/
def ofDictionary (d : Dictionary) : Json := .obj (d.entries.map fun e => (e.1, .str e.2))

/-- An object made of those members that are present. -/
def record (members : List (Option (String × Json))) : Json :=
  .obj (members.filterMap id)

/-- A member that is always written. -/
def always (name : String) (value : Json) : Option (String × Json) :=
  some (name, value)

/-- A member that is left out when there is no value. -/
def ifSome {α : Type} (name : String) (encode : α → Json) (value : Option α) :
    Option (String × Json) :=
  value.map fun v => (name, encode v)

/-- A member that is left out when the list is empty. -/
def ifAny {α : Type} (name : String) (encode : α → Json) (values : List α) :
    Option (String × Json) :=
  if values.isEmpty then none else some (name, .arr (values.map encode))

/-- A member that is left out when the dictionary is empty. -/
def ifEntries (name : String) (d : Dictionary) : Option (String × Json) :=
  if d.isEmpty then none else some (name, ofDictionary d)

/-- An optional value, null standing for its absence. -/
def orNull {α : Type} (encode : α → Json) : Option α → Json
  | some v => encode v
  | none => .null

end Json

end Provisioning
