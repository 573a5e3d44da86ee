import Provisioning.Json
import Provisioning.Text.Quoted

/-!
JSON as a reader meets it: a value together with the places in its text that a complaint may name,
and with the faults at which the text stops making sense. A value that never was a text has the
same form without places.
-/

namespace Provisioning.Json

/-- A place in a text: the line, counted from one, and the number of bytes before it on that
line. -/
structure Place where
  line : Nat
  column : Nat
deriving DecidableEq

/-- What stood where something else was wanted. -/
inductive Found where
  | null
  | bool (value : Bool)
  | int (value : Int)
  | float (value : Binary64)
  | str (value : String)
  | sequence
  | map

/-- Why a JSON text or value cannot be taken for what it should be. -/
inductive Fault where
  | wrongType (found : Found) (wanted : String)
  | wrongValue (found : Found) (wanted : String)
  | wrongLength (length : Nat) (wanted : String)
  | missingField (name : String)
  | duplicateField (name : String)
  | endInValue
  | endInString
  | endInList
  | endInObject
  | colonWanted
  | listEndWanted
  | objectEndWanted
  | keyWanted
  | valueWanted
  | wordWanted
  | badNumber
  | numberTooLarge
  | badEscape
  | loneSurrogate
  | escapeCutShort
  | controlInString
  | trailingComma
  | trailingText

/-- A fault, and where it lies if the value came from a text. -/
structure Complaint where
  fault : Fault
  place : Option Place

/-! ### Wording -/

/-- How a message names what was found. -/
def Found.text : Found → String
  | .null => "null"
  | .bool true => "boolean `true`"
  | .bool false => "boolean `false`"
  | .int n => "integer `" ++ toString n ++ "`"
  | .float x => "floating point `" ++ x.toText ++ "`"
  | .str s => "string " ++ Text.quoted s
  | .sequence => "sequence"
  | .map => "map"

/-- The wording of a fault. -/
def Fault.text : Fault → String
  | .wrongType found wanted => "invalid type: " ++ found.text ++ ", expected " ++ wanted
  | .wrongValue found wanted => "invalid value: " ++ found.text ++ ", expected " ++ wanted
  | .wrongLength length wanted => "invalid length " ++ toString length ++ ", expected " ++ wanted
  | .missingField name => "missing field `" ++ name ++ "`"
  | .duplicateField name => "duplicate field `" ++ name ++ "`"
  | .endInValue => "EOF while parsing a value"
  | .endInString => "EOF while parsing a string"
  | .endInList => "EOF while parsing a list"
  | .endInObject => "EOF while parsing an object"
  | .colonWanted => "expected `:`"
  | .listEndWanted => "expected `,` or `]`"
  | .objectEndWanted => "expected `,` or `\x7d`"
  | .keyWanted => "key must be a string"
  | .valueWanted => "expected value"
  | .wordWanted => "expected ident"
  | .badNumber => "invalid number"
  | .numberTooLarge => "number out of range"
  | .badEscape => "invalid escape"
  | .loneSurrogate => "lone leading surrogate in hex escape"
  | .escapeCutShort => "unexpected end of hex escape"
  | .controlInString => "control character (\\u0000-\\u001F) found while parsing a string"
  | .trailingComma => "trailing comma"
  | .trailingText => "trailing characters"

/-- The wording of a complaint: the fault, and its place in a text. -/
def Complaint.text (c : Complaint) : String :=
  match c.place with
  | some p => c.fault.text ++ " at line " ++ toString p.line ++ " column " ++ toString p.column
  | none => c.fault.text

/-! ### Sources -/

/-- A value that holds no other values. -/
inductive Scalar where
  | null
  | bool (value : Bool)
  | int (value : Int)
  | float (value : Binary64)
  | str (value : String)

/-- How a list or an object ends: behind its bracket, or where the text goes wrong. -/
inductive Close where
  | ended (stop : Option Place)
  | broken (complaint : Complaint)

/-- What an object says of a member beside its value. -/
structure Key where
  name : String
  /-- The place where the text goes on behind the name. -/
  after : Option Place
  /-- The fault that is left in the value for a reader who passes over it. -/
  passed : Option Complaint

/-- A value with its places. An item of a list comes with the fault that there is for a reader who
expects the list to end behind it. -/
inductive Source where
  | scalar (value : Scalar) (stop : Option Place)
  | list (start : Option Place) (items : List (Source × Option Complaint)) (close : Close)
  | record (start : Option Place) (members : List (Key × Source)) (close : Close)
  | broken (complaint : Complaint)

/-- What a scalar is called where something else was wanted. -/
def Scalar.found : Scalar → Found
  | .null => .null
  | .bool b => .bool b
  | .int n => .int n
  | .float x => .float x
  | .str s => .str s

/-- The complaint that a value is not what was wanted. Scalars are read before they are refused;
lists and objects are refused at their bracket. -/
def Source.refused (wanted : String) : Source → Complaint
  | .scalar value stop => ⟨.wrongType value.found wanted, stop⟩
  | .list start _ _ => ⟨.wrongType .sequence wanted, start⟩
  | .record start _ _ => ⟨.wrongType .map wanted, start⟩
  | .broken c => c

/-- The fault at the end of a list or object, if it is broken off. -/
def Close.fault? : Close → Option Complaint
  | .ended _ => none
  | .broken c => some c

/-- The place behind the closing bracket. -/
def Close.stop : Close → Option Place
  | .ended stop => stop
  | .broken c => c.place

/-! ### Values without a text -/

mutual

/-- A value as a source without places. -/
def toSource : Json → Source
  | .null => .scalar .null none
  | .bool b => .scalar (.bool b) none
  | .int n => .scalar (.int n) none
  | .float x => .scalar (.float x) none
  | .str s => .scalar (.str s) none
  | .arr items => .list none (itemSources items) (.ended none)
  | .obj members => .record none (memberSources members) (.ended none)

/-- The items of a list as sources without places. -/
def itemSources : List Json → List (Source × Option Complaint)
  | [] => []
  | item :: items => (toSource item, none) :: itemSources items

/-- The members of an object as sources without places. -/
def memberSources : List (String × Json) → List (Key × Source)
  | [] => []
  | (name, value) :: members => (⟨name, none, none⟩, toSource value) :: memberSources members

end

/-- The members with one put in the place its name has in ascending order, instead of one of the
same name. -/
def putMember (name : String) (value : Json) : List (String × Json) → List (String × Json)
  | [] => [(name, value)]
  | member :: rest =>
    if name < member.1 then (name, value) :: member :: rest
    else if member.1 < name then member :: putMember name value rest
    else (name, value) :: rest

/-- A scalar as a value. -/
def Scalar.toJson : Scalar → Json
  | .null => .null
  | .bool b => .bool b
  | .int n => .int n
  | .float x => .float x
  | .str s => .str s

mutual

/-- The value of a source without faults. Members come in ascending order of their names, and of
several with one name the last one stands. -/
def Source.toJson : Source → Except Complaint Json
  | .scalar value _ => .ok value.toJson
  | .list _ items close => do
    let values ← itemValues items
    match close with
    | .ended _ => .ok (.arr values)
    | .broken c => .error c
  | .record _ members close => do
    let values ← memberValues [] members
    match close with
    | .ended _ => .ok (.obj values)
    | .broken c => .error c
  | .broken c => .error c

/-- The values of the items of a list. -/
def itemValues : List (Source × Option Complaint) → Except Complaint (List Json)
  | [] => .ok []
  | (item, _) :: items => do
    let value ← item.toJson
    let values ← itemValues items
    .ok (value :: values)

/-- The members of an object, added to those before them. -/
def memberValues (before : List (String × Json)) :
    List (Key × Source) → Except Complaint (List (String × Json))
  | [] => .ok before
  | (key, value) :: members => do
    let value ← value.toJson
    memberValues (putMember key.name value before) members

end

end Provisioning.Json
