import Provisioning.Choice
import Provisioning.Report
import Provisioning.Resource.Id
import Provisioning.Wait

/-!
Bindings: how documents of one type stand for objects of one type. A binding never talks to the
management plane; it says which object a document describes, turns the one into the other, and
compares documents. Where it cannot do that it says why, and what such a failure leaves behind at
the management plane.
-/

namespace Provisioning

/-! ### Errors -/

/-- What a failed operation leaves behind. -/
inductive Residue where
  /-- Nothing was written. -/
  | clear
  /-- There is an object, and it can be deleted by its key. -/
  | remaining
  /-- A write was tried, and what came of it is not known. -/
  | unknown
deriving DecidableEq

/-- What a user is told about a residue. -/
def Residue.hint : Residue → String
  | .clear => "nothing was written"
  | .remaining => "the remote object exists and must be deleted or imported"
  | .unknown => "the remote object may or may not exist"

/-- Why a document and an object cannot be turned into each other. -/
inductive BindingError where
  /-- A port is too great for the wire. -/
  | portOutOfRange (container : String) (port : UInt32)
  /-- An object lacks a part that its document cannot do without. -/
  | missingField (field : String)
  /-- An object has a label that no document can have. -/
  | unrecognized (what : String) (label : UnknownLabel)
  /-- Anything else, in the binding's own words. -/
  | refused (residue : Residue) (message : String)
deriving DecidableEq

namespace BindingError

/-- What is wrong with a number that does not fit. -/
def tooGreat : String := "number too large to fit in target type"

/-- The wording of an error. -/
def message : BindingError → String
  | portOutOfRange container port =>
    "Port " ++ toString port ++ " of container '" ++ container ++ "' is out of range: " ++ tooGreat
  | missingField field => "The management API response is missing '" ++ field ++ "'"
  | unrecognized what label =>
    "The management API returned an unrecognized " ++ what ++ ": " ++ label.message
  | refused _ message => message

/-- What an error was caused by, nearest first. -/
def causes : BindingError → List String
  | portOutOfRange _ _ => [tooGreat]
  | unrecognized _ label => [label.message]
  | missingField _ => []
  | refused _ _ => []

/-- What is left behind: an object is built before anything is written, and taken apart after. -/
def residue : BindingError → Residue
  | portOutOfRange _ _ => .clear
  | missingField _ => .remaining
  | unrecognized _ _ => .remaining
  | refused residue _ => residue

end BindingError

/-! ### Differences -/

/-- The paths at which two documents differ, by whether the object can be changed in place there or
has to be replaced. -/
structure Diff where
  replace : List String
  update : List String
deriving DecidableEq

namespace Diff

/-- Whether the documents agree. -/
def isEmpty (d : Diff) : Bool := d.replace.isEmpty && d.update.isEmpty

/-- Whether the object has to be replaced. -/
def requiresReplacement (d : Diff) : Bool := !d.replace.isEmpty

/-- All paths, those that require a replacement first. -/
def fields (d : Diff) : List String := d.replace ++ d.update

/-- The path, unless the condition holds that makes the documents agree there. -/
def pathUnless (agree : Bool) (path : String) : List String := if agree then [] else [path]

/-- The path, if the values there are different. -/
def changed {α : Type} [DecidableEq α] (path : String) (current desired : α) : List String :=
  pathUnless (current = desired) path

/-- The path of a field that is not always known, if it is known and different. -/
def changedIfKnown (path : String) (current desired : Option String) : List String :=
  pathUnless (current.isNone || current = desired) path

@[simp] theorem pathUnless_true (path : String) : pathUnless true path = [] := rfl

@[simp] theorem changed_self {α : Type} [DecidableEq α] (path : String) (a : α) :
    changed path a a = [] := by
  simp [changed]

@[simp] theorem changedIfKnown_self (path : String) (a : Option String) :
    changedIfKnown path a a = [] := by
  simp [changedIfKnown]

end Diff

/-- How long each operation may take, and the pause between two polls. -/
structure Timeouts where
  create : Millis
  update : Millis
  delete : Millis
  poll : Millis
deriving DecidableEq

namespace Timeouts

/-- The same limit for every operation. -/
def uniform (limit : Millis) : Timeouts := ⟨limit, limit, limit, .ofSeconds 15⟩

/-- The limits of a type that has none of its own. -/
def default : Timeouts := uniform (.ofMinutes 30)

end Timeouts

/-- How documents stand for objects. -/
structure Binding (Doc Obj : Type) where
  /-- What messages call an object. -/
  kind : String
  /-- Which object a document describes. -/
  key : Doc → NaturalKey
  /-- What is wrong with a document. -/
  report : Doc → Report
  /-- The object that a document describes, without what the management plane assigns. -/
  expand : Doc → Except BindingError Obj
  /-- The document that describes the object under a key. Secrets, which no object gives out, are
  taken from an earlier document where it has them at the same place. -/
  flatten : NaturalKey → Obj → Option Doc → Except BindingError Doc
  /-- How the document of an object differs from the one that is wanted. What the management plane
  assigns is not compared, and a secret only if the former has it. -/
  diff : (current desired : Doc) → Diff
  /-- Whether an object can be changed in place. -/
  updatable : Bool
  /-- The states that an object goes through when it is created. -/
  change : StateChange
  /-- The states that an object goes through when it is changed in place. -/
  updateChange : StateChange := change
  timeouts : Timeouts

end Provisioning
