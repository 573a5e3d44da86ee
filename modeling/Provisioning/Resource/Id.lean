import Provisioning.Text.Case
import Provisioning.Text.Basic

/-!
The identity of remote objects. An object is known by its natural key, the resource group and the
name it has there; its identifier spells the key out together with the subscription and the type of
the object.
-/

namespace Provisioning

/-- The resource group that holds an object, and the name it has there. -/
structure NaturalKey where
  scope : String
  name : String
deriving DecidableEq

namespace NaturalKey

/-- How messages name an object. -/
def text (k : NaturalKey) : String :=
  "'" ++ k.name ++ "' (resource group '" ++ k.scope ++ "')"

/-- Keys are ordered by resource group, then by name. -/
def before (a b : NaturalKey) : Bool :=
  a.scope < b.scope || (a.scope == b.scope && a.name < b.name)

end NaturalKey

/-- The identifier of an object. -/
structure ResourceId where
  subscription : String
  group : String
  /-- The namespace and the type, with a slash between them. -/
  type : String
  name : String
deriving DecidableEq

/-- Why a text is no identifier. -/
inductive ResourceId.Flaw where
  | wrongCount
  | noSubscription
  | noGroup
  | noProvider
  | emptySegment
deriving DecidableEq

/-- The wording of what is wrong with an identifier. -/
def ResourceId.Flaw.text : ResourceId.Flaw → String
  | .wrongCount => "expected 8 path segments"
  | .noSubscription => "missing 'subscriptions' segment"
  | .noGroup => "missing 'resourceGroups' segment"
  | .noProvider => "missing 'providers' segment"
  | .emptySegment => "empty path segment"

/-- A text that is no identifier. -/
structure InvalidId where
  id : String
  flaw : ResourceId.Flaw
deriving DecidableEq

/-- The wording of the complaint about a text that is no identifier. -/
def InvalidId.message (e : InvalidId) : String :=
  "Invalid resource id '" ++ e.id ++ "': " ++ e.flaw.text

namespace ResourceId

/-- The identifier of the object of the given type under a key. -/
def ofKey (subscription type : String) (key : NaturalKey) : ResourceId :=
  ⟨subscription, key.scope, type, key.name⟩

/-- The natural key of the object. -/
def naturalKey (id : ResourceId) : NaturalKey := ⟨id.group, id.name⟩

/-- Whether the object is of the given type, up to the case of ASCII letters. -/
def isType (id : ResourceId) (type : String) : Bool := Text.equalFold id.type type

/-- The text of an identifier. -/
def text (id : ResourceId) : String :=
  "/subscriptions/" ++ id.subscription ++ "/resourceGroups/" ++ id.group ++ "/providers/"
    ++ id.type ++ "/" ++ id.name

/-- The segments of a text between slashes, those at its ends aside. -/
def segments (text : String) : List String :=
  (Text.split '/' (Text.trimBoth '/' text.toList)).map String.ofList

/-- The identifier that eight segments make. -/
def ofSegments : List String → Except Flaw ResourceId
  | [s0, s1, s2, s3, s4, s5, s6, s7] =>
    if !Text.equalFold s0 "subscriptions" then .error .noSubscription
    else if !Text.equalFold s2 "resourceGroups" then .error .noGroup
    else if !Text.equalFold s4 "providers" then .error .noProvider
    else if [s0, s1, s2, s3, s4, s5, s6, s7].any String.isEmpty then .error .emptySegment
    else .ok ⟨s1, s3, s5 ++ "/" ++ s6, s7⟩
  | _ => .error .wrongCount

/-- Reads the text of an identifier. -/
def parse (text : String) : Except InvalidId ResourceId :=
  match ofSegments (segments text) with
  | .ok id => .ok id
  | .error flaw => .error ⟨text, flaw⟩

end ResourceId

end Provisioning
