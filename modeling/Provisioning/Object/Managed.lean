import Provisioning.Object.Fields

/-!
Managed types: the two kinds of object as the management plane sees them, with the type and the
version they are addressed by and the operations that do not depend on what an object is made of.
-/

namespace Provisioning

/-- What is known of every type of object that the management plane holds. -/
class Managed (Obj : Type) where
  /-- The namespace and the type in identifiers and addresses. -/
  type : String
  /-- The version of the interface for this type. -/
  apiVersion : String
  /-- An object without any of its parts. -/
  blank : Obj
  id : Obj → Option String
  withId : String → Obj → Obj
  state : Obj → Option State
  withState : State → Obj → Obj
  /-- The object with the fields that the management plane assigns. -/
  populate : NaturalKey → Obj → Obj
  /-- The object without the fields that the management plane never gives out. -/
  scrub : Obj → Obj
  toJson : Obj → Json
  decode : Json.Decoder Obj

namespace Object

/-- The group with a provisioning state. -/
def Group.withState (s : State) (g : Group) : Group :=
  { g with properties := some { g.properties.getD {} with state := some s } }

/-- The service with a provisioning state. -/
def Service.withState (s : State) (v : Service) : Service :=
  { v with properties := some { v.properties.getD {} with state := some s } }

instance : Managed Group where
  type := "Microsoft.ContainerInstance/containerGroups"
  apiVersion := "2018-04-01"
  blank := {}
  id := Group.id
  withId id g := { g with id := some id }
  state g := g.properties.bind GroupProperties.state
  withState := Group.withState
  populate := Group.populate
  scrub := Group.scrub
  toJson := Group.toJson
  decode := Group.decode

instance : Managed Service where
  type := "Microsoft.ContainerService/containerServices"
  apiVersion := "2017-07-01"
  blank := {}
  id := Service.id
  withId id s := { s with id := some id }
  state s := s.properties.bind ServiceProperties.state
  withState := Service.withState
  populate := Service.populate
  scrub := Service.scrub
  toJson := Service.toJson
  decode := Service.decode

end Object

/-- The identifier of the object of a managed type under a key. -/
def Managed.idFor (Obj : Type) [Managed Obj] (subscription : String) (key : NaturalKey) :
    ResourceId :=
  .ofKey subscription (Managed.type Obj) key

/-- How messages name the object of a managed type under a key. -/
def Managed.describe (Obj : Type) [Managed Obj] (key : NaturalKey) : String :=
  Managed.type Obj ++ " " ++ key.text

end Provisioning
