import Provisioning.State

/-!
Container groups on the wire: the JSON that the management plane takes in and gives out, with
nearly every part optional because an answer may leave out any of them.
-/

namespace Provisioning.Object

open Json

/-- A port that a container listens on. -/
structure ContainerPort where
  port : Option UInt16 := none
deriving DecidableEq

namespace ContainerPort

/-- A container port as JSON. -/
def toJson (o : ContainerPort) : Json :=
  .record [
    always "port" (orNull ofWord16 o.port)]

/-- A container port from JSON. -/
def decode : Decoder ContainerPort :=
  Decode.record "ContainerPort" ["port"] fun p => mk
      <$> p.nullable "port" Decode.word16

end ContainerPort

/-- A variable in the environment of a container. -/
structure Variable where
  name : Option String := none
  value : Option String := none
deriving DecidableEq

namespace Variable

/-- A variable as JSON. -/
def toJson (o : Variable) : Json :=
  .record [
    always "name" (orNull .str o.name),
    always "value" (orNull .str o.value)]

/-- A variable from JSON. -/
def decode : Decoder Variable :=
  Decode.record "EnvironmentVariable" ["name", "value"] fun p => mk
      <$> p.nullable "name" Decode.string
      <*> p.nullable "value" Decode.string

end Variable

/-- What a container asks of its host. -/
structure Requests where
  /-- In gigabytes. -/
  memory : Option Binary64 := none
  cpu : Option Binary64 := none
deriving DecidableEq

namespace Requests

/-- A request as JSON. -/
def toJson (o : Requests) : Json :=
  .record [
    always "memoryInGB" (orNull ofFloat o.memory),
    always "cpu" (orNull ofFloat o.cpu)]

/-- A request from JSON. -/
def decode : Decoder Requests :=
  Decode.record "ResourceRequests" ["memoryInGB", "cpu"] fun p => mk
      <$> p.nullable "memoryInGB" Decode.number
      <*> p.nullable "cpu" Decode.number

end Requests

/-- The requirements of a container. -/
structure Requirements where
  requests : Option Requests := none
deriving DecidableEq

namespace Requirements

/-- A requirement as JSON. -/
def toJson (o : Requirements) : Json :=
  .record [
    always "requests" (orNull Requests.toJson o.requests)]

/-- A requirement from JSON. -/
def decode : Decoder Requirements :=
  Decode.record "ResourceRequirements" ["requests"] fun p => mk
      <$> p.nullable "requests" Requests.decode

end Requirements

/-- A volume of the group at a path of a container. -/
structure Mount where
  name : Option String := none
  path : Option String := none
  readOnly : Option Bool := none
deriving DecidableEq

namespace Mount

/-- A mount as JSON. -/
def toJson (o : Mount) : Json :=
  .record [
    always "name" (orNull .str o.name),
    always "mountPath" (orNull .str o.path),
    ifSome "readOnly" .bool o.readOnly]

/-- A mount from JSON. -/
def decode : Decoder Mount :=
  Decode.record "VolumeMount" ["name", "mountPath", "readOnly"] fun p => mk
      <$> p.nullable "name" Decode.string
      <*> p.nullable "mountPath" Decode.string
      <*> p.nullable "readOnly" Decode.boolean

end Mount

/-- What makes up a container. -/
structure ContainerProperties where
  image : Option String := none
  command : Option (List String) := none
  ports : Option (List ContainerPort) := none
  environment : Option (List Variable) := none
  requirements : Option Requirements := none
  mounts : Option (List Mount) := none
deriving DecidableEq

namespace ContainerProperties

/-- The properties of a container as JSON. -/
def toJson (o : ContainerProperties) : Json :=
  .record [
    always "image" (orNull .str o.image),
    ifSome "command" (ofList .str) o.command,
    ifSome "ports" (ofList ContainerPort.toJson) o.ports,
    ifSome "environmentVariables" (ofList Variable.toJson) o.environment,
    always "resources" (orNull Requirements.toJson o.requirements),
    ifSome "volumeMounts" (ofList Mount.toJson) o.mounts]

/-- The properties of a container from JSON. -/
def decode : Decoder ContainerProperties :=
  Decode.record "ContainerProperties"
    ["image", "command", "ports", "environmentVariables", "resources", "volumeMounts"]
    fun p => mk
      <$> p.nullable "image" Decode.string
      <*> p.nullable "command" (Decode.list Decode.string)
      <*> p.nullable "ports" (Decode.list ContainerPort.decode)
      <*> p.nullable "environmentVariables" (Decode.list Variable.decode)
      <*> p.nullable "resources" Requirements.decode
      <*> p.nullable "volumeMounts" (Decode.list Mount.decode)

end ContainerProperties

/-- A container of a group. -/
structure Container where
  name : Option String := none
  properties : Option ContainerProperties := none
deriving DecidableEq

namespace Container

/-- A container as JSON. -/
def toJson (o : Container) : Json :=
  .record [
    always "name" (orNull .str o.name),
    always "properties" (orNull ContainerProperties.toJson o.properties)]

/-- A container from JSON. -/
def decode : Decoder Container :=
  Decode.record "Container" ["name", "properties"] fun p => mk
      <$> p.nullable "name" Decode.string
      <*> p.nullable "properties" ContainerProperties.decode

end Container

/-- A port that the group exposes. What protocol a container speaks is known only here. -/
structure Port where
  protocol : Option String := none
  port : Option UInt16 := none
deriving DecidableEq

namespace Port

/-- A group port as JSON. -/
def toJson (o : Port) : Json :=
  .record [
    ifSome "protocol" .str o.protocol,
    always "port" (orNull ofWord16 o.port)]

/-- A group port from JSON. -/
def decode : Decoder Port :=
  Decode.record "Port" ["protocol", "port"] fun p => mk
      <$> p.nullable "protocol" Decode.string
      <*> p.nullable "port" Decode.word16

end Port

/-- The address of a group and the ports behind it. -/
structure Address where
  ports : List Port := []
  type : Option String := none
  ip : Option String := none
  label : Option String := none
  fqdn : Option String := none
deriving DecidableEq

namespace Address

/-- An address as JSON. -/
def toJson (o : Address) : Json :=
  .record [
    always "ports" (ofList Port.toJson o.ports),
    always "type" (orNull .str o.type),
    ifSome "ip" .str o.ip,
    ifSome "dnsNameLabel" .str o.label,
    ifSome "fqdn" .str o.fqdn]

/-- An address from JSON. -/
def decode : Decoder Address :=
  Decode.record "IpAddress" ["ports", "type", "ip", "dnsNameLabel", "fqdn"] fun p => mk
      <$> p.withDefault "ports" [] (Decode.list Port.decode)
      <*> p.nullable "type" Decode.string
      <*> p.nullable "ip" Decode.string
      <*> p.nullable "dnsNameLabel" Decode.string
      <*> p.nullable "fqdn" Decode.string

end Address

/-- A file share that backs a volume. -/
structure FileShare where
  share : Option String := none
  readOnly : Option Bool := none
  account : Option String := none
  /-- Taken in on a write and never given out again. -/
  key : Option String := none
deriving DecidableEq

namespace FileShare

/-- A file share as JSON. -/
def toJson (o : FileShare) : Json :=
  .record [
    always "shareName" (orNull .str o.share),
    ifSome "readOnly" .bool o.readOnly,
    always "storageAccountName" (orNull .str o.account),
    ifSome "storageAccountKey" .str o.key]

/-- A file share from JSON. -/
def decode : Decoder FileShare :=
  Decode.record "AzureFileVolume"
    ["shareName", "readOnly", "storageAccountName", "storageAccountKey"]
    fun p => mk
      <$> p.nullable "shareName" Decode.string
      <*> p.nullable "readOnly" Decode.boolean
      <*> p.nullable "storageAccountName" Decode.string
      <*> p.nullable "storageAccountKey" Decode.string

end FileShare

/-- A volume of a group. -/
structure Volume where
  name : Option String := none
  file : Option FileShare := none
deriving DecidableEq

namespace Volume

/-- A volume as JSON. -/
def toJson (o : Volume) : Json :=
  .record [
    always "name" (orNull .str o.name),
    ifSome "azureFile" FileShare.toJson o.file]

/-- A volume from JSON. -/
def decode : Decoder Volume :=
  Decode.record "Volume" ["name", "azureFile"] fun p => mk
      <$> p.nullable "name" Decode.string
      <*> p.nullable "azureFile" FileShare.decode

end Volume

/-- An account at a registry of images. -/
structure Credential where
  server : Option String := none
  username : Option String := none
  /-- Taken in on a write and never given out again. -/
  password : Option String := none
deriving DecidableEq

namespace Credential

/-- A credential as JSON. -/
def toJson (o : Credential) : Json :=
  .record [
    always "server" (orNull .str o.server),
    always "username" (orNull .str o.username),
    ifSome "password" .str o.password]

/-- A credential from JSON. -/
def decode : Decoder Credential :=
  Decode.record "ImageRegistryCredential" ["server", "username", "password"] fun p => mk
      <$> p.nullable "server" Decode.string
      <*> p.nullable "username" Decode.string
      <*> p.nullable "password" Decode.string

end Credential

/-- What makes up a container group. -/
structure GroupProperties where
  state : Option State := none
  containers : List Container := []
  credentials : Option (List Credential) := none
  restartPolicy : Option String := none
  address : Option Address := none
  osType : Option String := none
  volumes : Option (List Volume) := none
deriving DecidableEq

namespace GroupProperties

/-- The properties of a group as JSON. -/
def toJson (o : GroupProperties) : Json :=
  .record [
    ifSome "provisioningState" State.toJson o.state,
    always "containers" (ofList Container.toJson o.containers),
    ifSome "imageRegistryCredentials" (ofList Credential.toJson) o.credentials,
    ifSome "restartPolicy" .str o.restartPolicy,
    ifSome "ipAddress" Address.toJson o.address,
    ifSome "osType" .str o.osType,
    ifSome "volumes" (ofList Volume.toJson) o.volumes]

/-- The properties of a group from JSON. -/
def decode : Decoder GroupProperties :=
  Decode.record "ContainerGroupProperties"
    ["provisioningState", "containers", "imageRegistryCredentials", "restartPolicy",
     "ipAddress", "osType", "volumes"]
    fun p => mk
      <$> p.nullable "provisioningState" State.decode
      <*> p.withDefault "containers" [] (Decode.list Container.decode)
      <*> p.nullable "imageRegistryCredentials" (Decode.list Credential.decode)
      <*> p.nullable "restartPolicy" Decode.string
      <*> p.nullable "ipAddress" Address.decode
      <*> p.nullable "osType" Decode.string
      <*> p.nullable "volumes" (Decode.list Volume.decode)

end GroupProperties

/-- A container group as the management plane holds it. -/
structure Group where
  id : Option String := none
  name : Option String := none
  location : Option String := none
  tags : Option Dictionary := none
  properties : Option GroupProperties := none
deriving DecidableEq

namespace Group

/-- A container group as JSON. -/
def toJson (o : Group) : Json :=
  .record [
    ifSome "id" .str o.id,
    ifSome "name" .str o.name,
    ifSome "location" .str o.location,
    ifSome "tags" ofDictionary o.tags,
    ifSome "properties" GroupProperties.toJson o.properties]

/-- A container group from JSON. -/
def decode : Decoder Group :=
  Decode.record "ContainerGroup" ["id", "name", "location", "tags", "properties"] fun p => mk
      <$> p.nullable "id" Decode.string
      <*> p.nullable "name" Decode.string
      <*> p.nullable "location" Decode.string
      <*> p.nullable "tags" Decode.dictionary
      <*> p.nullable "properties" GroupProperties.decode

end Group

end Provisioning.Object
