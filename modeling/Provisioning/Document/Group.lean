import Provisioning.Choice
import Provisioning.Document.Form

/-!
Documents that describe a container group. The same type serves for the document that a user writes
and for the one that is read back; fields that the management plane computes are optional in it.
-/

namespace Provisioning.Document

open Json

/-- How a group is reached. There is only one way. -/
inductive AddressType where
  | publicIp
deriving DecidableEq

instance : Choice AddressType where
  what := "ip address type"
  all := [.publicIp]
  usual := .publicIp
  label
    | .publicIp => "Public"

/-- The operating system that the containers of a group are built for. -/
inductive OsType where
  | linux
  | windows
deriving DecidableEq

instance : Choice OsType where
  what := "os type"
  all := [.linux, .windows]
  usual := .linux
  label
    | .linux => "Linux"
    | .windows => "Windows"

/-- What the platform does when a container of a group exits. -/
inductive RestartPolicy where
  | always
  | never
  | onFailure
deriving DecidableEq

instance : Choice RestartPolicy where
  what := "restart policy"
  all := [.always, .never, .onFailure]
  usual := .always
  label
    | .always => "Always"
    | .never => "Never"
    | .onFailure => "OnFailure"

/-- What a port of a container speaks. -/
inductive Protocol where
  | tcp
  | udp
deriving DecidableEq

instance : Choice Protocol where
  what := "protocol"
  all := [.tcp, .udp]
  usual := .tcp
  label
    | .tcp => "TCP"
    | .udp => "UDP"

/-- A file share mounted into a container. -/
structure Volume where
  name : String
  mountPath : String
  readOnly : Bool := false
  share : String
  account : String
  /-- Write-only: a document that was read carries it only if its reader knew it before. -/
  key : Option String := none
deriving DecidableEq

namespace Volume

/-- A volume as JSON. -/
def toJson (d : Volume) : Json :=
  .record [
    always "name" (.str d.name),
    always "mount_path" (.str d.mountPath),
    always "read_only" (.bool d.readOnly),
    always "share_name" (.str d.share),
    always "storage_account_name" (.str d.account),
    ifSome "storage_account_key" .str d.key]

/-- A volume from JSON. -/
def decode : Decoder Volume :=
  Decode.record "VolumeConfig"
    ["name", "mount_path", "read_only", "share_name", "storage_account_name",
     "storage_account_key"]
    fun p => mk
      <$> p.required "name" Decode.string
      <*> p.required "mount_path" Decode.string
      <*> p.withDefault "read_only" false Decode.boolean
      <*> p.required "share_name" Decode.string
      <*> p.required "storage_account_name" Decode.string
      <*> p.optional "storage_account_key" Decode.string

end Volume

/-- An account at a registry of images. -/
structure Credential where
  server : String
  username : String
  /-- Write-only. -/
  password : Option String := none
deriving DecidableEq

namespace Credential

/-- A credential as JSON. -/
def toJson (d : Credential) : Json :=
  .record [
    always "server" (.str d.server),
    always "username" (.str d.username),
    ifSome "password" .str d.password]

/-- A credential from JSON. -/
def decode : Decoder Credential :=
  Decode.record "ImageRegistryCredential" ["server", "username", "password"] fun p => mk
      <$> p.required "server" Decode.string
      <*> p.required "username" Decode.string
      <*> p.optional "password" Decode.string

end Credential

/-- A container of a group. -/
structure Container where
  name : String
  image : String
  cpu : Binary64
  /-- In gigabytes. -/
  memory : Binary64
  port : Option UInt32 := none
  protocol : Option Protocol := none
  environment : Dictionary := .empty
  /-- A command line, its words separated by blanks. -/
  command : Option String := none
  volumes : List Volume := []
deriving DecidableEq

namespace Container

/-- A container as JSON. -/
def toJson (d : Container) : Json :=
  .record [
    always "name" (.str d.name),
    always "image" (.str d.image),
    always "cpu" (ofFloat d.cpu),
    always "memory" (ofFloat d.memory),
    ifSome "port" ofWord32 d.port,
    ifSome "protocol" Choice.toJson d.protocol,
    ifEntries "environment_variables" d.environment,
    ifSome "command" .str d.command,
    ifAny "volume" Volume.toJson d.volumes]

/-- A container from JSON. -/
def decode : Decoder Container :=
  Decode.record "ContainerConfig"
    ["name", "image", "cpu", "memory", "port", "protocol", "environment_variables",
     "command", "volume"]
    fun p => mk
      <$> p.required "name" Decode.string
      <*> p.required "image" Decode.string
      <*> p.required "cpu" Decode.number
      <*> p.required "memory" Decode.number
      <*> p.optional "port" Decode.word32
      <*> p.optional "protocol" Choice.decode
      <*> p.withDefault "environment_variables" .empty Decode.dictionary
      <*> p.optional "command" Decode.string
      <*> p.withDefault "volume" [] (Decode.list Volume.decode)

end Container

/-- A set of containers that share a host, a public address and a restart policy. -/
structure Group where
  name : String := ""
  location : String := ""
  resourceGroup : String := ""
  addressType : AddressType := Choice.usual
  osType : OsType := Choice.usual
  restartPolicy : RestartPolicy := Choice.usual
  label : Option String := none
  /-- Computed. -/
  ip : Option String := none
  /-- Computed where there is a label. -/
  fqdn : Option String := none
  tags : Dictionary := .empty
  credentials : List Credential := []
  containers : List Container := []
deriving DecidableEq

namespace Group

/-- A group as JSON. -/
def toJson (d : Group) : Json :=
  .record [
    always "name" (.str d.name),
    always "location" (.str d.location),
    always "resource_group_name" (.str d.resourceGroup),
    always "ip_address_type" (Choice.toJson d.addressType),
    always "os_type" (Choice.toJson d.osType),
    always "restart_policy" (Choice.toJson d.restartPolicy),
    ifSome "dns_name_label" .str d.label,
    ifSome "ip_address" .str d.ip,
    ifSome "fqdn" .str d.fqdn,
    ifEntries "tags" d.tags,
    ifAny "image_registry_credential" Credential.toJson d.credentials,
    always "container" (ofList Container.toJson d.containers)]

/-- A group from JSON. -/
def decode : Decoder Group :=
  Decode.record "ContainerGroupConfig"
    ["name", "location", "resource_group_name", "ip_address_type", "os_type",
     "restart_policy", "dns_name_label", "ip_address", "fqdn", "tags",
     "image_registry_credential", "container"]
    fun p => mk
      <$> p.required "name" Decode.string
      <*> p.required "location" Decode.string
      <*> p.required "resource_group_name" Decode.string
      <*> p.withDefault "ip_address_type" Choice.usual Choice.decode
      <*> p.required "os_type" Choice.decode
      <*> p.withDefault "restart_policy" Choice.usual Choice.decode
      <*> p.optional "dns_name_label" Decode.string
      <*> p.optional "ip_address" Decode.string
      <*> p.optional "fqdn" Decode.string
      <*> p.withDefault "tags" .empty Decode.dictionary
      <*> p.withDefault "image_registry_credential" [] (Decode.list Credential.decode)
      <*> p.required "container" (Decode.list Container.decode)

end Group

instance : Document Group where
  blank := {}
  toJson := Group.toJson
  decode := Group.decode

end Provisioning.Document
