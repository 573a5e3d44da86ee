import Provisioning.State

/-!
Container services on the wire: managed clusters of masters and agents, as JSON in which nearly
every part is optional.
-/

namespace Provisioning.Object

open Json

/-- The orchestrator of a cluster. -/
structure Orchestrator where
  type : Option String := none
deriving DecidableEq

namespace Orchestrator

/-- An orchestrator as JSON. -/
def toJson (o : Orchestrator) : Json :=
  .record [
    always "orchestratorType" (orNull .str o.type)]

/-- An orchestrator from JSON. -/
def decode : Decoder Orchestrator :=
  Decode.record "OrchestratorProfile" ["orchestratorType"] fun p => mk
      <$> p.nullable "orchestratorType" Decode.string

end Orchestrator

/-- The masters of a cluster. -/
structure Masters where
  count : Option UInt32 := none
  dnsPrefix : Option String := none
  fqdn : Option String := none
deriving DecidableEq

namespace Masters

/-- A master profile as JSON. -/
def toJson (o : Masters) : Json :=
  .record [
    always "count" (orNull ofWord32 o.count),
    always "dnsPrefix" (orNull .str o.dnsPrefix),
    ifSome "fqdn" .str o.fqdn]

/-- A master profile from JSON. -/
def decode : Decoder Masters :=
  Decode.record "MasterProfile" ["count", "dnsPrefix", "fqdn"] fun p => mk
      <$> p.nullable "count" Decode.word32
      <*> p.nullable "dnsPrefix" Decode.string
      <*> p.nullable "fqdn" Decode.string

end Masters

/-- A pool of agents of a cluster. -/
structure AgentPool where
  name : Option String := none
  count : Option UInt32 := none
  vmSize : Option String := none
  dnsPrefix : Option String := none
  fqdn : Option String := none
deriving DecidableEq

namespace AgentPool

/-- An agent pool as JSON. -/
def toJson (o : AgentPool) : Json :=
  .record [
    always "name" (orNull .str o.name),
    always "count" (orNull ofWord32 o.count),
    always "vmSize" (orNull .str o.vmSize),
    always "dnsPrefix" (orNull .str o.dnsPrefix),
    ifSome "fqdn" .str o.fqdn]

/-- An agent pool from JSON. -/
def decode : Decoder AgentPool :=
  Decode.record "AgentPoolProfile"
    ["name", "count", "vmSize", "dnsPrefix", "fqdn"]
    fun p => mk
      <$> p.nullable "name" Decode.string
      <*> p.nullable "count" Decode.word32
      <*> p.nullable "vmSize" Decode.string
      <*> p.nullable "dnsPrefix" Decode.string
      <*> p.nullable "fqdn" Decode.string

end AgentPool

/-- A key that admits an administrator. -/
structure PublicKey where
  data : Option String := none
deriving DecidableEq

namespace PublicKey

/-- A public key as JSON. -/
def toJson (o : PublicKey) : Json :=
  .record [
    always "keyData" (orNull .str o.data)]

/-- A public key from JSON. -/
def decode : Decoder PublicKey :=
  Decode.record "SshPublicKey" ["keyData"] fun p => mk
      <$> p.nullable "keyData" Decode.string

end PublicKey

/-- The keys that admit an administrator. -/
structure Ssh where
  keys : List PublicKey := []
deriving DecidableEq

namespace Ssh

/-- A shell configuration as JSON. -/
def toJson (o : Ssh) : Json :=
  .record [
    always "publicKeys" (ofList PublicKey.toJson o.keys)]

/-- A shell configuration from JSON. -/
def decode : Decoder Ssh :=
  Decode.record "SshConfiguration" ["publicKeys"] fun p => mk
      <$> p.withDefault "publicKeys" [] (Decode.list PublicKey.decode)

end Ssh

/-- The administrator of the machines of a cluster. -/
structure Linux where
  admin : Option String := none
  ssh : Option Ssh := none
deriving DecidableEq

namespace Linux

/-- A machine profile as JSON. -/
def toJson (o : Linux) : Json :=
  .record [
    always "adminUsername" (orNull .str o.admin),
    always "ssh" (orNull Ssh.toJson o.ssh)]

/-- A machine profile from JSON. -/
def decode : Decoder Linux :=
  Decode.record "LinuxProfile" ["adminUsername", "ssh"] fun p => mk
      <$> p.nullable "adminUsername" Decode.string
      <*> p.nullable "ssh" Ssh.decode

end Linux

/-- The identity a cluster acts under. -/
structure Principal where
  clientId : Option String := none
  /-- Taken in on a write and usually not given out again. -/
  secret : Option String := none
deriving DecidableEq

namespace Principal

/-- A principal as JSON. -/
def toJson (o : Principal) : Json :=
  .record [
    always "clientId" (orNull .str o.clientId),
    ifSome "secret" .str o.secret]

/-- A principal from JSON. -/
def decode : Decoder Principal :=
  Decode.record "ServicePrincipalProfile" ["clientId", "secret"] fun p => mk
      <$> p.nullable "clientId" Decode.string
      <*> p.nullable "secret" Decode.string

end Principal

/-- The diagnostics of the machines of a cluster. -/
structure VmDiagnostics where
  enabled : Option Bool := none
  storageUri : Option String := none
deriving DecidableEq

namespace VmDiagnostics

/-- The diagnostics of machines as JSON. -/
def toJson (o : VmDiagnostics) : Json :=
  .record [
    always "enabled" (orNull .bool o.enabled),
    ifSome "storageUri" .str o.storageUri]

/-- The diagnostics of machines from JSON. -/
def decode : Decoder VmDiagnostics :=
  Decode.record "VmDiagnostics" ["enabled", "storageUri"] fun p => mk
      <$> p.nullable "enabled" Decode.boolean
      <*> p.nullable "storageUri" Decode.string

end VmDiagnostics

/-- The diagnostics of a cluster. -/
structure Diagnostics where
  vm : Option VmDiagnostics := none
deriving DecidableEq

namespace Diagnostics

/-- A diagnostics profile as JSON. -/
def toJson (o : Diagnostics) : Json :=
  .record [
    always "vmDiagnostics" (orNull VmDiagnostics.toJson o.vm)]

/-- A diagnostics profile from JSON. -/
def decode : Decoder Diagnostics :=
  Decode.record "DiagnosticsProfile" ["vmDiagnostics"] fun p => mk
      <$> p.nullable "vmDiagnostics" VmDiagnostics.decode

end Diagnostics

/-- What makes up a container service. -/
structure ServiceProperties where
  state : Option State := none
  orchestrator : Option Orchestrator := none
  masters : Option Masters := none
  pools : List AgentPool := []
  linux : Option Linux := none
  principal : Option Principal := none
  diagnostics : Option Diagnostics := none
deriving DecidableEq

namespace ServiceProperties

/-- The properties of a service as JSON. -/
def toJson (o : ServiceProperties) : Json :=
  .record [
    ifSome "provisioningState" State.toJson o.state,
    always "orchestratorProfile" (orNull Orchestrator.toJson o.orchestrator),
    always "masterProfile" (orNull Masters.toJson o.masters),
    always "agentPoolProfiles" (ofList AgentPool.toJson o.pools),
    always "linuxProfile" (orNull Linux.toJson o.linux),
    ifSome "servicePrincipalProfile" Principal.toJson o.principal,
    ifSome "diagnosticsProfile" Diagnostics.toJson o.diagnostics]

/-- The properties of a service from JSON. -/
def decode : Decoder ServiceProperties :=
  Decode.record "ContainerServiceProperties"
    ["provisioningState", "orchestratorProfile", "masterProfile", "agentPoolProfiles",
     "linuxProfile", "servicePrincipalProfile", "diagnosticsProfile"]
    fun p => mk
      <$> p.nullable "provisioningState" State.decode
      <*> p.nullable "orchestratorProfile" Orchestrator.decode
      <*> p.nullable "masterProfile" Masters.decode
      <*> p.withDefault "agentPoolProfiles" [] (Decode.list AgentPool.decode)
      <*> p.nullable "linuxProfile" Linux.decode
      <*> p.nullable "servicePrincipalProfile" Principal.decode
      <*> p.nullable "diagnosticsProfile" Diagnostics.decode

end ServiceProperties

/-- A container service as the management plane holds it. -/
structure Service where
  id : Option String := none
  name : Option String := none
  location : Option String := none
  tags : Option Dictionary := none
  properties : Option ServiceProperties := none
deriving DecidableEq

namespace Service

/-- A container service as JSON. -/
def toJson (o : Service) : Json :=
  .record [
    ifSome "id" .str o.id,
    ifSome "name" .str o.name,
    ifSome "location" .str o.location,
    ifSome "tags" ofDictionary o.tags,
    ifSome "properties" ServiceProperties.toJson o.properties]

/-- A container service from JSON. -/
def decode : Decoder Service :=
  Decode.record "ContainerService"
    ["id", "name", "location", "tags", "properties"]
    fun p => mk
      <$> p.nullable "id" Decode.string
      <*> p.nullable "name" Decode.string
      <*> p.nullable "location" Decode.string
      <*> p.nullable "tags" Decode.dictionary
      <*> p.nullable "properties" ServiceProperties.decode

end Service

end Provisioning.Object
