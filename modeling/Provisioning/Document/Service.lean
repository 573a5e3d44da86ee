import Provisioning.Choice
import Provisioning.Document.Form
import Provisioning.Report

/-!
Documents that describe a container service, and what is wrong with one, as far as that can be told
without asking the management plane.
-/

namespace Provisioning.Document

open Json

/-- What runs the containers of a cluster. -/
inductive Platform where
  | dcos
  | kubernetes
  | swarm
deriving DecidableEq

instance : Choice Platform where
  what := "orchestration platform"
  all := [.dcos, .kubernetes, .swarm]
  usual := .kubernetes
  label
    | .dcos => "DCOS"
    | .kubernetes => "Kubernetes"
    | .swarm => "Swarm"

/-- The masters of a cluster. -/
structure Masters where
  count : UInt32 := 1
  dnsPrefix : String := ""
  /-- Computed. -/
  fqdn : Option String := none
deriving DecidableEq

namespace Masters

/-- A master profile as JSON. -/
def toJson (d : Masters) : Json :=
  .record [
    always "count" (ofWord32 d.count),
    always "dns_prefix" (.str d.dnsPrefix),
    ifSome "fqdn" .str d.fqdn]

/-- A master profile from JSON. -/
def decode : Decoder Masters :=
  Decode.record "MasterProfile" ["count", "dns_prefix", "fqdn"] fun p => mk
      <$> p.withDefault "count" 1 Decode.word32
      <*> p.required "dns_prefix" Decode.string
      <*> p.optional "fqdn" Decode.string

end Masters

/-- The key that admits the administrator. -/
structure SshKey where
  data : String := ""
deriving DecidableEq

namespace SshKey

/-- A key as JSON. -/
def toJson (d : SshKey) : Json :=
  .record [
    always "key_data" (.str d.data)]

/-- A key from JSON. -/
def decode : Decoder SshKey :=
  Decode.record "SshKey" ["key_data"] fun p => mk
      <$> p.required "key_data" Decode.string

end SshKey

/-- The administrator of the machines of a cluster. -/
structure Linux where
  admin : String := ""
  sshKey : SshKey := {}
deriving DecidableEq

namespace Linux

/-- A machine profile as JSON. -/
def toJson (d : Linux) : Json :=
  .record [
    always "admin_username" (.str d.admin),
    always "ssh_key" (SshKey.toJson d.sshKey)]

/-- A machine profile from JSON. -/
def decode : Decoder Linux :=
  Decode.record "LinuxProfile" ["admin_username", "ssh_key"] fun p => mk
      <$> p.required "admin_username" Decode.string
      <*> p.required "ssh_key" SshKey.decode

end Linux

/-- The agents of a cluster. -/
structure AgentPool where
  name : String := ""
  count : UInt32 := 1
  dnsPrefix : String := ""
  /-- Computed. -/
  fqdn : Option String := none
  /-- Compared without regard to case, which the management plane does not keep. -/
  vmSize : String := ""
deriving DecidableEq

namespace AgentPool

/-- An agent pool as JSON. -/
def toJson (d : AgentPool) : Json :=
  .record [
    always "name" (.str d.name),
    always "count" (ofWord32 d.count),
    always "dns_prefix" (.str d.dnsPrefix),
    ifSome "fqdn" .str d.fqdn,
    always "vm_size" (.str d.vmSize)]

/-- An agent pool from JSON. -/
def decode : Decoder AgentPool :=
  Decode.record "AgentPoolProfile" ["name", "count", "dns_prefix", "fqdn", "vm_size"] fun p => mk
      <$> p.required "name" Decode.string
      <*> p.withDefault "count" 1 Decode.word32
      <*> p.required "dns_prefix" Decode.string
      <*> p.optional "fqdn" Decode.string
      <*> p.required "vm_size" Decode.string

end AgentPool

/-- The identity a cluster acts under. -/
structure Principal where
  clientId : String
  /-- Write-only. -/
  secret : Option String := none
deriving DecidableEq

namespace Principal

/-- A principal as JSON. -/
def toJson (d : Principal) : Json :=
  .record [
    always "client_id" (.str d.clientId),
    ifSome "client_secret" .str d.secret]

/-- A principal from JSON. -/
def decode : Decoder Principal :=
  Decode.record "ServicePrincipal" ["client_id", "client_secret"] fun p => mk
      <$> p.required "client_id" Decode.string
      <*> p.optional "client_secret" Decode.string

end Principal

/-- The diagnostics of a cluster. -/
structure Diagnostics where
  enabled : Bool := false
  /-- Computed where diagnostics are enabled. -/
  storageUri : Option String := none
deriving DecidableEq

namespace Diagnostics

/-- A diagnostics profile as JSON. -/
def toJson (d : Diagnostics) : Json :=
  .record [
    always "enabled" (.bool d.enabled),
    ifSome "storage_uri" .str d.storageUri]

/-- A diagnostics profile from JSON. -/
def decode : Decoder Diagnostics :=
  Decode.record "DiagnosticsProfile" ["enabled", "storage_uri"] fun p => mk
      <$> p.withDefault "enabled" false Decode.boolean
      <*> p.optional "storage_uri" Decode.string

end Diagnostics

/-- A managed cluster: its masters, one pool of agents, and who administers them. -/
structure Service where
  name : String := ""
  location : String := ""
  resourceGroup : String := ""
  platform : Platform := Choice.usual
  masters : Masters := {}
  linux : Linux := {}
  agents : AgentPool := {}
  principal : Option Principal := none
  diagnostics : Diagnostics := {}
  tags : Dictionary := .empty
deriving DecidableEq

namespace Service

/-- A service as JSON. -/
def toJson (d : Service) : Json :=
  .record [
    always "name" (.str d.name),
    always "location" (.str d.location),
    always "resource_group_name" (.str d.resourceGroup),
    always "orchestration_platform" (Choice.toJson d.platform),
    always "master_profile" (Masters.toJson d.masters),
    always "linux_profile" (Linux.toJson d.linux),
    always "agent_pool_profile" (AgentPool.toJson d.agents),
    ifSome "service_principal" Principal.toJson d.principal,
    always "diagnostics_profile" (Diagnostics.toJson d.diagnostics),
    ifEntries "tags" d.tags]

/-- A service from JSON. -/
def decode : Decoder Service :=
  Decode.record "ContainerServiceConfig"
    ["name", "location", "resource_group_name", "orchestration_platform", "master_profile",
     "linux_profile", "agent_pool_profile", "service_principal", "diagnostics_profile",
     "tags"]
    fun p => mk
      <$> p.required "name" Decode.string
      <*> p.required "location" Decode.string
      <*> p.required "resource_group_name" Decode.string
      <*> p.required "orchestration_platform" Choice.decode
      <*> p.required "master_profile" Masters.decode
      <*> p.required "linux_profile" Linux.decode
      <*> p.required "agent_pool_profile" AgentPool.decode
      <*> p.optional "service_principal" Principal.decode
      <*> p.withDefault "diagnostics_profile" {} Diagnostics.decode
      <*> p.withDefault "tags" .empty Decode.dictionary

end Service

instance : Document Service where
  blank := {}
  toJson := Service.toJson
  decode := Service.decode

/-! ### Reports -/

/-- How many masters can agree among themselves. -/
def masterCounts : List UInt32 := [1, 3, 5]

/-- The greatest number of agents in a pool. -/
def maxAgents : UInt32 := 100

/-- The report on the masters. -/
def Masters.report (m : Masters) : Report :=
  .check (masterCounts.contains m.count) "count" (toString m.count ++ " is not one of 1, 3 or 5")
    ++ .nonBlank "dns_prefix" m.dnsPrefix

/-- The report on the administrator. -/
def Linux.report (l : Linux) : Report :=
  .nonBlank "admin_username" l.admin ++ .nonBlank "ssh_key.key_data" l.sshKey.data

/-- The report on the agents. -/
def AgentPool.report (a : AgentPool) : Report :=
  .nonBlank "name" a.name
    ++ .check (1 ≤ a.count && a.count ≤ maxAgents) "count"
      (toString a.count ++ " is not between 1 and " ++ toString maxAgents)
    ++ .nonBlank "dns_prefix" a.dnsPrefix
    ++ .nonBlank "vm_size" a.vmSize

/-- The report on the principal. -/
def Principal.report (p : Principal) : Report :=
  .nonBlank "client_id" p.clientId ++ .nonBlank "client_secret" (p.secret.getD "")

/-- The report on the principal of a service that has one. -/
def principalReport : Option Principal → Report
  | some p => .nest "service_principal" p.report
  | none => .empty

/-- The report on a service. -/
def Service.report (s : Service) : Report :=
  .nonBlank "name" s.name
    ++ .nonBlank "location" s.location
    ++ .nonBlank "resource_group_name" s.resourceGroup
    ++ .nest "master_profile" s.masters.report
    ++ .nest "linux_profile" s.linux.report
    ++ .nest "agent_pool_profile" s.agents.report
    ++ principalReport s.principal

end Provisioning.Document
