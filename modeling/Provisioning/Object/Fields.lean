import Provisioning.Resource.Id
import Provisioning.Object.Group
import Provisioning.Object.Service

/-!
The fields of objects that a management plane treats in its own way. Computed fields are what it
assigns to an object when that is written: they depend on the natural key, the location and what the
document asks for, never on the values of an earlier write, so an object that asks for none has
none. Write-only fields are secrets that it takes in and never gives out: `scrub` removes them and
leaves everything else as it is.
-/

namespace Provisioning.Object

/-! ### Computed fields -/

/-- A made-up public address that is the same whenever the key is: the sum of the bytes of the
resource group and the name, in the last three parts of an address. -/
def stableAddress (key : NaturalKey) : String :=
  let bytes := key.scope.toUTF8.toList ++ key.name.toUTF8.toList
  let sum := bytes.foldl (fun n byte => n + byte.toNat) 0
  "20." ++ toString (sum / 65536 % 256) ++ "." ++ toString (sum / 256 % 256) ++ "."
    ++ toString (sum % 256)

/-- The host name of a labelled group at a location. -/
def groupHost (location label : String) : String :=
  label ++ "." ++ location ++ ".azurecontainer.io"

/-- The host name of the masters with a prefix at a location. -/
def mastersHost (location dnsPrefix : String) : String :=
  dnsPrefix ++ "mgmt." ++ location ++ ".cloudapp.azure.com"

/-- The host name of the agents with a prefix at a location. -/
def agentsHost (location dnsPrefix : String) : String :=
  dnsPrefix ++ "agents." ++ location ++ ".cloudapp.azure.com"

/-- Where the diagnostics of a service are stored. -/
def diagnosticsUri (name : String) : String :=
  "https://" ++ String.ofList (name.toList.filter (· != '-')) ++ "diag.blob.core.windows.net/"

/-! ### Container groups -/

/-- The address with its number and its host name. -/
def Address.populate (key : NaturalKey) (location : String) (a : Address) : Address :=
  { a with ip := some (stableAddress key), fqdn := a.label.map (groupHost location) }

/-- The properties with the computed fields of the address. -/
def GroupProperties.populate (key : NaturalKey) (location : String) (p : GroupProperties) :
    GroupProperties :=
  { p with address := p.address.map (Address.populate key location) }

/-- The group with its computed fields. -/
def Group.populate (key : NaturalKey) (g : Group) : Group :=
  { g with properties := g.properties.map (GroupProperties.populate key (g.location.getD "")) }

/-! ### Container services -/

/-- The masters with their host name. -/
def Masters.populate (location : String) (m : Masters) : Masters :=
  { m with fqdn := m.dnsPrefix.map (mastersHost location) }

/-- The agents with their host name. -/
def AgentPool.populate (location : String) (p : AgentPool) : AgentPool :=
  { p with fqdn := p.dnsPrefix.map (agentsHost location) }

/-- The diagnostics with their storage, if they are enabled. -/
def VmDiagnostics.populate (name : String) (d : VmDiagnostics) : VmDiagnostics :=
  { d with storageUri := if d.enabled = some true then some (diagnosticsUri name) else none }

/-- The profile with the storage of the diagnostics. -/
def Diagnostics.populate (name : String) (d : Diagnostics) : Diagnostics :=
  { d with vm := d.vm.map (VmDiagnostics.populate name) }

/-- The properties with their computed fields. -/
def ServiceProperties.populate (key : NaturalKey) (location : String) (p : ServiceProperties) :
    ServiceProperties :=
  { p with
    masters := p.masters.map (Masters.populate location)
    pools := p.pools.map (AgentPool.populate location)
    diagnostics := p.diagnostics.map (Diagnostics.populate key.name) }

/-- The service with its computed fields. -/
def Service.populate (key : NaturalKey) (s : Service) : Service :=
  { s with properties := s.properties.map (ServiceProperties.populate key (s.location.getD "")) }

/-! ### Write-only fields -/

/-- The share without the key of its account. -/
def FileShare.scrub (s : FileShare) : FileShare := { s with key := none }

/-- The volume without the key of its share. -/
def Volume.scrub (v : Volume) : Volume := { v with file := v.file.map FileShare.scrub }

/-- The credential without its password. -/
def Credential.scrub (c : Credential) : Credential := { c with password := none }

/-- The properties without the secrets of volumes and credentials. -/
def GroupProperties.scrub (p : GroupProperties) : GroupProperties :=
  { p with
    volumes := p.volumes.map (List.map Volume.scrub)
    credentials := p.credentials.map (List.map Credential.scrub) }

/-- The group without its secrets. -/
def Group.scrub (g : Group) : Group :=
  { g with properties := g.properties.map GroupProperties.scrub }

/-- The principal without its secret. -/
def Principal.scrub (p : Principal) : Principal := { p with secret := none }

/-- The properties without the secret of the principal. -/
def ServiceProperties.scrub (p : ServiceProperties) : ServiceProperties :=
  { p with principal := p.principal.map Principal.scrub }

/-- The service without its secret. -/
def Service.scrub (s : Service) : Service :=
  { s with properties := s.properties.map ServiceProperties.scrub }

end Provisioning.Object
