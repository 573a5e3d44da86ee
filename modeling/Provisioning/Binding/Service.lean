import Provisioning.Binding.Basic
import Provisioning.Document.Service
import Provisioning.Text.Case
import Provisioning.Object.Managed

/-!
The binding of container services. Counts, sizes, credentials and tags change in place; identity,
platform and the names of the agents do not. Only one pool of agents is managed.
-/

namespace Provisioning.Document.Service

/-! ### Documents to objects -/

/-- The principal on the wire. -/
def expandPrincipal (p : Principal) : Object.Principal where
  clientId := some p.clientId
  secret := p.secret

/-- The agents on the wire. -/
def expandAgents (a : AgentPool) : Object.AgentPool where
  name := some a.name
  count := some a.count
  vmSize := some a.vmSize
  dnsPrefix := some a.dnsPrefix

/-- The administrator on the wire. -/
def expandLinux (l : Linux) : Object.Linux where
  admin := some l.admin
  ssh := some { keys := [{ data := some l.sshKey.data }] }

/-- The object that a service describes. -/
def expand (d : Service) : Object.Service where
  name := some d.name
  location := some d.location
  tags := if d.tags.isEmpty then none else some d.tags
  properties := some {
    orchestrator := some { type := some (Choice.label d.platform) }
    masters := some { count := some d.masters.count, dnsPrefix := some d.masters.dnsPrefix }
    pools := [expandAgents d.agents]
    linux := some (expandLinux d.linux)
    principal := d.principal.map expandPrincipal
    diagnostics := some { vm := some { enabled := some d.diagnostics.enabled } } }

/-! ### Objects to documents -/

/-- A part that a document cannot do without. -/
def need {α : Type} (field : String) : Option α → Except BindingError α
  | some part => .ok part
  | none => .error (.missingField field)

/-- The platform with a label of the wire. -/
def flattenPlatform (label : String) : Except BindingError Platform :=
  (Choice.ofLabel label).mapError (.unrecognized "orchestrator type")

/-- The secret of an earlier document's principal, if it was the same one. -/
def priorSecret (clientId : String) (prior : Option Service) : Option String := do
  let service ← prior
  let principal ← service.principal
  if principal.clientId = clientId then principal.secret else none

/-- The principal in a document. -/
def flattenPrincipal (prior : Option Service) (p : Object.Principal) : Principal :=
  let clientId := p.clientId.getD ""
  { clientId, secret := p.secret.or (priorSecret clientId prior) }

/-- The masters in a document. -/
def flattenMasters (m : Object.Masters) : Masters where
  count := m.count.getD 1
  dnsPrefix := m.dnsPrefix.getD ""
  fqdn := m.fqdn

/-- The agents in a document. -/
def flattenAgents (p : Object.AgentPool) : AgentPool where
  name := p.name.getD ""
  count := p.count.getD 1
  dnsPrefix := p.dnsPrefix.getD ""
  fqdn := p.fqdn
  vmSize := p.vmSize.getD ""

/-- The first key that admits the administrator. -/
def firstKey (l : Object.Linux) : Option String := do
  let ssh ← l.ssh
  let key ← ssh.keys.head?
  key.data

/-- The diagnostics in a document. -/
def flattenDiagnostics (d : Option Object.Diagnostics) : Diagnostics :=
  let vm := d.bind (·.vm)
  { enabled := (vm.bind (·.enabled)).getD false, storageUri := vm.bind (·.storageUri) }

/-- The document that describes an object. -/
def flatten (key : NaturalKey) (object : Object.Service) (prior : Option Service) :
    Except BindingError Service := do
  let properties ← need "properties" object.properties
  let label ← need "orchestratorProfile.orchestratorType"
    (properties.orchestrator.bind (·.type))
  let platform ← flattenPlatform label
  let masters ← need "masterProfile" properties.masters
  let pool ← need "agentPoolProfiles" properties.pools.head?
  let linux ← need "linuxProfile" properties.linux
  let sshKey ← need "linuxProfile.ssh.publicKeys" (firstKey linux)
  return {
    name := key.name
    location := normalizeLocation (object.location.getD "")
    resourceGroup := key.scope
    platform
    masters := flattenMasters masters
    linux := { admin := linux.admin.getD "", sshKey := { data := sshKey } }
    agents := flattenAgents pool
    principal := properties.principal.map (flattenPrincipal prior)
    diagnostics := flattenDiagnostics properties.diagnostics
    tags := object.tags.getD .empty }

/-! ### Differences -/

/-- How the principals of two services differ. -/
def diffPrincipal : (current desired : Option Principal) → List String
  | some c, some d =>
    Diff.changed "service_principal.client_id" c.clientId d.clientId
      ++ Diff.changedIfKnown "service_principal.client_secret" c.secret d.secret
  | none, none => []
  | _, _ => ["service_principal"]

/-- How a service differs from the one that is wanted. -/
def diff (current desired : Service) : Diff where
  replace :=
    Diff.changed "name" current.name desired.name
      ++ Diff.changed "location" (normalizeLocation current.location)
        (normalizeLocation desired.location)
      ++ Diff.changed "resource_group_name" current.resourceGroup desired.resourceGroup
      ++ Diff.changed "orchestration_platform" current.platform desired.platform
      ++ Diff.changed "agent_pool_profile.name" current.agents.name desired.agents.name
      ++ Diff.changed "agent_pool_profile.dns_prefix" current.agents.dnsPrefix
        desired.agents.dnsPrefix
  update :=
    Diff.changed "master_profile.count" current.masters.count desired.masters.count
      ++ Diff.changed "master_profile.dns_prefix" current.masters.dnsPrefix
        desired.masters.dnsPrefix
      ++ Diff.changed "linux_profile.admin_username" current.linux.admin desired.linux.admin
      ++ Diff.changed "linux_profile.ssh_key.key_data" current.linux.sshKey.data
        desired.linux.sshKey.data
      ++ Diff.changed "agent_pool_profile.count" current.agents.count desired.agents.count
      ++ Diff.changed "agent_pool_profile.vm_size" (Text.lower current.agents.vmSize)
        (Text.lower desired.agents.vmSize)
      ++ diffPrincipal current.principal desired.principal
      ++ Diff.changed "diagnostics_profile.enabled" current.diagnostics.enabled
        desired.diagnostics.enabled
      ++ Diff.changed "tags" current.tags desired.tags

/-- How services stand for objects. -/
def binding : Binding Service Object.Service where
  kind := "container service"
  key d := ⟨d.resourceGroup, d.name⟩
  report := report
  expand d := .ok d.expand
  flatten := flatten
  diff := diff
  updatable := true
  change := { pending := [.creating, .updating], target := [.succeeded] }
  timeouts := .uniform (.ofMinutes 60)

end Provisioning.Document.Service
