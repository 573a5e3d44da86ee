import Provisioning.Binding.Basic
import Provisioning.Document.GroupReport
import Provisioning.Text.Case
import Provisioning.Object.Managed
import Provisioning.Text.Basic

/-!
The binding of container groups. A group cannot be changed in place: every difference replaces it.
On the wire, a group holds the ports and the volumes of all its containers together; a container
refers to them by number and by name.
-/

namespace Provisioning.Document.Group

/-! ### Documents to objects -/

/-- A list of the wire, which is left out when it is empty. -/
def unlessEmpty {α : Type} (items : List α) : Option (List α) :=
  if items.isEmpty then none else some items

/-- A port number of the wire. -/
def portOf (container : String) (port : UInt32) : Except BindingError UInt16 :=
  if port.toNat < 65536 then .ok (UInt16.ofNat port.toNat)
  else .error (.portOutOfRange container port)

/-- The mount of a volume. -/
def expandMount (v : Volume) : Object.Mount where
  name := some v.name
  path := some v.mountPath
  readOnly := some v.readOnly

/-- The volume of the group that a container's volume asks for. -/
def expandVolume (v : Volume) : Object.Volume where
  name := some v.name
  file := some {
    share := some v.share
    readOnly := some v.readOnly
    account := some v.account
    key := v.key }

/-- The port of the group that a container asks for. -/
def expandPort (c : Container) : Option Object.Port :=
  c.port.map fun port => {
    protocol := c.protocol.map Choice.label
    port := some (UInt16.ofNat port.toNat) }

/-- The words of a command line. -/
def words (command : String) : List String := Text.splitText ' ' command

/-- A variable on the wire. -/
def expandVariable (entry : String × String) : Object.Variable where
  name := some entry.1
  value := some entry.2

/-- A container on the wire. Its port has to fit the wire. -/
def expandContainer (c : Container) : Except BindingError Object.Container := do
  let port ← c.port.mapM (portOf c.name)
  return {
    name := some c.name
    properties := some {
      image := some c.image
      command := c.command.map words
      ports := port.map fun number => [{ port := some number }]
      environment := unlessEmpty (c.environment.entries.map expandVariable)
      requirements := some { requests := some { memory := some c.memory, cpu := some c.cpu } }
      mounts := unlessEmpty (c.volumes.map expandMount) } }

/-- The volumes of one name, declared alike by every container that shares them, once each: the
first of every name that is not among `known`. -/
def distinct (known : List String) : List Volume → List Volume
  | [] => []
  | v :: volumes =>
    if known.contains v.name then distinct known volumes
    else v :: distinct (v.name :: known) volumes

/-- The volumes of a group's containers, each name once. -/
def volumes (d : Group) : List Volume := distinct [] (d.containers.flatMap Container.volumes)

/-- A credential on the wire. -/
def expandCredential (c : Credential) : Object.Credential where
  server := some c.server
  username := some c.username
  password := c.password

/-- The address that a group asks for. -/
def expandAddress (d : Group) : Object.Address where
  ports := d.containers.filterMap expandPort
  type := some (Choice.label d.addressType)
  label := d.label

/-- The object that a group describes. -/
def expand (d : Group) : Except BindingError Object.Group := do
  let containers ← d.containers.mapM expandContainer
  return {
    name := some d.name
    location := some d.location
    tags := if d.tags.isEmpty then none else some d.tags
    properties := some {
      containers
      credentials := unlessEmpty (d.credentials.map expandCredential)
      restartPolicy := some (Choice.label d.restartPolicy)
      address := some d.expandAddress
      osType := some (Choice.label d.osType)
      volumes := unlessEmpty (d.volumes.map expandVolume) } }

/-! ### Objects to documents -/

/-- The value with a label of the wire. -/
def flattenLabel {α : Type} [Choice α] (label : String) : Except BindingError α :=
  (Choice.ofLabel label).mapError (.unrecognized (Choice.what α))

/-- The value with a label of the wire, or the usual one where there is no label. -/
def flattenLabelOrUsual {α : Type} [Choice α] : Option String → Except BindingError α
  | some label => flattenLabel label
  | none => .ok Choice.usual

/-- The first port that a container lists. -/
def firstPort (p : Object.ContainerProperties) : Option UInt16 := do
  let ports ← p.ports
  let first ← ports.head?
  first.port

/-- The protocol of a port: that of the first port of the group with its number. -/
def protocolLabel (groupPorts : List Object.Port) : Option UInt16 → Option String
  | some port => (groupPorts.find? fun p => p.port == some port).bind (·.protocol)
  | none => none

/-- The share of the first volume of a name. -/
def shareOf (groupVolumes : List Object.Volume) (name : String) : Option Object.FileShare :=
  (groupVolumes.find? fun v => v.name == some name).bind (·.file)

/-- The key of the first volume of a name in an earlier document's container. -/
def priorKey (prior : Option Container) (name : String) : Option String := do
  let container ← prior
  let volume ← container.volumes.find? fun v => v.name == name
  volume.key

/-- The volume of a mount. A mount without a name, or of a name that no volume of the group has, is
dropped. -/
def flattenMount (groupVolumes : List Object.Volume) (prior : Option Container)
    (m : Object.Mount) : Option Volume := do
  let name ← m.name
  let share ← shareOf groupVolumes name
  return {
    name
    mountPath := m.path.getD ""
    readOnly := m.readOnly.getD false
    share := share.share.getD ""
    account := share.account.getD ""
    key := priorKey prior name }

/-- The entry of a variable, if it has a name. -/
def flattenVariable (v : Object.Variable) : Option (String × String) :=
  v.name.map fun name => (name, v.value.getD "")

/-- The containers of an earlier document's group, by the name on the wire. -/
def priorContainer (prior : Option Group) (name : Option String) : Option Container := do
  let group ← prior
  group.containers.find? fun c => some c.name == name

/-- The container in a document. -/
def flattenContainer (groupPorts : List Object.Port) (groupVolumes : List Object.Volume)
    (prior : Option Group) (c : Object.Container) : Except BindingError Container :=
  match c.name, c.properties with
  | none, _ => .error (.missingField "container name")
  | some name, none => .error (.missingField ("properties of container '" ++ name ++ "'"))
  | some name, some properties => do
    let requests := properties.requirements.bind (·.requests)
    let port := firstPort properties
    let protocol ← (protocolLabel groupPorts port).mapM flattenLabel
    return {
      name
      image := properties.image.getD ""
      cpu := (requests.bind (·.cpu)).getD .zero
      memory := (requests.bind (·.memory)).getD .zero
      port := port.map fun number => UInt32.ofNat number.toNat
      protocol
      environment := .ofList ((properties.environment.getD []).filterMap flattenVariable)
      command := properties.command.map fun words => " ".intercalate words
      volumes := (properties.mounts.getD []).filterMap
        (flattenMount groupVolumes (priorContainer prior (some name))) }

/-- The password of the credential at a position of an earlier document, if its server is the
same. -/
def priorPassword (prior : Option Group) (index : Nat) (server : String) : Option String := do
  let group ← prior
  let credential ← group.credentials[index]?
  if credential.server = server then credential.password else none

/-- The credentials in a document, from the one numbered `index` on. -/
def flattenCredentials (prior : Option Group) :
    (index : Nat) → List Object.Credential → List Credential
  | _, [] => []
  | index, c :: credentials =>
    let server := c.server.getD ""
    { server, username := c.username.getD "", password := priorPassword prior index server }
      :: flattenCredentials prior (index + 1) credentials

/-- The document that describes an object. -/
def flatten (key : NaturalKey) (object : Object.Group) (prior : Option Group) :
    Except BindingError Group :=
  match object.properties with
  | none => .error (.missingField "properties")
  | some properties => do
    let address := properties.address
    let addressType ← flattenLabelOrUsual (address.bind (·.type))
    let osType ← match properties.osType with
      | some label => flattenLabel label
      | none => .error (.missingField "osType")
    let restartPolicy ← flattenLabelOrUsual properties.restartPolicy
    let containers ← properties.containers.mapM
      (flattenContainer ((address.map (·.ports)).getD []) (properties.volumes.getD []) prior)
    return {
      name := key.name
      location := normalizeLocation (object.location.getD "")
      resourceGroup := key.scope
      addressType
      osType
      restartPolicy
      label := address.bind (·.label)
      ip := address.bind (·.ip)
      fqdn := address.bind (·.fqdn)
      tags := object.tags.getD .empty
      credentials := flattenCredentials prior 0 (properties.credentials.getD [])
      containers }

/-! ### Differences -/

/-- How two credentials at one position differ. -/
def diffCredential (path : String) (c d : Credential) : List String :=
  Diff.changed (path ++ ".server") c.server d.server
    ++ Diff.changed (path ++ ".username") c.username d.username
    ++ Diff.changedIfKnown (path ++ ".password") c.password d.password

/-- How two volumes at one position differ. -/
def diffVolume (path : String) (c d : Volume) : List String :=
  Diff.changed (path ++ ".name") c.name d.name
    ++ Diff.changed (path ++ ".mount_path") c.mountPath d.mountPath
    ++ Diff.changed (path ++ ".read_only") c.readOnly d.readOnly
    ++ Diff.changed (path ++ ".share_name") c.share d.share
    ++ Diff.changed (path ++ ".storage_account_name") c.account d.account
    ++ Diff.changedIfKnown (path ++ ".storage_account_key") c.key d.key

/-- How the items of two lists differ, from the position `index` on; items of one list only do not
count. -/
def diffItems {α : Type} (path : String) (diffItem : String → α → α → List String) :
    (index : Nat) → (current desired : List α) → List String
  | index, c :: current, d :: desired =>
    diffItem (path ++ "." ++ toString index) c d
      ++ diffItems path diffItem (index + 1) current desired
  | _, _, _ => []

/-- How two lists differ: in their length, or item by item. -/
def diffList {α : Type} (path : String) (diffItem : String → α → α → List String)
    (current desired : List α) : List String :=
  if current.length = desired.length then diffItems path diffItem 0 current desired else [path]

/-- How two containers at one position differ. -/
def diffContainer (path : String) (c d : Container) : List String :=
  Diff.changed (path ++ ".name") c.name d.name
    ++ Diff.changed (path ++ ".image") c.image d.image
    ++ Diff.pathUnless (c.cpu.same d.cpu) (path ++ ".cpu")
    ++ Diff.pathUnless (c.memory.same d.memory) (path ++ ".memory")
    ++ Diff.changed (path ++ ".port") c.port d.port
    ++ Diff.changed (path ++ ".protocol") c.protocol d.protocol
    ++ Diff.changed (path ++ ".environment_variables") c.environment d.environment
    ++ Diff.changed (path ++ ".command") c.command d.command
    ++ diffList (path ++ ".volume") diffVolume c.volumes d.volumes

/-- How a group differs from the one that is wanted. -/
def diff (current desired : Group) : Diff where
  replace :=
    Diff.changed "name" current.name desired.name
      ++ Diff.changed "location" (normalizeLocation current.location)
        (normalizeLocation desired.location)
      ++ Diff.changed "resource_group_name" current.resourceGroup desired.resourceGroup
      ++ Diff.changed "ip_address_type" current.addressType desired.addressType
      ++ Diff.changed "os_type" current.osType desired.osType
      ++ Diff.changed "restart_policy" current.restartPolicy desired.restartPolicy
      ++ Diff.changed "dns_name_label" current.label desired.label
      ++ Diff.changed "tags" current.tags desired.tags
      ++ diffList "image_registry_credential" diffCredential current.credentials
        desired.credentials
      ++ diffList "container" diffContainer current.containers desired.containers
  update := []

/-- How groups stand for objects. -/
def binding : Binding Group Object.Group where
  kind := "container group"
  key d := ⟨d.resourceGroup, d.name⟩
  report := report
  expand := expand
  flatten := flatten
  diff := diff
  updatable := false
  change := { pending := [.pending, .creating, .updating, .repairing], target := [.succeeded] }
  timeouts := .uniform (.ofMinutes 30)

end Provisioning.Document.Group
