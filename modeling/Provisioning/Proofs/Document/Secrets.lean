import Provisioning.Document.Service
import Provisioning.Object.Managed
import Provisioning.Document.Group

/-!
The fields of a document that do not make the round trip by themselves. Secrets are written and
never given out: a document that was read has them only from an earlier one. `redacted` is a
document without its secrets, and `secret` is the secret at a place. Computed fields go the other
way: the management plane assigns them and takes none. `uncomputed` is a document without them, and
`computedFrom` is one with those of an object.
-/

namespace Provisioning.Document

/-! ### Secrets -/

/-- The volume without its key. -/
def Volume.redacted (v : Volume) : Volume := { v with key := none }

/-- The credential without its password. -/
def Credential.redacted (c : Credential) : Credential := { c with password := none }

/-- The container without the keys of its volumes. -/
def Container.redacted (c : Container) : Container :=
  { c with volumes := c.volumes.map Volume.redacted }

/-- The group without passwords and keys. -/
def Group.redacted (d : Group) : Group :=
  { d with
    credentials := d.credentials.map Credential.redacted
    containers := d.containers.map Container.redacted }

/-- The principal without its secret. -/
def Principal.redacted (p : Principal) : Principal := { p with secret := none }

/-- The service without the secret of its principal. -/
def Service.redacted (d : Service) : Service :=
  { d with principal := d.principal.map Principal.redacted }

/-- Where a group has a secret. -/
inductive Group.Place where
  /-- The password of the credential at a position. -/
  | password (credential : Nat)
  /-- The key of the volume at a position of the container at a position. -/
  | key (container volume : Nat)

/-- The secret that a group has at a place. -/
def Group.secret (d : Group) : Group.Place → Option String
  | .password i => d.credentials[i]?.bind Credential.password
  | .key i j => (d.containers[i]?.bind fun c => c.volumes[j]?).bind Volume.key

/-- Where a service has a secret. -/
inductive Service.Place where
  /-- The secret of the principal. -/
  | principal

/-- The secret that a service has at a place. -/
def Service.secret (d : Service) : Service.Place → Option String
  | .principal => d.principal.bind Principal.secret

/-! ### Computed fields -/

/-- The group without its address and its host name. -/
def Group.uncomputed (d : Group) : Group := { d with ip := none, fqdn := none }

/-- The group with the address and the host name of an object. -/
def Group.computedFrom (object : Object.Group) (d : Group) : Group :=
  let address := object.properties.bind (·.address)
  { d with ip := address.bind (·.ip), fqdn := address.bind (·.fqdn) }

/-- The service without its host names and without its storage. -/
def Service.uncomputed (d : Service) : Service :=
  { d with
    masters := { d.masters with fqdn := none }
    agents := { d.agents with fqdn := none }
    diagnostics := { d.diagnostics with storageUri := none } }

/-- The service with the host names and the storage of an object. -/
def Service.computedFrom (object : Object.Service) (d : Service) : Service :=
  let masters := object.properties.bind (·.masters)
  let agents := object.properties.bind (·.pools.head?)
  let diagnostics := (object.properties.bind (·.diagnostics)).bind (·.vm)
  { d with
    masters := { d.masters with fqdn := masters.bind (·.fqdn) }
    agents := { d.agents with fqdn := agents.bind (·.fqdn) }
    diagnostics := { d.diagnostics with storageUri := diagnostics.bind (·.storageUri) } }

end Provisioning.Document
