import Provisioning.Proofs.Binding.Group.Faithful
import Provisioning.Proofs.Binding.Service.Faithful
import Provisioning.Proofs.Lifecycle.Apply

/-!
The two kinds of container that are provisioned, groups and services, and how each is looked after
on a simulated plane. A theorem for both kinds is a theorem about a `Kind`.
-/

namespace Provisioning

/-- What is provisioned. -/
inductive Kind where
  | group
  | service
deriving DecidableEq

namespace Kind

/-- The documents that describe a kind. -/
abbrev Doc : Kind → Type
  | group => Document.Group
  | service => Document.Service

/-- The objects of a kind. -/
abbrev Obj : Kind → Type
  | group => Object.Group
  | service => Object.Service

instance : (kind : Kind) → Managed kind.Obj
  | group => inferInstanceAs (Managed Object.Group)
  | service => inferInstanceAs (Managed Object.Service)

instance : ∀ kind : Kind, LawfulManaged kind.Obj
  | group => inferInstanceAs (LawfulManaged Object.Group)
  | service => inferInstanceAs (LawfulManaged Object.Service)

/-- How documents of a kind stand for its objects. -/
def binding : (kind : Kind) → Binding kind.Doc kind.Obj
  | group => Document.Group.binding
  | service => Document.Service.binding

/-- A document without what the management plane computes, spelled the way it spells. -/
def canonical : (kind : Kind) → kind.Doc → kind.Doc
  | group => Document.Group.canonical
  | service => Document.Service.canonical

/-- An object up to the spelling of its location and, for services, the case of machine sizes. -/
def normal : (kind : Kind) → kind.Obj → kind.Obj
  | group => Document.Group.normal
  | service => Document.Service.normal

theorem faithful : ∀ kind : Kind, kind.binding.Faithful kind.canonical kind.normal
  | group => Document.Group.faithful
  | service => Document.Service.faithful

/-- How objects of a kind are looked after through a client. -/
def through {σ : Type} (kind : Kind) (client : Client σ kind.Obj) (timeouts : Timeouts)
    (patience : Nat) : Lifecycle σ kind.Doc kind.Obj where
  binding := kind.binding
  client
  timeouts
  patience

/-- How objects of a kind are looked after on a simulated plane. -/
def lifecycle (kind : Kind) (timeouts : Timeouts) (patience : Nat) :
    Lifecycle (Store kind.Obj) kind.Doc kind.Obj where
  binding := kind.binding
  client := Store.client kind.Obj
  timeouts
  patience

end Kind

/-! ### The least documents -/

/-- A service of a name, with nothing that it can do without. -/
def Document.Service.least (name : String) : Document.Service where
  name
  location := "westeurope"
  resourceGroup := "rg"
  masters := { dnsPrefix := "masters" }
  linux := { admin := "admin", sshKey := { data := "key" } }
  agents := { name := "agents", dnsPrefix := "agents", vmSize := "Standard_A1" }

/-- The world of an empty plane that says of every write that it is done at once. -/
def emptyWorld (Obj : Type) : World (Store Obj) Obj := ⟨.empty .silent none, .machine 0, []⟩

end Provisioning
