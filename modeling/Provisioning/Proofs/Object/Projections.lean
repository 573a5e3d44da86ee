import Provisioning.Proofs.Lifecycle.Kinds

/-!
The two sides of an object that the management plane does not share with whoever writes it: secrets,
which it takes and never gives out, and computed fields, which it assigns and never takes. Each side
can be replaced as a whole and leaves the rest alone (`withSecrets`, `withComputed`). Removing the
secrets is to replace them by none; assigning the computed fields is to replace them by what neither
side has a say in. So the two do not get into each other's way (`projections_independent`).
-/

namespace Provisioning

namespace Object

theorem mapIdx_const {α β : Type} (f : α → β) (items : List α) :
    items.mapIdx (fun _ => f) = items.map f :=
  List.mapIdx_eq_iff.mpr fun i => by simp

/-- What an object is known by, whatever it is made of. -/
structure Envelope where
  id : Option String
  name : Option String
  location : Option String
  tags : Option Dictionary
  state : Option State

/-! ### Groups -/

/-- Where a group has a secret. -/
inductive Group.SecretField where
  /-- The key of the share behind the volume at a position. -/
  | key (volume : Nat)
  /-- The password of the credential at a position. -/
  | password (credential : Nat)

/-- Where a group has a computed field. -/
inductive Group.ComputedField where
  | ip
  | host

/-- The volume with a key for its share. -/
def Volume.withKey (key : Option String) (v : Volume) : Volume :=
  { v with file := v.file.map fun share => { share with key } }

/-- The properties with the given secrets, wherever there is a place for one. -/
def GroupProperties.withSecrets (secrets : Group.SecretField → Option String)
    (p : GroupProperties) : GroupProperties :=
  { p with
    volumes := p.volumes.map fun volumes =>
      volumes.mapIdx fun i v => v.withKey (secrets (.key i))
    credentials := p.credentials.map fun credentials =>
      credentials.mapIdx fun i c => { c with password := secrets (.password i) } }

/-- The properties with the given computed fields, if there is an address to have them. -/
def GroupProperties.withComputed (values : Group.ComputedField → Option String)
    (p : GroupProperties) : GroupProperties :=
  { p with address := p.address.map fun a => { a with ip := values .ip, fqdn := values .host } }

namespace Group

/-- What a group is known by. -/
def envelope (o : Group) : Envelope :=
  ⟨o.id, o.name, o.location, o.tags, o.properties.bind (·.state)⟩

/-- The group with the given secrets. -/
def withSecrets (secrets : SecretField → Option String) (o : Group) : Group :=
  { o with properties := o.properties.map (GroupProperties.withSecrets secrets) }

/-- The group with the given computed fields. -/
def withComputed (values : ComputedField → Option String) (o : Group) : Group :=
  { o with properties := o.properties.map (GroupProperties.withComputed values) }

/-- The address of a group. -/
def address (o : Group) : Option Address := o.properties.bind (·.address)

/-- What a group has in a computed field. -/
def computed (o : Group) : ComputedField → Option String
  | .ip => o.address.bind (·.ip)
  | .host => o.address.bind (·.fqdn)

/-- Whether there is what a computed field is derived from: an address, or its label. -/
def asks (o : Group) : ComputedField → Bool
  | .ip => o.address.isSome
  | .host => (o.address.bind (·.label)).isSome

/-- What the management plane assigns to the computed fields. -/
def assigned (key : NaturalKey) (o : Group) : ComputedField → Option String
  | .ip => some (stableAddress key)
  | .host => (o.address.bind (·.label)).map (groupHost (o.location.getD ""))

variable (key : NaturalKey) (o : Group)

theorem scrub_eq : o.scrub = o.withSecrets fun _ => none := by
  obtain ⟨_, _, _, _, properties⟩ := o
  cases properties with
  | none => rfl
  | some p =>
    simp only [scrub, withSecrets, Option.map_some, GroupProperties.scrub,
      GroupProperties.withSecrets, mapIdx_const]
    rfl

theorem withSecrets_withSecrets (earlier secrets : SecretField → Option String) :
    (o.withSecrets earlier).withSecrets secrets = o.withSecrets secrets := by
  obtain ⟨_, _, _, _, properties⟩ := o
  cases properties with
  | none => rfl
  | some p =>
    obtain ⟨_, _, credentials, _, _, _, volumes⟩ := p
    cases credentials <;> cases volumes <;>
      simp [withSecrets, GroupProperties.withSecrets, Volume.withKey, Function.comp_def]

theorem populate_eq : o.populate key = o.withComputed (o.assigned key) := by
  obtain ⟨_, _, _, _, properties⟩ := o
  cases properties with
  | none => rfl
  | some p =>
    obtain ⟨_, _, _, _, address, _, _⟩ := p
    cases address <;> rfl

theorem populate_withComputed (values : ComputedField → Option String) :
    (o.withComputed values).populate key = o.populate key := by
  obtain ⟨_, _, _, _, properties⟩ := o
  cases properties with
  | none => rfl
  | some p =>
    obtain ⟨_, _, _, _, address, _, _⟩ := p
    cases address <;> rfl

theorem populate_withSecrets (secrets : SecretField → Option String) :
    (o.withSecrets secrets).populate key = (o.populate key).withSecrets secrets := by
  obtain ⟨_, _, _, _, properties⟩ := o
  cases properties <;> rfl

theorem isSome_computed_populate (field : ComputedField) :
    ((o.populate key).computed field).isSome = o.asks field := by
  obtain ⟨_, _, _, _, properties⟩ := o
  cases properties with
  | none => cases field <;> rfl
  | some p =>
    obtain ⟨_, _, _, _, address, _, _⟩ := p
    cases address with
    | none => cases field <;> rfl
    | some a =>
      obtain ⟨_, _, _, label, _⟩ := a
      cases field <;> cases label <;> rfl

end Group

/-! ### Services -/

/-- Where a service has a secret. -/
inductive Service.SecretField where
  /-- The secret of the principal. -/
  | principal

/-- Where a service has a computed field. -/
inductive Service.ComputedField where
  /-- The host name of the masters. -/
  | masters
  /-- The host name of the agents in the pool at a position. -/
  | agents (pool : Nat)
  /-- Where the diagnostics are stored. -/
  | storage

/-- The properties with the given secret, if there is a principal to have it. -/
def ServiceProperties.withSecrets (secrets : Service.SecretField → Option String)
    (p : ServiceProperties) : ServiceProperties :=
  { p with principal := p.principal.map fun x => { x with secret := secrets .principal } }

/-- The properties with the given computed fields, wherever there is a place for one. -/
def ServiceProperties.withComputed (values : Service.ComputedField → Option String)
    (p : ServiceProperties) : ServiceProperties :=
  { p with
    masters := p.masters.map fun m => { m with fqdn := values .masters }
    pools := p.pools.mapIdx fun i pool => { pool with fqdn := values (.agents i) }
    diagnostics := p.diagnostics.map fun d =>
      { d with vm := d.vm.map fun vm => { vm with storageUri := values .storage } } }

namespace Service

/-- What a service is known by. -/
def envelope (o : Service) : Envelope :=
  ⟨o.id, o.name, o.location, o.tags, o.properties.bind (·.state)⟩

/-- The service with the given secret. -/
def withSecrets (secrets : SecretField → Option String) (o : Service) : Service :=
  { o with properties := o.properties.map (ServiceProperties.withSecrets secrets) }

/-- The service with the given computed fields. -/
def withComputed (values : ComputedField → Option String) (o : Service) : Service :=
  { o with properties := o.properties.map (ServiceProperties.withComputed values) }

/-- The masters of a service. -/
def masters (o : Service) : Option Masters := o.properties.bind (·.masters)

/-- The pool of a service at a position. -/
def pool (o : Service) (i : Nat) : Option AgentPool := o.properties.bind (·.pools[i]?)

/-- The diagnostics of a service. -/
def diagnostics (o : Service) : Option VmDiagnostics :=
  (o.properties.bind (·.diagnostics)).bind (·.vm)

/-- What a service has in a computed field. -/
def computed (o : Service) : ComputedField → Option String
  | .masters => o.masters.bind (·.fqdn)
  | .agents i => (o.pool i).bind (·.fqdn)
  | .storage => o.diagnostics.bind (·.storageUri)

/-- Whether there is what a computed field is derived from: a prefix for the host names, or
diagnostics that are enabled. -/
def asks (o : Service) : ComputedField → Bool
  | .masters => (o.masters.bind (·.dnsPrefix)).isSome
  | .agents i => ((o.pool i).bind (·.dnsPrefix)).isSome
  | .storage => o.diagnostics.bind (·.enabled) == some true

/-- What the management plane assigns to the computed fields. -/
def assigned (key : NaturalKey) (o : Service) : ComputedField → Option String
  | .masters => (o.masters.bind (·.dnsPrefix)).map (mastersHost (o.location.getD ""))
  | .agents i => ((o.pool i).bind (·.dnsPrefix)).map (agentsHost (o.location.getD ""))
  | .storage =>
    if o.diagnostics.bind (·.enabled) = some true then some (diagnosticsUri key.name) else none

variable (key : NaturalKey) (o : Service)

theorem scrub_eq : o.scrub = o.withSecrets fun _ => none := by
  obtain ⟨_, _, _, _, properties⟩ := o
  cases properties <;> rfl

theorem withSecrets_withSecrets (earlier secrets : SecretField → Option String) :
    (o.withSecrets earlier).withSecrets secrets = o.withSecrets secrets := by
  obtain ⟨_, _, _, _, properties⟩ := o
  cases properties with
  | none => rfl
  | some p =>
    obtain ⟨_, _, _, _, _, principal, _⟩ := p
    cases principal <;> rfl

theorem populate_eq : o.populate key = o.withComputed (o.assigned key) := by
  obtain ⟨_, _, _, _, properties⟩ := o
  cases properties with
  | none => rfl
  | some p =>
    obtain ⟨_, _, masters, pools, _, _, diagnostics⟩ := p
    have hpools (location : String) : pools.mapIdx (fun i pool => { pool with
          fqdn := (pools[i]?.bind (·.dnsPrefix)).map (agentsHost location) })
        = pools.map (AgentPool.populate location) :=
      List.mapIdx_eq_iff.mpr fun i => by
        cases hpool : pools[i]? <;> simp [hpool, AgentPool.populate]
    simp only [withComputed, populate, Option.map_some, ServiceProperties.withComputed,
      ServiceProperties.populate, assigned, pool, Option.bind_some, hpools]
    cases masters <;> rcases diagnostics with _ | ⟨_ | vm⟩ <;> rfl

theorem populate_withComputed (values : ComputedField → Option String) :
    (o.withComputed values).populate key = o.populate key := by
  obtain ⟨_, _, _, _, properties⟩ := o
  cases properties with
  | none => rfl
  | some p =>
    obtain ⟨_, _, masters, pools, _, _, diagnostics⟩ := p
    have hpools (location : String) : (pools.mapIdx fun i pool => { pool with
        fqdn := values (.agents i) }).map (AgentPool.populate location)
          = pools.map (AgentPool.populate location) :=
      List.ext_getElem? fun i => by cases hpool : pools[i]? <;> simp [hpool, AgentPool.populate]
    simp only [withComputed, populate, Option.map_some, ServiceProperties.withComputed,
      ServiceProperties.populate, hpools]
    cases masters <;> rcases diagnostics with _ | ⟨_ | vm⟩ <;> rfl

theorem populate_withSecrets (secrets : SecretField → Option String) :
    (o.withSecrets secrets).populate key = (o.populate key).withSecrets secrets := by
  obtain ⟨_, _, _, _, properties⟩ := o
  cases properties <;> rfl

theorem isSome_computed_populate (field : ComputedField) :
    ((o.populate key).computed field).isSome = o.asks field := by
  obtain ⟨_, _, _, _, properties⟩ := o
  cases properties with
  | none => cases field <;> rfl
  | some p =>
    obtain ⟨_, _, masters, pools, _, _, diagnostics⟩ := p
    cases field with
    | masters =>
      rcases masters with _ | ⟨_, _ | dnsPrefix, _⟩ <;> rfl
    | agents i =>
      simp only [computed, asks, pool, populate, Option.map_some, Option.bind_some,
        ServiceProperties.populate, List.getElem?_map]
      rcases pools[i]? with _ | ⟨_, _, _, _ | dnsPrefix, _⟩ <;> rfl
    | storage =>
      rcases diagnostics with _ | ⟨_ | ⟨_ | _ | _, _⟩⟩ <;> rfl

end Service

end Object

/-! ### Both kinds -/

namespace Kind

/-- Where an object of a kind has a secret. -/
abbrev SecretField : Kind → Type
  | group => Object.Group.SecretField
  | service => Object.Service.SecretField

/-- Where an object of a kind has a computed field. -/
abbrev ComputedField : Kind → Type
  | group => Object.Group.ComputedField
  | service => Object.Service.ComputedField

/-- What an object is known by. -/
def envelope : (kind : Kind) → kind.Obj → Object.Envelope
  | group => Object.Group.envelope
  | service => Object.Service.envelope

/-- The object with the given secrets, wherever there is a place for one. -/
def withSecrets : (kind : Kind) → (kind.SecretField → Option String) → kind.Obj → kind.Obj
  | group => Object.Group.withSecrets
  | service => Object.Service.withSecrets

/-- The object with the given computed fields, wherever there is a place for one. -/
def withComputed : (kind : Kind) → (kind.ComputedField → Option String) → kind.Obj → kind.Obj
  | group => Object.Group.withComputed
  | service => Object.Service.withComputed

/-- What an object has in a computed field. -/
def computed : (kind : Kind) → kind.Obj → kind.ComputedField → Option String
  | group => Object.Group.computed
  | service => Object.Service.computed

/-- Whether an object has what a computed field is derived from. -/
def asks : (kind : Kind) → kind.Obj → kind.ComputedField → Bool
  | group => Object.Group.asks
  | service => Object.Service.asks

variable {kind : Kind} (key : NaturalKey) (o : kind.Obj)

theorem scrub_eq : Managed.scrub o = kind.withSecrets (fun _ => none) o := by
  cases kind with
  | group => exact Object.Group.scrub_eq o
  | service => exact Object.Service.scrub_eq o

theorem withSecrets_withSecrets (earlier secrets : kind.SecretField → Option String) :
    kind.withSecrets secrets (kind.withSecrets earlier o) = kind.withSecrets secrets o := by
  cases kind with
  | group => exact Object.Group.withSecrets_withSecrets o earlier secrets
  | service => exact Object.Service.withSecrets_withSecrets o earlier secrets

theorem exists_populate_eq : ∃ values, Managed.populate key o = kind.withComputed values o := by
  cases kind with
  | group => exact ⟨_, Object.Group.populate_eq key o⟩
  | service => exact ⟨_, Object.Service.populate_eq key o⟩

theorem populate_withComputed (values : kind.ComputedField → Option String) :
    Managed.populate key (kind.withComputed values o) = Managed.populate key o := by
  cases kind with
  | group => exact Object.Group.populate_withComputed key o values
  | service => exact Object.Service.populate_withComputed key o values

theorem populate_withSecrets (secrets : kind.SecretField → Option String) :
    Managed.populate key (kind.withSecrets secrets o)
      = kind.withSecrets secrets (Managed.populate key o) := by
  cases kind with
  | group => exact Object.Group.populate_withSecrets key o secrets
  | service => exact Object.Service.populate_withSecrets key o secrets

theorem computed_withSecrets (secrets : kind.SecretField → Option String) :
    kind.computed (kind.withSecrets secrets o) = kind.computed o := by
  cases kind <;> obtain ⟨_, _, _, _, properties⟩ := o <;> cases properties <;> rfl

theorem isSome_computed_populate (field : kind.ComputedField) :
    (kind.computed (Managed.populate key o) field).isSome = kind.asks o field := by
  cases kind with
  | group => exact Object.Group.isSome_computed_populate key o field
  | service => exact Object.Service.isSome_computed_populate key o field

@[simp] theorem envelope_withSecrets (secrets : kind.SecretField → Option String) :
    kind.envelope (kind.withSecrets secrets o) = kind.envelope o := by
  cases kind <;> obtain ⟨_, _, _, _, properties⟩ := o <;> cases properties <;> rfl

@[simp] theorem envelope_withComputed (values : kind.ComputedField → Option String) :
    kind.envelope (kind.withComputed values o) = kind.envelope o := by
  cases kind <;> obtain ⟨_, _, _, _, properties⟩ := o <;> cases properties <;> rfl

/-- What was assigned before, even for another key, makes no difference. -/
theorem populate_populate (earlier : NaturalKey) :
    Managed.populate key (Managed.populate earlier o) = Managed.populate key o := by
  obtain ⟨values, hvalues⟩ := exists_populate_eq earlier o
  rw [hvalues, populate_withComputed]

theorem scrub_scrub : Managed.scrub (Managed.scrub o) = Managed.scrub o := by
  rw [scrub_eq, scrub_eq, withSecrets_withSecrets]

/-- Nothing that is assigned depends on a secret, and none is assigned. -/
theorem populate_scrub :
    Managed.populate key (Managed.scrub o) = Managed.scrub (Managed.populate key o) := by
  rw [scrub_eq, scrub_eq, populate_withSecrets]

end Kind

/-- Assigning the computed fields of an object and removing its secrets do not get into each other's
way. Either can be done again, under any key before, without a difference, and they can be done in
either order; neither changes what the object is known by. To remove the secrets is to replace the
secrets by none, and to assign the computed fields is to replace those alone, by values that depend
neither on earlier ones nor on a secret, and that are there exactly for the fields whose ground is
there. -/
theorem projections_independent (kind : Kind) (key : NaturalKey) (o : kind.Obj) :
    (∀ earlier, Managed.populate key (Managed.populate earlier o) = Managed.populate key o)
    ∧ Managed.scrub (Managed.scrub o) = Managed.scrub o
    ∧ Managed.populate key (Managed.scrub o) = Managed.scrub (Managed.populate key o)
    ∧ kind.envelope (Managed.populate key o) = kind.envelope o
    ∧ kind.envelope (Managed.scrub o) = kind.envelope o
    ∧ Managed.scrub o = kind.withSecrets (fun _ => none) o
    ∧ (∃ values, Managed.populate key o = kind.withComputed values o)
    ∧ (∀ secrets values,
      Managed.populate key (kind.withSecrets secrets (kind.withComputed values o))
        = kind.withSecrets secrets (Managed.populate key o)
      ∧ kind.computed (Managed.populate key (kind.withSecrets secrets (kind.withComputed values o)))
        = kind.computed (Managed.populate key o))
    ∧ ∀ field, (kind.computed (Managed.populate key o) field).isSome = kind.asks o field := by
  obtain ⟨assigned, hassigned⟩ := Kind.exists_populate_eq key o
  have hindependent (secrets : kind.SecretField → Option String)
      (values : kind.ComputedField → Option String) :
      Managed.populate key (kind.withSecrets secrets (kind.withComputed values o))
        = kind.withSecrets secrets (Managed.populate key o) := by
    rw [Kind.populate_withSecrets, Kind.populate_withComputed]
  refine ⟨Kind.populate_populate key o, Kind.scrub_scrub o, Kind.populate_scrub key o, ?_, ?_,
    Kind.scrub_eq o, ⟨assigned, hassigned⟩, fun secrets values => ⟨hindependent secrets values, ?_⟩,
    Kind.isSome_computed_populate key o⟩
  · rw [hassigned, Kind.envelope_withComputed]
  · rw [Kind.scrub_eq, Kind.envelope_withSecrets]
  · rw [hindependent, Kind.computed_withSecrets]

end Provisioning
