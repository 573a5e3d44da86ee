import Provisioning.Object.Managed
import Provisioning.Proofs.Binding.Group.FixedPoint
import Provisioning.Proofs.Json.Values
import Provisioning.Proofs.State

/-!
Objects are read from their own JSON. A part that is not there is left out, or is null, and what is
read has no such part either; lists are given even where they are empty. Two things have no JSON
form of their own: a number that is not finite is written as null, and a state is written as its
label. So every object is read back, as the object that its JSON has in mind (`Group.reads`,
`Service.reads`).
-/

namespace Provisioning

open Json

/-- A state is read as what its label stands for. -/
theorem State.reads (s : State) : Reads State.decode s.toJson (State.ofLabel s.label) := by
  intro source hsource
  rw [State.decode, reads_string s.label source hsource]
  rfl

@[simp] theorem State.legible (s : State) : Legible s.toJson := trivial

namespace Object

/-! ### Groups -/

theorem ContainerPort.reads (o : ContainerPort) : Reads ContainerPort.decode o.toJson o := by
  refine reads_record (by simp) (by decide) fun p hp => ?_
  rw [hp.orNull ofWord16 o.port (by simp) (fun _ => nofun) fun a _ => reads_word16 a]
  rfl

@[simp] theorem ContainerPort.legible (o : ContainerPort) : Legible o.toJson :=
  legible_record (by simp [legible_orNull])

theorem Variable.reads (o : Variable) : Reads Variable.decode o.toJson o := by
  refine reads_record (by simp) (by decide) fun p hp => ?_
  rw [hp.orNull_string o.name (by simp),
    hp.orNull_string o.value (by simp)]
  rfl

@[simp] theorem Variable.legible (o : Variable) : Legible o.toJson :=
  legible_record (by simp [legible_orNull])

/-- Whether every number of a request has a property. -/
def Requests.Each (P : Binary64 → Prop) (o : Requests) : Prop :=
  (∀ x ∈ o.memory, P x) ∧ ∀ x ∈ o.cpu, P x

/-- A request with those of its numbers that are finite. -/
def Requests.asWritten (o : Requests) : Requests where
  memory := o.memory.filter Binary64.isFinite
  cpu := o.cpu.filter Binary64.isFinite

theorem Requests.reads (o : Requests) : Reads Requests.decode o.toJson o.asWritten := by
  refine reads_record (by simp) (by decide) fun p hp => ?_
  rw [hp.orNull_number o.memory (by simp),
    hp.orNull_number o.cpu (by simp)]
  rfl

theorem Requests.legible {o : Requests} (h : o.Each Json.Exact) : Legible o.toJson := by
  have hmemory : Legible (orNull ofFloat o.memory) := legible_orNull fun x hx => (h.1 x hx).legible
  have hcpu : Legible (orNull ofFloat o.cpu) := legible_orNull fun x hx => (h.2 x hx).legible
  exact legible_record (by simp [hmemory, hcpu])

/-- A requirement with those of its numbers that are finite. -/
def Requirements.asWritten (o : Requirements) : Requirements where
  requests := o.requests.map Requests.asWritten

theorem Requirements.reads (o : Requirements) : Reads Requirements.decode o.toJson o.asWritten := by
  refine reads_record (by simp) (by decide) fun p hp => ?_
  rw [hp.orNull_map Requests.toJson Requests.asWritten o.requests (by simp) (fun _ => nofun)
      fun a _ => a.reads]
  rfl

theorem Requirements.legible {o : Requirements} (h : ∀ r ∈ o.requests, r.Each Json.Exact) :
    Legible o.toJson :=
  legible_record (by simpa using legible_orNull fun r hr => Requests.legible (h r hr))

theorem Mount.reads (o : Mount) : Reads Mount.decode o.toJson o := by
  refine reads_record (by simp) (by decide) fun p hp => ?_
  rw [hp.orNull_string o.name (by simp),
    hp.orNull_string o.path (by simp),
    hp.nullable .bool o.readOnly (by simp) (fun _ => nofun) fun a _ => reads_boolean a]
  rfl

@[simp] theorem Mount.legible (o : Mount) : Legible o.toJson :=
  legible_record (by simp [legible_orNull, legibleMember_ifSome])

/-- The properties of a container with those of its numbers that are finite. -/
def ContainerProperties.asWritten (o : ContainerProperties) : ContainerProperties :=
  { o with requirements := o.requirements.map Requirements.asWritten }

theorem ContainerProperties.reads (o : ContainerProperties) :
    Reads ContainerProperties.decode o.toJson o.asWritten := by
  refine reads_record (by simp) (by decide) fun p hp => ?_
  rw [hp.orNull_string o.image (by simp),
    hp.nullable (ofList .str) o.command (by simp) (fun _ => nofun)
      fun items _ => reads_list fun a _ => reads_string a,
    hp.nullable (ofList ContainerPort.toJson) o.ports (by simp) (fun _ => nofun)
      fun items _ => reads_list fun a _ => a.reads,
    hp.nullable (ofList Variable.toJson) o.environment (by simp) (fun _ => nofun)
      fun items _ => reads_list fun a _ => a.reads,
    hp.orNull_map Requirements.toJson Requirements.asWritten o.requirements (by simp)
      (fun _ => nofun) fun a _ => a.reads,
    hp.nullable (ofList Mount.toJson) o.mounts (by simp) (fun _ => nofun)
      fun items _ => reads_list fun a _ => a.reads]
  rfl

theorem ContainerProperties.legible {o : ContainerProperties}
    (h : ∀ r ∈ o.requirements.bind (·.requests), r.Each Json.Exact) : Legible o.toJson := by
  have hrequirements : Legible (orNull Requirements.toJson o.requirements) :=
    legible_orNull fun q hq => Requirements.legible fun r hr =>
      h r (Option.bind_eq_some_iff.mpr ⟨q, hq, hr⟩)
  exact legible_record (by
    simp [legible_orNull, legibleMember_ifSome, legible_ofList, hrequirements])

/-- A container with those of its numbers that are finite. -/
def Container.asWritten (o : Container) : Container :=
  { o with properties := o.properties.map ContainerProperties.asWritten }

theorem Container.reads (o : Container) : Reads Container.decode o.toJson o.asWritten := by
  refine reads_record (by simp) (by decide) fun p hp => ?_
  rw [hp.orNull_string o.name (by simp),
    hp.orNull_map ContainerProperties.toJson ContainerProperties.asWritten o.properties (by simp)
      (fun _ => nofun) fun a _ => a.reads]
  rfl

theorem Container.legible {o : Container} (h : ∀ r ∈ o.requests, r.Each Json.Exact) :
    Legible o.toJson := by
  have hproperties : Legible (orNull ContainerProperties.toJson o.properties) :=
    legible_orNull fun q hq => ContainerProperties.legible fun r hr => h r (by
      rw [Container.requests, hq]
      exact hr)
  exact legible_record (by simp [legible_orNull, hproperties])

theorem Port.reads (o : Port) : Reads Port.decode o.toJson o := by
  refine reads_record (by simp) (by decide) fun p hp => ?_
  rw [hp.nullable_string o.protocol (by simp),
    hp.orNull ofWord16 o.port (by simp) (fun _ => nofun) fun a _ => reads_word16 a]
  rfl

@[simp] theorem Port.legible (o : Port) : Legible o.toJson :=
  legible_record (by simp [legible_orNull, legibleMember_ifSome])

theorem Address.reads (o : Address) : Reads Address.decode o.toJson o := by
  have hports : Reads (Decode.list Port.decode) (ofList Port.toJson o.ports)
      o.ports := reads_list fun a _ => a.reads
  refine reads_record (by simp) (by decide) fun p hp => ?_
  rw [hp.withDefault (by simp) hports,
    hp.orNull_string o.type (by simp),
    hp.nullable_string o.ip (by simp),
    hp.nullable_string o.label (by simp),
    hp.nullable_string o.fqdn (by simp)]
  rfl

@[simp] theorem Address.legible (o : Address) : Legible o.toJson :=
  legible_record (by simp [legible_orNull, legibleMember_ifSome, legible_ofList])

theorem FileShare.reads (o : FileShare) : Reads FileShare.decode o.toJson o := by
  refine reads_record (by simp) (by decide) fun p hp => ?_
  rw [hp.orNull_string o.share (by simp),
    hp.nullable .bool o.readOnly (by simp) (fun _ => nofun) fun a _ => reads_boolean a,
    hp.orNull_string o.account (by simp),
    hp.nullable_string o.key (by simp)]
  rfl

@[simp] theorem FileShare.legible (o : FileShare) : Legible o.toJson :=
  legible_record (by simp [legible_orNull, legibleMember_ifSome])

theorem Volume.reads (o : Volume) : Reads Volume.decode o.toJson o := by
  refine reads_record (by simp) (by decide) fun p hp => ?_
  rw [hp.orNull_string o.name (by simp),
    hp.nullable FileShare.toJson o.file (by simp) (fun _ => nofun) fun a _ => a.reads]
  rfl

@[simp] theorem Volume.legible (o : Volume) : Legible o.toJson :=
  legible_record (by simp [legible_orNull, legibleMember_ifSome])

theorem Credential.reads (o : Credential) : Reads Credential.decode o.toJson o := by
  refine reads_record (by simp) (by decide) fun p hp => ?_
  rw [hp.orNull_string o.server (by simp),
    hp.orNull_string o.username (by simp),
    hp.nullable_string o.password (by simp)]
  rfl

@[simp] theorem Credential.legible (o : Credential) : Legible o.toJson :=
  legible_record (by simp [legible_orNull, legibleMember_ifSome])

/-- The properties of a group with those of its numbers that are finite, and the state that its
label stands for. -/
def GroupProperties.asWritten (o : GroupProperties) : GroupProperties :=
  { o with
    state := o.state.map fun s => State.ofLabel s.label
    containers := o.containers.map Container.asWritten }

theorem GroupProperties.reads (o : GroupProperties) :
    Reads GroupProperties.decode o.toJson o.asWritten := by
  have hcontainers : Reads (Decode.list Container.decode) (ofList Container.toJson o.containers)
      (o.containers.map Container.asWritten) := reads_list_map fun a _ => a.reads
  refine reads_record (by simp) (by decide) fun p hp => ?_
  rw [hp.nullable_map State.toJson (fun s => State.ofLabel s.label) o.state (by simp)
      (fun _ => nofun) fun a _ => a.reads,
    hp.withDefault (by simp) hcontainers,
    hp.nullable (ofList Credential.toJson) o.credentials (by simp) (fun _ => nofun)
      fun items _ => reads_list fun a _ => a.reads,
    hp.nullable_string o.restartPolicy (by simp),
    hp.nullable Address.toJson o.address (by simp) (fun _ => nofun) fun a _ => a.reads,
    hp.nullable_string o.osType (by simp),
    hp.nullable (ofList Volume.toJson) o.volumes (by simp) (fun _ => nofun)
      fun items _ => reads_list fun a _ => a.reads]
  rfl

theorem GroupProperties.legible {o : GroupProperties}
    (h : ∀ c ∈ o.containers, ∀ r ∈ c.requests, r.Each Json.Exact) : Legible o.toJson := by
  have hcontainers : Legible (ofList Container.toJson o.containers) :=
    legible_ofList fun c hc => Container.legible (h c hc)
  exact legible_record (by simp [legibleMember_ifSome, legible_ofList, hcontainers])

/-- A group as its JSON form has it: with those of its numbers that are finite, and the state that
its label stands for. -/
def Group.asWritten (o : Group) : Group :=
  { o with properties := o.properties.map GroupProperties.asWritten }

/-- A group is read back from its JSON, but for numbers and a state that JSON does not have. -/
theorem Group.reads (o : Group) : Reads Group.decode o.toJson o.asWritten := by
  refine reads_record (by simp) (by decide) fun p hp => ?_
  rw [hp.nullable_string o.id (by simp),
    hp.nullable_string o.name (by simp),
    hp.nullable_string o.location (by simp),
    hp.nullable ofDictionary o.tags (by simp) (fun _ => nofun) fun a _ => reads_dictionary a,
    hp.nullable_map GroupProperties.toJson GroupProperties.asWritten o.properties (by simp)
      (fun _ => nofun) fun a _ => a.reads]
  rfl

/-- Whether every number of a group has a property. -/
def Group.Each (P : Binary64 → Prop) (o : Group) : Prop :=
  ∀ c ∈ o.containers, ∀ r ∈ c.requests, r.Each P

theorem Group.legible {o : Group} (h : o.Each Json.Exact) : Legible o.toJson := by
  have hproperties : LegibleMember (ifSome "properties" GroupProperties.toJson o.properties) :=
    legibleMember_ifSome fun q hq => GroupProperties.legible fun c hc => h c (by
      rw [Group.containers, hq]
      exact hc)
  exact legible_record (by simp [legibleMember_ifSome, legible_ofDictionary, hproperties])

/-! ### Services -/

theorem Orchestrator.reads (o : Orchestrator) : Reads Orchestrator.decode o.toJson o := by
  refine reads_record (by simp) (by decide) fun p hp => ?_
  rw [hp.orNull_string o.type (by simp)]
  rfl

@[simp] theorem Orchestrator.legible (o : Orchestrator) : Legible o.toJson :=
  legible_record (by simp [legible_orNull])

theorem Masters.reads (o : Masters) : Reads Masters.decode o.toJson o := by
  refine reads_record (by simp) (by decide) fun p hp => ?_
  rw [hp.orNull ofWord32 o.count (by simp) (fun _ => nofun) fun a _ => reads_word32 a,
    hp.orNull_string o.dnsPrefix (by simp),
    hp.nullable_string o.fqdn (by simp)]
  rfl

@[simp] theorem Masters.legible (o : Masters) : Legible o.toJson :=
  legible_record (by simp [legible_orNull, legibleMember_ifSome])

theorem AgentPool.reads (o : AgentPool) : Reads AgentPool.decode o.toJson o := by
  refine reads_record (by simp) (by decide) fun p hp => ?_
  rw [hp.orNull_string o.name (by simp),
    hp.orNull ofWord32 o.count (by simp) (fun _ => nofun) fun a _ => reads_word32 a,
    hp.orNull_string o.vmSize (by simp),
    hp.orNull_string o.dnsPrefix (by simp),
    hp.nullable_string o.fqdn (by simp)]
  rfl

@[simp] theorem AgentPool.legible (o : AgentPool) : Legible o.toJson :=
  legible_record (by simp [legible_orNull, legibleMember_ifSome])

theorem PublicKey.reads (o : PublicKey) : Reads PublicKey.decode o.toJson o := by
  refine reads_record (by simp) (by decide) fun p hp => ?_
  rw [hp.orNull_string o.data (by simp)]
  rfl

@[simp] theorem PublicKey.legible (o : PublicKey) : Legible o.toJson :=
  legible_record (by simp [legible_orNull])

theorem Ssh.reads (o : Ssh) : Reads Ssh.decode o.toJson o := by
  have hkeys : Reads (Decode.list PublicKey.decode) (ofList PublicKey.toJson o.keys)
      o.keys := reads_list fun a _ => a.reads
  refine reads_record (by simp) (by decide) fun p hp => ?_
  rw [hp.withDefault (by simp) hkeys]
  rfl

@[simp] theorem Ssh.legible (o : Ssh) : Legible o.toJson :=
  legible_record (by simp [legible_ofList])

theorem Linux.reads (o : Linux) : Reads Linux.decode o.toJson o := by
  refine reads_record (by simp) (by decide) fun p hp => ?_
  rw [hp.orNull_string o.admin (by simp),
    hp.orNull Ssh.toJson o.ssh (by simp) (fun _ => nofun) fun a _ => a.reads]
  rfl

@[simp] theorem Linux.legible (o : Linux) : Legible o.toJson :=
  legible_record (by simp [legible_orNull])

theorem Principal.reads (o : Principal) : Reads Principal.decode o.toJson o := by
  refine reads_record (by simp) (by decide) fun p hp => ?_
  rw [hp.orNull_string o.clientId (by simp),
    hp.nullable_string o.secret (by simp)]
  rfl

@[simp] theorem Principal.legible (o : Principal) : Legible o.toJson :=
  legible_record (by simp [legible_orNull, legibleMember_ifSome])

theorem VmDiagnostics.reads (o : VmDiagnostics) : Reads VmDiagnostics.decode o.toJson o := by
  refine reads_record (by simp) (by decide) fun p hp => ?_
  rw [hp.orNull .bool o.enabled (by simp) (fun _ => nofun) fun a _ => reads_boolean a,
    hp.nullable_string o.storageUri (by simp)]
  rfl

@[simp] theorem VmDiagnostics.legible (o : VmDiagnostics) : Legible o.toJson :=
  legible_record (by simp [legible_orNull, legibleMember_ifSome])

theorem Diagnostics.reads (o : Diagnostics) : Reads Diagnostics.decode o.toJson o := by
  refine reads_record (by simp) (by decide) fun p hp => ?_
  rw [hp.orNull VmDiagnostics.toJson o.vm (by simp) (fun _ => nofun) fun a _ => a.reads]
  rfl

@[simp] theorem Diagnostics.legible (o : Diagnostics) : Legible o.toJson :=
  legible_record (by simp [legible_orNull])

/-- The properties of a service with the state that its label stands for. -/
def ServiceProperties.asWritten (o : ServiceProperties) : ServiceProperties :=
  { o with state := o.state.map fun s => State.ofLabel s.label }

theorem ServiceProperties.reads (o : ServiceProperties) :
    Reads ServiceProperties.decode o.toJson o.asWritten := by
  have hpools : Reads (Decode.list AgentPool.decode) (ofList AgentPool.toJson o.pools)
      o.pools := reads_list fun a _ => a.reads
  refine reads_record (by simp) (by decide) fun p hp => ?_
  rw [hp.nullable_map State.toJson (fun s => State.ofLabel s.label) o.state (by simp)
      (fun _ => nofun) fun a _ => a.reads,
    hp.orNull Orchestrator.toJson o.orchestrator (by simp) (fun _ => nofun) fun a _ => a.reads,
    hp.orNull Masters.toJson o.masters (by simp) (fun _ => nofun) fun a _ => a.reads,
    hp.withDefault (by simp) hpools,
    hp.orNull Linux.toJson o.linux (by simp) (fun _ => nofun) fun a _ => a.reads,
    hp.nullable Principal.toJson o.principal (by simp) (fun _ => nofun) fun a _ => a.reads,
    hp.nullable Diagnostics.toJson o.diagnostics (by simp) (fun _ => nofun) fun a _ => a.reads]
  rfl

@[simp] theorem ServiceProperties.legible (o : ServiceProperties) : Legible o.toJson :=
  legible_record (by simp [legible_orNull, legibleMember_ifSome, legible_ofList])

/-- A service as its JSON form has it: with the state that its label stands for. -/
def Service.asWritten (o : Service) : Service :=
  { o with properties := o.properties.map ServiceProperties.asWritten }

/-- A service is read back from its JSON, but for a state that JSON does not have. -/
theorem Service.reads (o : Service) : Reads Service.decode o.toJson o.asWritten := by
  refine reads_record (by simp) (by decide) fun p hp => ?_
  rw [hp.nullable_string o.id (by simp),
    hp.nullable_string o.name (by simp),
    hp.nullable_string o.location (by simp),
    hp.nullable ofDictionary o.tags (by simp) (fun _ => nofun) fun a _ => reads_dictionary a,
    hp.nullable_map ServiceProperties.toJson ServiceProperties.asWritten o.properties (by simp)
      (fun _ => nofun) fun a _ => a.reads]
  rfl

theorem Service.legible (o : Service) : Legible o.toJson :=
  legible_record (by simp [legibleMember_ifSome, legible_ofDictionary])

end Object

end Provisioning
