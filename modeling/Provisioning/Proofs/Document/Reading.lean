import Provisioning.Command.Content
import Provisioning.Proofs.Json.Values

/-!
Documents are read from their own JSON. Every field is written under its name, or left out where it
has the value that it has when it is left out, so a document comes back whole (`Group.reads`,
`Service.reads`), as long as its numbers are finite. Where each of its numbers is what its own text
is read as, a document comes back from its text, too, and so does a record of it
(`Record.ofText_text`).
-/

namespace Provisioning.Document

open Json

/-! ### Groups -/

theorem Volume.reads (d : Volume) : Reads Volume.decode d.toJson d := by
  refine reads_record (by simp) (by decide) fun p hp => ?_
  rw [hp.required (by simp) (reads_string d.name),
    hp.required (by simp) (reads_string d.mountPath),
    hp.withDefault (by simp) (reads_boolean d.readOnly),
    hp.required (by simp) (reads_string d.share),
    hp.required (by simp) (reads_string d.account),
    hp.optional_string d.key (by simp)]
  rfl

@[simp] theorem Volume.legible (d : Volume) : Legible d.toJson :=
  legible_record (by simp [legibleMember_ifSome])

theorem Credential.reads (d : Credential) : Reads Credential.decode d.toJson d := by
  refine reads_record (by simp) (by decide) fun p hp => ?_
  rw [hp.required (by simp) (reads_string d.server),
    hp.required (by simp) (reads_string d.username),
    hp.optional_string d.password (by simp)]
  rfl

@[simp] theorem Credential.legible (d : Credential) : Legible d.toJson :=
  legible_record (by simp [legibleMember_ifSome])

/-- Whether the numbers of a container are finite. -/
def Container.Finite (d : Container) : Prop := d.cpu.isFinite = true ∧ d.memory.isFinite = true

theorem Container.reads {d : Container} (h : d.Finite) : Reads Container.decode d.toJson d := by
  refine reads_record (by simp) (by decide) fun p hp => ?_
  rw [hp.required (by simp) (reads_string d.name),
    hp.required (by simp) (reads_string d.image),
    hp.required (by simp) (reads_number h.1),
    hp.required (by simp) (reads_number h.2),
    hp.optional ofWord32 d.port (by simp) (fun _ => nofun) fun a _ => reads_word32 a,
    hp.optional Choice.toJson d.protocol (by simp) (fun _ => nofun) fun a _ => reads_choice a,
    hp.dictionary d.environment (by simp),
    hp.optional_string d.command (by simp),
    hp.list Volume.toJson d.volumes (by simp) fun v _ => v.reads]
  rfl

/-- Whether each number of a container is what its own text is read as. -/
def Container.Exact (d : Container) : Prop := Json.Exact d.cpu ∧ Json.Exact d.memory

theorem Container.Exact.finite {d : Container} (h : d.Exact) : d.Finite :=
  ⟨h.1.isFinite, h.2.isFinite⟩

theorem Container.legible {d : Container} (h : d.Exact) : Legible d.toJson :=
  legible_record (by simp [legibleMember_ifSome, legibleMember_ifAny, h.1.legible, h.2.legible])

theorem Group.reads {d : Group} (h : ∀ c ∈ d.containers, c.Finite) :
    Reads Group.decode d.toJson d := by
  have hcontainers : Reads (Decode.list Container.decode) (ofList Container.toJson d.containers)
      d.containers := reads_list fun c hc => Container.reads (h c hc)
  refine reads_record (by simp) (by decide) fun p hp => ?_
  rw [hp.required (by simp) (reads_string d.name),
    hp.required (by simp) (reads_string d.location),
    hp.required (by simp) (reads_string d.resourceGroup),
    hp.withDefault (by simp) (reads_choice d.addressType),
    hp.required (by simp) (reads_choice d.osType),
    hp.withDefault (by simp) (reads_choice d.restartPolicy),
    hp.optional_string d.label (by simp),
    hp.optional_string d.ip (by simp),
    hp.optional_string d.fqdn (by simp),
    hp.dictionary d.tags (by simp),
    hp.list Credential.toJson d.credentials (by simp) fun c _ => c.reads,
    hp.required (by simp) hcontainers]
  rfl

theorem Group.legible {d : Group} (h : ∀ c ∈ d.containers, c.Exact) : Legible d.toJson := by
  have hcontainers : Legible (ofList Container.toJson d.containers) :=
    legible_ofList fun c hc => Container.legible (h c hc)
  exact legible_record (by simp [legibleMember_ifSome, legibleMember_ifAny, hcontainers])

/-! ### Services -/

theorem Masters.reads (d : Masters) : Reads Masters.decode d.toJson d := by
  refine reads_record (by simp) (by decide) fun p hp => ?_
  rw [hp.withDefault (by simp) (reads_word32 d.count),
    hp.required (by simp) (reads_string d.dnsPrefix),
    hp.optional_string d.fqdn (by simp)]
  rfl

@[simp] theorem Masters.legible (d : Masters) : Legible d.toJson :=
  legible_record (by simp [legibleMember_ifSome])

theorem SshKey.reads (d : SshKey) : Reads SshKey.decode d.toJson d := by
  refine reads_record (by simp) (by decide) fun p hp => ?_
  rw [hp.required (by simp) (reads_string d.data)]
  rfl

@[simp] theorem SshKey.legible (d : SshKey) : Legible d.toJson :=
  legible_record (by simp)

theorem Linux.reads (d : Linux) : Reads Linux.decode d.toJson d := by
  refine reads_record (by simp) (by decide) fun p hp => ?_
  rw [hp.required (by simp) (reads_string d.admin),
    hp.required (by simp) d.sshKey.reads]
  rfl

@[simp] theorem Linux.legible (d : Linux) : Legible d.toJson :=
  legible_record (by simp)

theorem AgentPool.reads (d : AgentPool) : Reads AgentPool.decode d.toJson d := by
  refine reads_record (by simp) (by decide) fun p hp => ?_
  rw [hp.required (by simp) (reads_string d.name),
    hp.withDefault (by simp) (reads_word32 d.count),
    hp.required (by simp) (reads_string d.dnsPrefix),
    hp.optional_string d.fqdn (by simp),
    hp.required (by simp) (reads_string d.vmSize)]
  rfl

@[simp] theorem AgentPool.legible (d : AgentPool) : Legible d.toJson :=
  legible_record (by simp [legibleMember_ifSome])

theorem Principal.reads (d : Principal) : Reads Principal.decode d.toJson d := by
  refine reads_record (by simp) (by decide) fun p hp => ?_
  rw [hp.required (by simp) (reads_string d.clientId),
    hp.optional_string d.secret (by simp)]
  rfl

@[simp] theorem Principal.legible (d : Principal) : Legible d.toJson :=
  legible_record (by simp [legibleMember_ifSome])

theorem Diagnostics.reads (d : Diagnostics) : Reads Diagnostics.decode d.toJson d := by
  refine reads_record (by simp) (by decide) fun p hp => ?_
  rw [hp.withDefault (by simp) (reads_boolean d.enabled),
    hp.optional_string d.storageUri (by simp)]
  rfl

@[simp] theorem Diagnostics.legible (d : Diagnostics) : Legible d.toJson :=
  legible_record (by simp [legibleMember_ifSome])

theorem Service.reads (d : Service) : Reads Service.decode d.toJson d := by
  refine reads_record (by simp) (by decide) fun p hp => ?_
  rw [hp.required (by simp) (reads_string d.name),
    hp.required (by simp) (reads_string d.location),
    hp.required (by simp) (reads_string d.resourceGroup),
    hp.required (by simp) (reads_choice d.platform),
    hp.required (by simp) d.masters.reads,
    hp.required (by simp) d.linux.reads,
    hp.required (by simp) d.agents.reads,
    hp.optional Principal.toJson d.principal (by simp) (fun _ => nofun) fun a _ => a.reads,
    hp.withDefault (by simp) d.diagnostics.reads,
    hp.dictionary d.tags (by simp)]
  rfl

theorem Service.legible (d : Service) : Legible d.toJson :=
  legible_record (by simp [legibleMember_ifSome])

end Provisioning.Document

namespace Provisioning.Command.Record

open Json

variable {Doc : Type} [Document Doc]

/-- A record is read if its document is. -/
theorem reads {r : Record Doc}
    (h : Reads Document.decode (Document.toJson r.configuration) r.configuration) :
    Reads decode r.toJson r := by
  have hjson : r.toJson = record [always "id" (.str r.id),
      always "configuration" (Document.toJson r.configuration)] := rfl
  rw [hjson]
  refine reads_record (by simp) (by decide) fun p hp => ?_
  rw [hp.required (by simp) (reads_string r.id), hp.required (by simp) h]
  rfl

/-- A record comes back from its text, if its document is read and its numbers can be read back. -/
theorem ofText_text {r : Record Doc}
    (h : Reads Document.decode (Document.toJson r.configuration) r.configuration)
    (hlegible : Legible (Document.toJson r.configuration)) : ofText r.text = .ok r :=
  readAs_pretty ⟨trivial, hlegible, trivial⟩ (reads h)

end Provisioning.Command.Record
