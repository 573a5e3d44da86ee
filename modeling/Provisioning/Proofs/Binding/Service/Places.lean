import Provisioning.Proofs.Binding.Places
import Provisioning.Proofs.Binding.Service.Diff

/-!
The places at which services differ: those that a service is replaced for (`Service.ReplacedAt`) and
those that are changed in place (`Service.ChangedAt`), one rule for each. `diff` lists exactly these
(`lists_replace`, `lists_update`).
-/

namespace Provisioning.Document

/-! ### Places -/

/-- Where a service is not as another one wants it and cannot become it. -/
inductive Service.ReplacedAt (c d : Service) : String → Prop where
  | name (h : c.name ≠ d.name) : ReplacedAt c d "name"
  | location (h : normalizeLocation c.location ≠ normalizeLocation d.location) :
      ReplacedAt c d "location"
  | resourceGroup (h : c.resourceGroup ≠ d.resourceGroup) : ReplacedAt c d "resource_group_name"
  | platform (h : c.platform ≠ d.platform) : ReplacedAt c d "orchestration_platform"
  | agentsName (h : c.agents.name ≠ d.agents.name) : ReplacedAt c d "agent_pool_profile.name"
  | agentsPrefix (h : c.agents.dnsPrefix ≠ d.agents.dnsPrefix) :
      ReplacedAt c d "agent_pool_profile.dns_prefix"

/-- Where the principal of a service is not as another one wants it: as a whole if only one of them
has a principal. -/
inductive Principal.DiffersAt : Option Principal → Option Principal → String → Prop where
  | gained {q : Principal} : DiffersAt none (some q) "service_principal"
  | lost {p : Principal} : DiffersAt (some p) none "service_principal"
  | clientId {p q : Principal} (h : p.clientId ≠ q.clientId) :
      DiffersAt (some p) (some q) "service_principal.client_id"
  | secret {p q : Principal} (known : p.secret ≠ none) (h : p.secret ≠ q.secret) :
      DiffersAt (some p) (some q) "service_principal.client_secret"

/-- Where a service is not as another one wants it but can become it. -/
inductive Service.ChangedAt (c d : Service) : String → Prop where
  | mastersCount (h : c.masters.count ≠ d.masters.count) : ChangedAt c d "master_profile.count"
  | mastersPrefix (h : c.masters.dnsPrefix ≠ d.masters.dnsPrefix) :
      ChangedAt c d "master_profile.dns_prefix"
  | admin (h : c.linux.admin ≠ d.linux.admin) : ChangedAt c d "linux_profile.admin_username"
  | sshKey (h : c.linux.sshKey.data ≠ d.linux.sshKey.data) :
      ChangedAt c d "linux_profile.ssh_key.key_data"
  | agentsCount (h : c.agents.count ≠ d.agents.count) : ChangedAt c d "agent_pool_profile.count"
  | vmSize (h : Text.lower c.agents.vmSize ≠ Text.lower d.agents.vmSize) :
      ChangedAt c d "agent_pool_profile.vm_size"
  | principal {place : String} (h : Principal.DiffersAt c.principal d.principal place) :
      ChangedAt c d place
  | diagnostics (h : c.diagnostics.enabled ≠ d.diagnostics.enabled) :
      ChangedAt c d "diagnostics_profile.enabled"
  | tags (h : c.tags ≠ d.tags) : ChangedAt c d "tags"

namespace Service

/-! ### Replacements -/

/-- The fields that a service is replaced for, each with whether it is as another one wants it. -/
def replaceFields (c d : Service) : List (String × Bool) := [
  ("name", c.name = d.name),
  ("location", normalizeLocation c.location = normalizeLocation d.location),
  ("resource_group_name", c.resourceGroup = d.resourceGroup),
  ("orchestration_platform", c.platform = d.platform),
  ("agent_pool_profile.name", c.agents.name = d.agents.name),
  ("agent_pool_profile.dns_prefix", c.agents.dnsPrefix = d.agents.dnsPrefix)]

/-- A service is replaced for exactly the places at which it cannot be changed. -/
theorem lists_replace (c d : Service) : Diff.Lists "" (diff c d).replace (c.ReplacedAt d) := by
  have hpaths : (diff c d).replace = Diff.disagreeing "" (replaceFields c d) := by
    simp [diff, Diff.disagreeing, replaceFields, Diff.changed]
  rw [hpaths]
  refine (Diff.lists_fields (by simp [replaceFields])).congr fun p => ?_
  have hfields : (p, false) ∈ replaceFields c d ↔ (p = "name" ∧ c.name ≠ d.name)
      ∨ (p = "location" ∧ normalizeLocation c.location ≠ normalizeLocation d.location)
      ∨ (p = "resource_group_name" ∧ c.resourceGroup ≠ d.resourceGroup)
      ∨ (p = "orchestration_platform" ∧ c.platform ≠ d.platform)
      ∨ (p = "agent_pool_profile.name" ∧ c.agents.name ≠ d.agents.name)
      ∨ (p = "agent_pool_profile.dns_prefix" ∧ c.agents.dnsPrefix ≠ d.agents.dnsPrefix) := by
    simp [replaceFields]
  rw [hfields]
  constructor
  · rintro (⟨rfl, h⟩ | ⟨rfl, h⟩ | ⟨rfl, h⟩ | ⟨rfl, h⟩ | ⟨rfl, h⟩ | ⟨rfl, h⟩)
    · exact .name h
    · exact .location h
    · exact .resourceGroup h
    · exact .platform h
    · exact .agentsName h
    · exact .agentsPrefix h
  · rintro (h | h | h | h | h | h) <;> simp [*]

/-! ### Changes in place -/

/-- What is compared of two principals, each with whether it agrees. -/
def principalFields : (current desired : Option Principal) → List (String × Bool)
  | some p, some q => [
      ("service_principal.client_id", p.clientId = q.clientId),
      ("service_principal.client_secret", p.secret.isNone || p.secret = q.secret)]
  | none, none => []
  | _, _ => [("service_principal", false)]

/-- The fields of a service that can be changed in place, each with whether it is as another one
wants it. -/
def updateFields (c d : Service) : List (String × Bool) := [
  ("master_profile.count", decide (c.masters.count = d.masters.count)),
  ("master_profile.dns_prefix", decide (c.masters.dnsPrefix = d.masters.dnsPrefix)),
  ("linux_profile.admin_username", decide (c.linux.admin = d.linux.admin)),
  ("linux_profile.ssh_key.key_data", decide (c.linux.sshKey.data = d.linux.sshKey.data)),
  ("agent_pool_profile.count", decide (c.agents.count = d.agents.count)),
  ("agent_pool_profile.vm_size",
    decide (Text.lower c.agents.vmSize = Text.lower d.agents.vmSize))]
  ++ principalFields c.principal d.principal
  ++ [("diagnostics_profile.enabled", decide (c.diagnostics.enabled = d.diagnostics.enabled)),
    ("tags", decide (c.tags = d.tags))]

theorem diffPrincipal_eq_disagreeing (c d : Option Principal) :
    diffPrincipal c d = Diff.disagreeing "" (principalFields c d) := by
  cases c <;> cases d <;>
    simp [diffPrincipal, principalFields, Diff.disagreeing, Diff.changed, Diff.changedIfKnown,
      Diff.pathUnless]

/-- The secret of a principal counts only where it is known. -/
theorem mem_principalFields_iff {c d : Option Principal} {p : String} :
    (p, false) ∈ principalFields c d ↔ Principal.DiffersAt c d p := by
  cases c with
  | none =>
    cases d with
    | none => exact iff_of_false List.not_mem_nil nofun
    | some q =>
      have hfields : (p, false) ∈ principalFields none (some q) ↔ p = "service_principal" := by
        simp [principalFields]
      rw [hfields]
      constructor
      · rintro rfl
        exact .gained
      · rintro ⟨⟩
        rfl
  | some a =>
    cases d with
    | none =>
      have hfields : (p, false) ∈ principalFields (some a) none ↔ p = "service_principal" := by
        simp [principalFields]
      rw [hfields]
      constructor
      · rintro rfl
        exact .lost
      · rintro ⟨⟩
        rfl
    | some b =>
      have hfields : (p, false) ∈ principalFields (some a) (some b)
          ↔ (p = "service_principal.client_id" ∧ a.clientId ≠ b.clientId)
          ∨ (p = "service_principal.client_secret" ∧ a.secret ≠ none ∧ a.secret ≠ b.secret) := by
        simp [principalFields, Option.isSome_iff_ne_none]
      rw [hfields]
      constructor
      · rintro (⟨rfl, h⟩ | ⟨rfl, known, h⟩)
        · exact .clientId h
        · exact .secret known h
      · intro h
        cases h with
        | clientId h => exact Or.inl ⟨rfl, h⟩
        | secret known h => exact Or.inr ⟨rfl, known, h⟩

/-- A service is changed in place for exactly the places at which it can be. -/
theorem lists_update (c d : Service) : Diff.Lists "" (diff c d).update (c.ChangedAt d) := by
  have hpaths : (diff c d).update = Diff.disagreeing "" (updateFields c d) := by
    simp [diff, Diff.disagreeing, updateFields, Diff.changed, diffPrincipal_eq_disagreeing]
  rw [hpaths]
  refine (Diff.lists_fields ?_).congr fun p => ?_
  · unfold updateFields
    cases c.principal <;> cases d.principal <;> simp [principalFields]
  have hfields : (p, false) ∈ updateFields c d
      ↔ (p = "master_profile.count" ∧ c.masters.count ≠ d.masters.count)
      ∨ (p = "master_profile.dns_prefix" ∧ c.masters.dnsPrefix ≠ d.masters.dnsPrefix)
      ∨ (p = "linux_profile.admin_username" ∧ c.linux.admin ≠ d.linux.admin)
      ∨ (p = "linux_profile.ssh_key.key_data" ∧ c.linux.sshKey.data ≠ d.linux.sshKey.data)
      ∨ (p = "agent_pool_profile.count" ∧ c.agents.count ≠ d.agents.count)
      ∨ (p = "agent_pool_profile.vm_size"
        ∧ Text.lower c.agents.vmSize ≠ Text.lower d.agents.vmSize)
      ∨ Principal.DiffersAt c.principal d.principal p
      ∨ (p = "diagnostics_profile.enabled" ∧ c.diagnostics.enabled ≠ d.diagnostics.enabled)
      ∨ (p = "tags" ∧ c.tags ≠ d.tags) := by
    simp [updateFields, mem_principalFields_iff]
  rw [hfields]
  constructor
  · rintro (⟨rfl, h⟩ | ⟨rfl, h⟩ | ⟨rfl, h⟩ | ⟨rfl, h⟩ | ⟨rfl, h⟩ | ⟨rfl, h⟩ | h | ⟨rfl, h⟩
      | ⟨rfl, h⟩)
    · exact .mastersCount h
    · exact .mastersPrefix h
    · exact .admin h
    · exact .sshKey h
    · exact .agentsCount h
    · exact .vmSize h
    · exact .principal h
    · exact .diagnostics h
    · exact .tags h
  · rintro (h | h | h | h | h | h | h | h | h) <;> simp [*]

end Service

end Provisioning.Document
