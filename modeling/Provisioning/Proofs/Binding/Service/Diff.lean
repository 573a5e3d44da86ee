import Provisioning.Binding.Service
import Provisioning.Proofs.Binding.Places

/-!
When two services do not differ: `diff` is empty exactly if they agree (`Agrees`) field by field.
Locations and machine sizes agree in any case of their letters, and a secret agrees with any where
the service at hand does not know it.
-/

namespace Provisioning.Document

/-- Whether a principal is as another one wants it. -/
structure Principal.Agrees (p q : Principal) : Prop where
  clientId : p.clientId = q.clientId
  secret : Diff.Known p.secret q.secret

/-- Whether a service is as another one wants it. -/
structure Service.Agrees (c d : Service) : Prop where
  name : c.name = d.name
  location : normalizeLocation c.location = normalizeLocation d.location
  resourceGroup : c.resourceGroup = d.resourceGroup
  platform : c.platform = d.platform
  agentsName : c.agents.name = d.agents.name
  agentsPrefix : c.agents.dnsPrefix = d.agents.dnsPrefix
  mastersCount : c.masters.count = d.masters.count
  mastersPrefix : c.masters.dnsPrefix = d.masters.dnsPrefix
  admin : c.linux.admin = d.linux.admin
  sshKey : c.linux.sshKey.data = d.linux.sshKey.data
  agentsCount : c.agents.count = d.agents.count
  vmSize : Text.lower c.agents.vmSize = Text.lower d.agents.vmSize
  principal : Option.Rel Principal.Agrees c.principal d.principal
  diagnostics : c.diagnostics.enabled = d.diagnostics.enabled
  tags : c.tags = d.tags

namespace Service

theorem diffPrincipal_eq_nil_iff {c d : Option Principal} :
    diffPrincipal c d = [] ↔ Option.Rel Principal.Agrees c d := by
  cases c with
  | none =>
    cases d with
    | none => exact iff_of_true rfl .none
    | some q => exact iff_of_false (List.cons_ne_nil _ _) nofun
  | some p =>
    cases d with
    | none => exact iff_of_false (List.cons_ne_nil _ _) nofun
    | some q =>
      simp only [diffPrincipal, List.append_eq_nil_iff, Diff.changed_eq_nil_iff,
        Diff.changedIfKnown_eq_nil_iff]
      constructor
      · rintro ⟨hclientId, hsecret⟩
        exact .some ⟨hclientId, hsecret⟩
      · intro h
        cases h with
        | some hagrees => exact ⟨hagrees.clientId, hagrees.secret⟩

/-- Two services do not differ exactly if they agree. -/
theorem isEmpty_diff_iff {c d : Service} : (diff c d).isEmpty = true ↔ c.Agrees d := by
  rw [Diff.isEmpty_iff]
  simp only [diff, List.append_eq_nil_iff, Diff.changed_eq_nil_iff, diffPrincipal_eq_nil_iff]
  constructor
  · rintro ⟨⟨⟨⟨⟨⟨hname, hlocation⟩, hgroup⟩, hplatform⟩, hagentsName⟩, hagentsPrefix⟩,
      ⟨⟨⟨⟨⟨⟨⟨hmasters, hmastersPrefix⟩, hadmin⟩, hsshKey⟩, hagents⟩, hvmSize⟩, hprincipal⟩,
        hdiagnostics⟩, htags⟩
    exact ⟨hname, hlocation, hgroup, hplatform, hagentsName, hagentsPrefix, hmasters,
      hmastersPrefix, hadmin, hsshKey, hagents, hvmSize, hprincipal, hdiagnostics, htags⟩
  · rintro ⟨hname, hlocation, hgroup, hplatform, hagentsName, hagentsPrefix, hmasters,
      hmastersPrefix, hadmin, hsshKey, hagents, hvmSize, hprincipal, hdiagnostics, htags⟩
    exact ⟨⟨⟨⟨⟨⟨hname, hlocation⟩, hgroup⟩, hplatform⟩, hagentsName⟩, hagentsPrefix⟩,
      ⟨⟨⟨⟨⟨⟨⟨hmasters, hmastersPrefix⟩, hadmin⟩, hsshKey⟩, hagents⟩, hvmSize⟩, hprincipal⟩,
        hdiagnostics⟩, htags⟩

end Service

end Provisioning.Document
