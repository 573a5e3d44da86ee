import Provisioning.Binding.Service
import Provisioning.Proofs.Choice
import Provisioning.Proofs.Dictionary
import Provisioning.Proofs.Object.Lawful
import Provisioning.Proofs.Traversal

/-!
Reading a service off an object. What `flatten` needs of an object and what it makes of it is one
fact (`flatten_eq_ok_iff`), in which the earlier document appears in the principal alone. What is
read off the object that a service describes, once the management plane has it, is the service
again, with the fields that the plane computes and the secret that the earlier document has to
offer (`flatten_held`).
-/

namespace Provisioning.Document.Service

/-! ### What is read off an object -/

theorem need_eq_ok_iff {α : Type} {field : String} {part : Option α} {a : α} :
    need field part = .ok a ↔ part = some a := by
  cases part <;> simp [need]

/-- What is read off an object whose necessary parts are there. -/
def readService (key : NaturalKey) (object : Object.Service) (prior : Option Service)
    (properties : Object.ServiceProperties) (platform : Platform) (masters : Object.Masters)
    (pool : Object.AgentPool) (linux : Object.Linux) (sshKey : String) : Service where
  name := key.name
  location := normalizeLocation (object.location.getD "")
  resourceGroup := key.scope
  platform
  masters := flattenMasters masters
  linux := { admin := linux.admin.getD "", sshKey := { data := sshKey } }
  agents := flattenAgents pool
  principal := properties.principal.map (flattenPrincipal prior)
  diagnostics := flattenDiagnostics properties.diagnostics
  tags := object.tags.getD .empty

/-- An object can be read as a service exactly if its necessary parts are there and its platform is
known; then there is one service that it is read as. -/
theorem flatten_eq_ok_iff {key : NaturalKey} {object : Object.Service} {prior : Option Service}
    {d : Service} :
    flatten key object prior = .ok d ↔ ∃ properties label platform masters pool linux sshKey,
      object.properties = some properties
      ∧ properties.orchestrator.bind (·.type) = some label ∧ flattenPlatform label = .ok platform
      ∧ properties.masters = some masters ∧ properties.pools.head? = some pool
      ∧ properties.linux = some linux ∧ firstKey linux = some sshKey
      ∧ d = readService key object prior properties platform masters pool linux sshKey := by
  unfold flatten
  simp only [bind_eq_ok_iff, need_eq_ok_iff]
  constructor
  · rintro ⟨properties, hproperties, label, hlabel, platform, hplatform, masters, hmasters, pool,
      hpool, linux, hlinux, sshKey, hsshKey, h⟩
    exact ⟨properties, label, platform, masters, pool, linux, sshKey, hproperties, hlabel,
      hplatform, hmasters, hpool, hlinux, hsshKey, (Except.ok.inj h).symm⟩
  · rintro ⟨properties, label, platform, masters, pool, linux, sshKey, hproperties, hlabel,
      hplatform, hmasters, hpool, hlinux, hsshKey, rfl⟩
    exact ⟨properties, hproperties, label, hlabel, platform, hplatform, masters, hmasters, pool,
      hpool, linux, hlinux, sshKey, hsshKey, rfl⟩

/-- An object that cannot be read as a service is said to be there. -/
theorem residue_flatten (key : NaturalKey) (object : Object.Service) (prior : Option Service) :
    ErrorsIn (fun e => e.residue = .remaining) (flatten key object prior) := by
  have hneed {α : Type} (field : String) (part : Option α) :
      ErrorsIn (fun e => e.residue = .remaining) (need field part) := by
    cases part with
    | none => exact .error rfl
    | some part => exact .ok part
  have hplatform (label : String) :
      ErrorsIn (fun e => e.residue = .remaining) (flattenPlatform label) := by
    unfold flattenPlatform
    cases (Choice.ofLabel label : Except UnknownLabel Platform) with
    | error unknown => exact .error rfl
    | ok platform => exact .ok platform
  unfold flatten
  exact (hneed _ _).bind fun properties => (hneed _ _).bind fun label =>
    (hplatform label).bind fun platform => (hneed _ _).bind fun masters =>
    (hneed _ _).bind fun pool => (hneed _ _).bind fun linux =>
    (hneed _ _).bind fun sshKey => .ok _

/-- The provisioning state of an object does not change what is read off it. -/
theorem flatten_withState {key : NaturalKey} {object : Object.Service} {prior : Option Service}
    {d : Service} (h : flatten key object prior = .ok d) (s : State) :
    flatten key (object.withState s) prior = .ok d := by
  obtain ⟨properties, label, platform, masters, pool, linux, sshKey, hproperties, hlabel,
    hplatform, hmasters, hpool, hlinux, hsshKey, rfl⟩ := flatten_eq_ok_iff.mp h
  refine flatten_eq_ok_iff.mpr ⟨{ properties with state := some s }, label, platform, masters,
    pool, linux, sshKey, ?_, hlabel, hplatform, hmasters, hpool, hlinux, hsshKey, rfl⟩
  rw [Object.Service.withState, hproperties]
  rfl

/-- Reading with another earlier document changes the principal's secret and nothing else. -/
theorem flatten_prior {key : NaturalKey} {object : Object.Service} {p : Option Service}
    {d : Service} (h : flatten key object p = .ok d) :
    ∃ principal : Option Object.Principal, d.principal = principal.map (flattenPrincipal p)
      ∧ ∀ q, flatten key object q
        = .ok { d with principal := principal.map (flattenPrincipal q) } := by
  obtain ⟨properties, label, platform, masters, pool, linux, sshKey, hproperties, hlabel,
    hplatform, hmasters, hpool, hlinux, hsshKey, rfl⟩ := flatten_eq_ok_iff.mp h
  refine ⟨properties.principal, rfl, fun q => ?_⟩
  exact flatten_eq_ok_iff.mpr ⟨properties, label, platform, masters, pool, linux, sshKey,
    hproperties, hlabel, hplatform, hmasters, hpool, hlinux, hsshKey, rfl⟩

/-! ### The round trip -/

/-- A service as the management plane holds it: its location is normalised, and the fields that the
plane computes are there. -/
def held (d : Service) : Service :=
  { d with
    location := normalizeLocation d.location
    masters := { d.masters with
      fqdn := some (Object.mastersHost d.location d.masters.dnsPrefix) }
    agents := { d.agents with fqdn := some (Object.agentsHost d.location d.agents.dnsPrefix) }
    diagnostics := { d.diagnostics with
      storageUri := if d.diagnostics.enabled then some (Object.diagnosticsUri d.name) else none } }

/-- A service is read back from the object that the management plane holds, with the secret that an
earlier document has for its principal. -/
theorem flatten_held (d : Service) (id : String) (prior : Option Service) :
    flatten (binding.key d) (Managed.filedAs id (binding.key d) d.expand) prior
      = .ok { d.held with
          principal := d.principal.map fun p =>
            flattenPrincipal prior (expandPrincipal p).scrub } := by
  refine flatten_eq_ok_iff.mpr ⟨_, Choice.label d.platform, d.platform, _, _, _,
    d.linux.sshKey.data, rfl, rfl, flattenPlatform_label d.platform, rfl, rfl, rfl, rfl, ?_⟩
  have htags : d.expand.tags.getD .empty = d.tags := Dictionary.getD_unlessEmpty d.tags
  have hprincipal : ((d.principal.map expandPrincipal).map Object.Principal.scrub).map
        (flattenPrincipal prior)
      = d.principal.map fun p => flattenPrincipal prior (expandPrincipal p).scrub := by
    rw [Option.map_map, Option.map_map]
    rfl
  have hdiagnostics : flattenDiagnostics (some (Object.Diagnostics.populate d.name
        { vm := some { enabled := some d.diagnostics.enabled } }))
      = { d.diagnostics with
          storageUri := if d.diagnostics.enabled then some (Object.diagnosticsUri d.name)
            else none } := by
    cases henabled : d.diagnostics.enabled <;>
      simp [flattenDiagnostics, Object.Diagnostics.populate, Object.VmDiagnostics.populate,
        henabled]
  simp only [held, readService]
  rw [Service.mk.injEq]
  exact ⟨rfl, rfl, rfl, rfl, rfl, rfl, rfl, hprincipal.symm, hdiagnostics.symm, htags.symm⟩

/-- A service has its own secret to offer. -/
theorem flattenPrincipal_self (d : Service) :
    (d.principal.map fun p => flattenPrincipal (some d) (expandPrincipal p).scrub)
      = d.principal := by
  cases hprincipal : d.principal with
  | none => rfl
  | some p =>
    have hsecret : priorSecret p.clientId (some d) = p.secret := by
      simp [priorSecret, hprincipal]
    simp [flattenPrincipal, expandPrincipal, Object.Principal.scrub, hsecret]

/-- A service is read back by whoever knows it. -/
theorem flatten_held_self (d : Service) (id : String) :
    flatten (binding.key d) (Managed.filedAs id (binding.key d) d.expand) (some d)
      = .ok d.held := by
  rw [flatten_held, flattenPrincipal_self]
  simp only [held]

end Provisioning.Document.Service
