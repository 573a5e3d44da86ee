import Provisioning.Proofs.Binding.Service.Faithful
import Provisioning.Proofs.Document.Secrets

/-!
The round trip of services. Every service comes back from the object that the management plane keeps
(`service_round_trip`), valid or not, with the secret that its reader knows; and what is read off
any object comes back as it is (`flatten_filedAs_of_flatten`).
-/

namespace Provisioning.Document.Service

/-- Whoever knows no document gets no secret. -/
theorem flattenPrincipal_none (principal : Option Principal) :
    (principal.map fun p => flattenPrincipal none (expandPrincipal p).scrub)
      = principal.map Principal.redacted := by
  cases principal <;> rfl

/-- What the management plane computes for a service stands in the object that it keeps. -/
theorem held_eq_computedFrom (d : Service) (id : String) (principal : Option Principal) :
    { d.held with principal }
      = ({ d with location := normalizeLocation d.location, principal } : Service).computedFrom
          (Managed.filedAs id (binding.key d) d.expand) := by
  have hstorage : (if some d.diagnostics.enabled = some true
        then some (Object.diagnosticsUri d.name) else none)
      = if d.diagnostics.enabled then some (Object.diagnosticsUri d.name) else none := by
    cases d.diagnostics.enabled <;> rfl
  simp only [held, ← hstorage]
  rfl

/-- A service has an object. From that object, as the management plane keeps it, the service is read
back with its location normalised and with what the plane computes: without its secret by whoever
knows none, and with it by whoever knows the service. -/
theorem service_round_trip (d : Service) (id : String) :
    ∃ object kept, binding.expand d = .ok object
      ∧ kept = Managed.filedAs id (binding.key d) object
      ∧ binding.flatten (binding.key d) kept none
        = .ok ({ d.redacted with location := normalizeLocation d.location }.computedFrom kept)
      ∧ binding.flatten (binding.key d) kept (some d)
        = .ok ({ d with location := normalizeLocation d.location }.computedFrom kept) := by
  refine ⟨d.expand, _, rfl, rfl, ?_, ?_⟩
  · have hread := flatten_held d id none
    rw [flattenPrincipal_none, held_eq_computedFrom d id] at hread
    exact hread
  · have hread := flatten_held d id (some d)
    rw [flattenPrincipal_self, held_eq_computedFrom d id] at hread
    exact hread

/-- The location of a service that was read is written the way the management plane writes it. -/
theorem normalizeLocation_of_flatten {key : NaturalKey} {object : Object.Service}
    {prior : Option Service} {d : Service} (h : flatten key object prior = .ok d) :
    normalizeLocation d.location = d.location := by
  obtain ⟨_, _, _, _, _, _, _, -, -, -, -, -, -, -, rfl⟩ := flatten_eq_ok_iff.mp h
  exact normalizeLocation_normalizeLocation _

/-- What was read off an object comes back from the object that it describes itself, by whoever
knows it, up to what the management plane computes. -/
theorem flatten_filedAs_of_flatten {key : NaturalKey} {object : Object.Service}
    {prior : Option Service} {d : Service} (h : flatten key object prior = .ok d) (id : String) :
    ∃ d', flatten key (Managed.filedAs id key d.expand) (some d) = .ok d'
      ∧ d'.uncomputed = d.uncomputed ∧ (diff d' d).isEmpty = true := by
  have hkey : binding.key d = key := faithful.key_flatten h
  have hread := flatten_held_self d id
  rw [hkey] at hread
  refine ⟨d.held, hread, ?_, isEmpty_diff_iff.mpr (agrees_of_canonical_eq (canonical_held d))⟩
  simp only [uncomputed, held, normalizeLocation_of_flatten h]

end Provisioning.Document.Service
