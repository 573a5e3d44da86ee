import Provisioning.Proofs.Binding.Faithful
import Provisioning.Proofs.Binding.Service.Diff
import Provisioning.Proofs.Binding.Service.Flatten
import Provisioning.Proofs.Document.GroupReport
import Provisioning.Proofs.Document.Secrets
import Provisioning.Proofs.Text.LowerCase

/-!
The binding of services is faithful, up to the fields that the management plane computes and the
case of locations and machine sizes.

The secret of a service is all that `scrub` takes from its object (`scrub_expand`), so services that
agree send the same, their secrets and the case of their locations and machine sizes aside
(`Agrees.sent`); and the secret that the one has, the other has too (`Agrees.secret`).
-/

namespace Provisioning.Document.Service

/-! ### Canonical forms -/

/-- The service without the fields that the management plane computes, its location the way the
management plane writes it and its machine size in lower case. -/
def canonical (d : Service) : Service :=
  { d with
    location := normalizeLocation d.location
    masters := { d.masters with fqdn := none }
    agents := { d.agents with fqdn := none, vmSize := Text.lower d.agents.vmSize }
    diagnostics := { d.diagnostics with storageUri := none } }

/-- The agents with their machine size in lower case. -/
def normalAgents (a : Object.AgentPool) : Object.AgentPool :=
  { a with vmSize := a.vmSize.map Text.lower }

/-- The object with its location the way the management plane writes it, and machine sizes in lower
case. -/
def normal (v : Object.Service) : Object.Service :=
  { v with
    location := v.location.map normalizeLocation
    properties := v.properties.map fun p => { p with pools := p.pools.map normalAgents } }

theorem canonical_held (d : Service) : d.held.canonical = d.canonical := by
  simp only [canonical, held, normalizeLocation_normalizeLocation]

/-- What it takes for two services to have one canonical form. -/
theorem canonical_eq_iff {c d : Service} : c.canonical = d.canonical ↔
    c.name = d.name ∧ normalizeLocation c.location = normalizeLocation d.location
    ∧ c.resourceGroup = d.resourceGroup ∧ c.platform = d.platform
    ∧ (c.masters.count = d.masters.count ∧ c.masters.dnsPrefix = d.masters.dnsPrefix)
    ∧ c.linux = d.linux
    ∧ (c.agents.name = d.agents.name ∧ c.agents.count = d.agents.count
      ∧ c.agents.dnsPrefix = d.agents.dnsPrefix
      ∧ Text.lower c.agents.vmSize = Text.lower d.agents.vmSize)
    ∧ c.principal = d.principal ∧ c.diagnostics.enabled = d.diagnostics.enabled
    ∧ c.tags = d.tags := by
  simp only [canonical, Service.mk.injEq, Masters.mk.injEq, AgentPool.mk.injEq,
    Diagnostics.mk.injEq, and_true, true_and]

/-! ### Services that agree -/

/-- A service that agrees with another is it, what the management plane makes of it aside, once it
has the principal. -/
theorem Agrees.canonical_eq {c d : Service} (h : c.Agrees d)
    (hprincipal : c.principal = d.principal) : c.canonical = d.canonical := by
  have hlinux : c.linux = d.linux := by
    have hadmin := h.admin
    have hsshKey := h.sshKey
    cases hc : c.linux with
    | mk admin sshKey =>
      cases hd : d.linux with
      | mk admin' sshKey' =>
        cases sshKey
        cases sshKey'
        rw [hc, hd] at hadmin hsshKey
        cases hadmin
        cases hsshKey
        rfl
  exact canonical_eq_iff.mpr ⟨h.name, h.location, h.resourceGroup, h.platform,
    ⟨h.mastersCount, h.mastersPrefix⟩, hlinux,
    ⟨h.agentsName, h.agentsCount, h.agentsPrefix, h.vmSize⟩, hprincipal, h.diagnostics, h.tags⟩

theorem Agrees.with_principal {c d : Service} (h : c.Agrees d) {principal : Option Principal}
    (hprincipal : Option.Rel Principal.Agrees principal d.principal) :
    ({ c with principal } : Service).Agrees d :=
  { h with principal := hprincipal }

theorem agrees_self (principal : Option Principal) :
    Option.Rel Principal.Agrees principal principal := by
  cases principal with
  | none => exact .none
  | some p => exact .some ⟨rfl, Or.inr rfl⟩

theorem agrees_of_canonical_eq {c d : Service} (h : c.canonical = d.canonical) : c.Agrees d := by
  obtain ⟨hname, hlocation, hgroup, hplatform, ⟨hmasters, hmastersPrefix⟩, hlinux,
    ⟨hagentsName, hagents, hagentsPrefix, hvmSize⟩, hprincipal, hdiagnostics, htags⟩ :=
    canonical_eq_iff.mp h
  exact ⟨hname, hlocation, hgroup, hplatform, hagentsName, hagentsPrefix, hmasters,
    hmastersPrefix, hlinux ▸ rfl, hlinux ▸ rfl, hagents, hvmSize, hprincipal ▸ agrees_self _,
    hdiagnostics, htags⟩

/-- The principal of a valid service has its secret. -/
theorem principal_filled {d : Service} (h : d.report.isValid = true) (p : Principal)
    (hp : d.principal = some p) : Filled (p.secret.getD "") := by
  simp only [report, Report.isValid_append, Bool.and_eq_true, hp, principalReport,
    Report.isValid_nest, Principal.report, isValid_nonBlank] at h
  exact h.2.2

/-- A service that agrees with another and knows the principal of a valid one has its secret, so
that its principal is that of the other one. -/
theorem Agrees.canonical_of_known {c d e : Service} (h : c.Agrees d)
    (he : e.report.isValid = true) (hce : c.canonical = e.canonical) :
    c.canonical = d.canonical := by
  refine h.canonical_eq ?_
  have hprincipal : c.principal = e.principal := (canonical_eq_iff.mp hce).2.2.2.2.2.2.2.1
  have hrel := h.principal
  generalize hd : d.principal = principal at hrel
  generalize hc : c.principal = principal' at hrel
  cases hrel with
  | none => rfl
  | @some p q hpq =>
    have hfilled := principal_filled he p (hprincipal.symm.trans hc)
    have hsecret : p.secret = q.secret := by
      obtain ⟨s, hs⟩ := eq_some_of_filled hfilled
      exact hpq.secret.resolve_left (hs ▸ Option.some_ne_none s)
    cases p
    cases q
    exact congrArg some (Principal.mk.injEq .. ▸ ⟨hpq.clientId, hsecret⟩)

theorem expand_congr {c d : Service} (h : c.canonical = d.canonical) :
    normal c.expand = normal d.expand := by
  obtain ⟨hname, hlocation, -, hplatform, ⟨hmasters, hmastersPrefix⟩, hlinux,
    ⟨hagentsName, hagents, hagentsPrefix, hvmSize⟩, hprincipal, hdiagnostics, htags⟩ :=
    canonical_eq_iff.mp h
  simp only [normal, normalAgents, expand, expandAgents, Option.map_some, List.map_cons,
    List.map_nil, hname, hlocation, hplatform, hmasters, hmastersPrefix, hlinux, hagentsName,
    hagents, hagentsPrefix, hvmSize, hprincipal, hdiagnostics, htags]

/-! ### Objects that are read again -/

section Principals

variable {p : Object.Principal} {prior : Option Service} {q : Principal}

/-- A principal that agrees with that of a document is read as that one by whoever knows it. -/
theorem flattenPrincipal_eq (hagrees : (flattenPrincipal prior p).Agrees q) {e : Service}
    (he : e.principal = some q) : flattenPrincipal (some e) p = q := by
  obtain ⟨hclientId, hknown⟩ := hagrees
  simp only [flattenPrincipal] at hclientId hknown
  have hprior : priorSecret (p.clientId.getD "") (some e) = q.secret := by
    simp [priorSecret, he, hclientId]
  have hsecret : p.secret.or (priorSecret (p.clientId.getD "") (some e)) = q.secret := by
    cases hown : p.secret with
    | none => rw [hprior, Option.none_or]
    | some s =>
      rw [hown, Option.some_or] at hknown
      rw [Option.some_or]
      exact hknown.resolve_left (Option.some_ne_none s)
  cases q
  exact Principal.mk.injEq .. ▸ ⟨hclientId, hsecret⟩

/-- A principal that agrees with that of a document does so for whoever knows no document. -/
theorem flattenPrincipal_none_agrees (hagrees : (flattenPrincipal prior p).Agrees q) :
    (flattenPrincipal none p).Agrees q := by
  obtain ⟨hclientId, hknown⟩ := hagrees
  refine ⟨hclientId, ?_⟩
  simp only [flattenPrincipal] at hknown ⊢
  cases hown : p.secret with
  | none => exact Or.inl rfl
  | some s =>
    rw [hown, Option.some_or] at hknown
    exact hknown

variable {key : NaturalKey} {object : Object.Service} {c d : Service}

/-- An object that agrees with a service is read as that service by whoever knows its principal. -/
theorem flatten_some_of_agrees {e : Service} (hflatten : flatten key object prior = .ok c)
    (hagrees : c.Agrees d) (he : e.principal = d.principal) :
    ∃ c', flatten key object (some e) = .ok c' ∧ c'.canonical = d.canonical := by
  obtain ⟨wire, hwire, hread⟩ := flatten_prior hflatten
  have hsame : wire.map (flattenPrincipal (some e)) = d.principal := by
    have hrel := hagrees.principal
    rw [hwire] at hrel
    cases wire with
    | none =>
      generalize d.principal = principal at hrel
      cases hrel
      rfl
    | some p =>
      generalize hd : d.principal = principal at hrel
      cases hrel with
      | some hpq => exact congrArg some (flattenPrincipal_eq hpq (he.trans hd))
  refine ⟨_, hread (some e), ?_⟩
  exact (hagrees.with_principal (hsame ▸ agrees_self _)).canonical_eq hsame

/-- An object that agrees with a service does so for whoever knows no service. -/
theorem flatten_none_of_agrees (hflatten : flatten key object prior = .ok c)
    (hagrees : c.Agrees d) : ∃ c', flatten key object none = .ok c' ∧ c'.Agrees d := by
  obtain ⟨wire, hwire, hread⟩ := flatten_prior hflatten
  refine ⟨_, hread none, hagrees.with_principal ?_⟩
  have hrel := hagrees.principal
  rw [hwire] at hrel
  generalize d.principal = principal at hrel
  cases wire with
  | none =>
    cases hrel
    exact .none
  | some p =>
    cases hrel with
    | some hpq => exact .some (flattenPrincipal_none_agrees hpq)

end Principals

theorem key_filled {d : Service} (h : d.report.isValid = true) :
    Filled d.resourceGroup ∧ Filled d.name := by
  simp only [report, Report.isValid_append, Bool.and_eq_true, isValid_nonBlank] at h
  obtain ⟨⟨⟨⟨⟨⟨hname, -⟩, hgroup⟩, -⟩, -⟩, -⟩, -⟩ := h
  exact ⟨hgroup, hname⟩

theorem faithful : binding.Faithful canonical normal where
  key_nonempty hvalid := by
    obtain ⟨hgroup, hname⟩ := key_filled hvalid
    exact ⟨hgroup.ne_empty, hname.ne_empty⟩
  key_of_canonical {c d} h := by
    obtain ⟨hname, -, hgroup, -⟩ := canonical_eq_iff.mp h
    exact NaturalKey.mk.injEq .. ▸ ⟨hgroup, hname⟩
  key_of_diff {c d} h := by
    have hagrees := isEmpty_diff_iff.mp h
    exact NaturalKey.mk.injEq .. ▸ ⟨hagrees.resourceGroup, hagrees.name⟩
  key_flatten h := by
    obtain ⟨_, _, _, _, _, _, _, -, -, -, -, -, -, -, rfl⟩ := flatten_eq_ok_iff.mp h
    rfl
  flatten_withState s h := flatten_withState h s
  flatten_filed {d object} s _ hexpand := by
    have hobject : d.expand = object := Except.ok.inj hexpand
    subst hobject
    exact ⟨d.held, flatten_withState (flatten_held_self d _) s, canonical_held d⟩
  diff_of_canonical _ h := isEmpty_diff_iff.mpr (agrees_of_canonical_eq h)
  canonical_of_diff _ he hce h := (isEmpty_diff_iff.mp h).canonical_of_known he hce
  reread _ hflatten hdiff he :=
    flatten_some_of_agrees hflatten (isEmpty_diff_iff.mp hdiff)
      (canonical_eq_iff.mp he).2.2.2.2.2.2.2.1
  reread_blind _ hflatten hdiff := by
    obtain ⟨c', hread, hagrees⟩ := flatten_none_of_agrees hflatten (isEmpty_diff_iff.mp hdiff)
    exact ⟨c', hread, isEmpty_diff_iff.mpr hagrees⟩
  expand_congr _ _ h := ⟨_, _, rfl, rfl, expand_congr h⟩

/-! ### Objects without secrets -/

/-- The object of a service without its secret is the object of the service without its secret. -/
theorem scrub_expand (d : Service) : d.expand.scrub = d.redacted.expand := by
  have hprincipal : d.redacted.principal.map expandPrincipal
      = (d.principal.map expandPrincipal).map Object.Principal.scrub := by
    rw [Option.map_map]
    exact Option.map_map ..
  simp only [expand, Object.Service.scrub, Object.ServiceProperties.scrub, Option.map_some,
    hprincipal]
  rfl

section Agrees

variable {c d : Service}

/-- Principals that agree are the same but for the secret. -/
theorem redacted_eq_of_agrees {p q : Option Principal} (h : Option.Rel Principal.Agrees p q) :
    p.map Principal.redacted = q.map Principal.redacted := by
  cases h with
  | none => rfl
  | some hpq =>
    simp only [Option.map_some, Principal.redacted, hpq.clientId]

/-- Services that agree send the same, the secret and the case of their locations and machine sizes
aside. -/
theorem Agrees.sent (h : c.Agrees d) : normal c.expand.scrub = normal d.expand.scrub := by
  rw [scrub_expand, scrub_expand]
  have hprincipal : c.redacted.principal = d.redacted.principal :=
    redacted_eq_of_agrees h.principal
  have hagrees : c.redacted.Agrees d.redacted :=
    { h with principal := hprincipal ▸ agrees_self _ }
  exact expand_congr (hagrees.canonical_eq hprincipal)

/-- The secret of a service that agrees with another one is the secret of that one. -/
theorem Agrees.secret (h : c.Agrees d) (place : Place) {s : String}
    (hs : c.secret place = some s) : d.secret place = some s := by
  obtain ⟨p, hp, hs⟩ := Option.bind_eq_some_iff.mp hs
  have hrel := h.principal
  rw [hp] at hrel
  generalize hd : d.principal = principal at hrel
  cases hrel with
  | @some _ q hpq => exact Option.bind_eq_some_iff.mpr ⟨q, hd, hpq.secret.eq_some hs⟩

end Agrees

end Provisioning.Document.Service
