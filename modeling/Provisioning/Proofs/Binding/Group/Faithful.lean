import Provisioning.Proofs.Binding.Faithful
import Provisioning.Proofs.Binding.Group.Canonical
import Provisioning.Proofs.Binding.Group.RoundTrip

/-!
The binding of groups is faithful, up to the fields that the management plane computes and the
spelling of locations.

The secrets of a group are all that `scrub` takes from its object (`scrub_wireGroup`), so groups
that agree send the same, their secrets and the spelling of their locations aside (`Agrees.sent`);
and a secret that the one has, the other has at the same place (`Agrees.secret`).
-/

namespace Provisioning.Document.Group

/-- The object with its location the way the management plane writes it. -/
def normal (g : Object.Group) : Object.Group :=
  { g with location := g.location.map normalizeLocation }

/-- The canonical form of a group that the management plane holds is that of the group. -/
theorem canonical_held (d : Group) : d.held.canonical = d.canonical := by
  simp only [canonical, held, normalizeLocation_normalizeLocation]

theorem wireGroup_congr {c d : Group} (h : c.canonical = d.canonical) :
    normal (wireGroup c) = normal (wireGroup d) := by
  simp only [canonical, Group.mk.injEq] at h
  obtain ⟨hname, hlocation, -, -, hos, hrestart, hlabel, -, -, htags, hcredentials,
    hcontainers⟩ := h
  simp only [normal, wireGroup, expandAddress, volumes, Option.map_some, hname, hlocation, hos,
    hrestart, hlabel, htags, hcredentials, hcontainers,
    addressType_eq c.addressType d.addressType]

theorem faithful : binding.Faithful canonical normal where
  key_nonempty hvalid := by
    have hd := isValid_report_iff.mp hvalid
    exact ⟨hd.resourceGroup.ne_empty, hd.name.ne_empty⟩
  key_of_canonical {c d} h := by
    simp only [canonical, Group.mk.injEq] at h
    obtain ⟨hname, -, hgroup, -⟩ := h
    exact NaturalKey.mk.injEq .. ▸ ⟨hgroup, hname⟩
  key_of_diff {c d} h := by
    have hagrees := isEmpty_diff_iff.mp h
    exact NaturalKey.mk.injEq .. ▸ ⟨hagrees.resourceGroup, hagrees.name⟩
  key_flatten h := by
    obtain ⟨_, _, _, _, _, _, -, -, -, -, -, -, rfl⟩ := flatten_eq_ok_iff.mp h
    rfl
  flatten_withState s h := flatten_withState h s
  flatten_filed {d object} s hvalid hexpand := by
    have hd := isValid_report_iff.mp hvalid
    have hobject : wireGroup d = object :=
      Except.ok.inj ((expand_eq_ok hd.coherent.port).symm.trans hexpand)
    subst hobject
    refine ⟨_, flatten_withState (flatten_held hd.coherent _ (some d)) s, ?_⟩
    rw [canonical_restore, canonical_held, ← canonical_restore, restore_self hd.keyed]
  diff_of_canonical hvalid h :=
    isEmpty_diff_iff.mpr (agrees_of_canonical_eq h (isValid_report_iff.mp hvalid).numbered)
  canonical_of_diff hd he hce h :=
    (isEmpty_diff_iff.mp h).canonical_eq (isValid_report_iff.mp hd) hce
      (isValid_report_iff.mp he)
  reread hvalid hflatten hdiff he :=
    ⟨_, flatten_restore hflatten _,
      (isEmpty_diff_iff.mp hdiff).canonical_restore_some (isValid_report_iff.mp hvalid) he⟩
  reread_blind hvalid hflatten hdiff :=
    ⟨_, flatten_restore hflatten none,
      isEmpty_diff_iff.mpr (restore_none _ ▸ (isEmpty_diff_iff.mp hdiff).redacted)⟩
  expand_congr hc hd h :=
    ⟨_, _, expand_eq_ok (isValid_report_iff.mp hc).coherent.port,
      expand_eq_ok (isValid_report_iff.mp hd).coherent.port, wireGroup_congr h⟩

/-! ### Objects without secrets -/

/-- Which volumes are kept does not depend on their keys. -/
theorem distinct_redacted (known : List String) (volumes : List Volume) :
    distinct known (volumes.map Volume.redacted)
      = (distinct known volumes).map Volume.redacted := by
  induction volumes generalizing known with
  | nil => rfl
  | cons v volumes ih =>
    have hname : v.redacted.name = v.name := rfl
    rw [List.map_cons, distinct, distinct, hname]
    by_cases hknown : known.contains v.name = true
    · rw [if_pos hknown, if_pos hknown, ih]
    · rw [if_neg hknown, if_neg hknown, ih, List.map_cons]

theorem volumes_redacted (d : Group) : d.redacted.volumes = d.volumes.map Volume.redacted := by
  have hvolumes : d.redacted.containers.flatMap Container.volumes
      = (d.containers.flatMap Container.volumes).map Volume.redacted := by
    rw [List.map_flatMap]
    exact List.flatMap_map ..
  rw [volumes, volumes, hvolumes, distinct_redacted]

/-- A container on the wire has no secrets, as its volumes are held by the group. -/
theorem wireContainer_redacted (c : Container) : wireContainer c.redacted = wireContainer c := by
  have hmounts : c.redacted.volumes.map expandMount = c.volumes.map expandMount := List.map_map ..
  simp only [wireContainer, wireProperties, hmounts]
  rfl

theorem expandAddress_redacted (d : Group) : d.redacted.expandAddress = d.expandAddress := by
  have hports : d.redacted.containers.filterMap expandPort = d.containers.filterMap expandPort :=
    List.filterMap_map ..
  rw [expandAddress, hports]
  rfl

/-- The object of a group without its secrets is the object of the group without its secrets. -/
theorem scrub_wireGroup (d : Group) : (wireGroup d).scrub = wireGroup d.redacted := by
  have hcontainers : d.redacted.containers.map wireContainer = d.containers.map wireContainer :=
    (List.map_map ..).trans (List.map_congr_left fun c _ => wireContainer_redacted c)
  have hcredentials : d.redacted.credentials.map expandCredential
      = (d.credentials.map expandCredential).map Object.Credential.scrub := by
    rw [List.map_map]
    exact List.map_map ..
  have hvolumes : d.redacted.volumes.map expandVolume
      = (d.volumes.map expandVolume).map Object.Volume.scrub := by
    rw [volumes_redacted, List.map_map, List.map_map]
    rfl
  simp only [wireGroup, Object.Group.scrub, Object.GroupProperties.scrub, Option.map_some,
    map_unlessEmpty, hcontainers, hcredentials, hvolumes, expandAddress_redacted]
  rfl

/-! ### Groups that agree -/

section Agrees

variable {c d : Group}

/-- A group that agrees with a well-formed one has an object. -/
theorem Agrees.expand_eq_ok (h : c.Agrees d) (hd : d.WellFormed) :
    expand c = .ok (wireGroup c) := by
  refine Group.expand_eq_ok fun a ha port hport => ?_
  obtain ⟨b, hb, hab⟩ := exists_mem_of_forall₂ h.containers.flip ha
  exact hd.coherent.port b hb port (hab.port ▸ hport)

/-- Groups that agree send the same, their secrets and the spelling of their locations aside. -/
theorem Agrees.sent (h : c.Agrees d) (hd : d.WellFormed) :
    normal (wireGroup c).scrub = normal (wireGroup d).scrub := by
  rw [scrub_wireGroup, scrub_wireGroup]
  refine wireGroup_congr ?_
  rw [← Group.restore_none, ← Group.restore_none]
  exact h.canonical_restore hd none

/-- A secret of a group that agrees with another one is a secret of that one. -/
theorem Agrees.secret (h : c.Agrees d) (place : Place) {s : String}
    (hs : c.secret place = some s) : d.secret place = some s := by
  cases place with
  | password i =>
    obtain ⟨a, ha, hs⟩ := Option.bind_eq_some_iff.mp hs
    obtain ⟨b, hb, hab⟩ := exists_getElem?_of_forall₂ h.credentials ha
    exact Option.bind_eq_some_iff.mpr ⟨b, hb, hab.password.eq_some hs⟩
  | key i j =>
    obtain ⟨v, hv, hs⟩ := Option.bind_eq_some_iff.mp hs
    obtain ⟨a, ha, hv⟩ := Option.bind_eq_some_iff.mp hv
    obtain ⟨b, hb, hab⟩ := exists_getElem?_of_forall₂ h.containers ha
    obtain ⟨w, hw, hvw⟩ := exists_getElem?_of_forall₂ hab.volumes hv
    exact Option.bind_eq_some_iff.mpr
      ⟨w, Option.bind_eq_some_iff.mpr ⟨b, hb, hw⟩, hvw.key.eq_some hs⟩

end Agrees

end Provisioning.Document.Group
