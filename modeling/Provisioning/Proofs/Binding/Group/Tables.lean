import Provisioning.Proofs.Binding.Group.FixedPoint

/-!
The tables of a group's object. The ports and the volumes of all containers are held together there,
each volume name once. Of a valid group nothing is lost that way (`expand_lossless`) but one thing:
whether a volume may be written to is taken from the first container that declares it, and a later
one can have it otherwise (`expand_sentAsDeclared_iff`).
-/

namespace Provisioning

namespace Object

/-- The ports of a group, if it has an address. -/
def Group.ports (g : Group) : List Port :=
  ((g.properties.bind (·.address)).map (·.ports)).getD []

/-- The volumes of a group, if it has any. -/
def Group.volumes (g : Group) : List Volume := (g.properties.bind (·.volumes)).getD []

/-- What a container mounts, if anything. -/
def Container.mounts (c : Container) : List Mount := (c.properties.bind (·.mounts)).getD []

end Object

namespace Document.Group

/-! ### The tables -/

theorem containers_wireGroup (d : Group) :
    (wireGroup d).containers = d.containers.map wireContainer := rfl

theorem ports_wireGroup (d : Group) : (wireGroup d).ports = d.containers.filterMap expandPort :=
  rfl

theorem volumes_wireGroup (d : Group) : (wireGroup d).volumes = d.volumes.map expandVolume :=
  getD_unlessEmpty _

theorem mounts_wireContainer (c : Container) :
    (wireContainer c).mounts = c.volumes.map expandMount :=
  getD_unlessEmpty _

/-! ### Each volume name once -/

theorem distinct_sublist (known : List String) (volumes : List Volume) :
    (distinct known volumes).Sublist volumes := by
  induction volumes generalizing known with
  | nil => exact List.Sublist.slnil
  | cons v volumes ih =>
    unfold distinct
    by_cases hknown : known.contains v.name = true
    · rw [if_pos hknown]
      exact (ih known).cons v
    · rw [if_neg hknown]
      exact (ih (v.name :: known)).cons_cons v

/-- No name is lost but those that are known. -/
theorem mem_names_distinct {known : List String} {name : String} {volumes : List Volume} :
    name ∈ (distinct known volumes).map Volume.name
      ↔ name ∈ volumes.map Volume.name ∧ name ∉ known := by
  induction volumes generalizing known with
  | nil => simp [distinct]
  | cons v volumes ih =>
    unfold distinct
    by_cases hknown : v.name ∈ known
    · rw [if_pos (by simpa using hknown), ih, List.map_cons, List.mem_cons]
      constructor
      · rintro ⟨hmem, hnew⟩
        exact ⟨.inr hmem, hnew⟩
      · rintro ⟨rfl | hmem, hnew⟩
        · exact absurd hknown hnew
        · exact ⟨hmem, hnew⟩
    · rw [if_neg (by simpa using hknown), List.map_cons, List.map_cons, List.mem_cons,
        List.mem_cons, ih, List.mem_cons, not_or]
      by_cases hname : name = v.name
      · simp [hname, hknown]
      · simp [hname]

theorem nodup_names_distinct (known : List String) (volumes : List Volume) :
    ((distinct known volumes).map Volume.name).Nodup := by
  induction volumes generalizing known with
  | nil => exact List.nodup_nil
  | cons v volumes ih =>
    unfold distinct
    by_cases hknown : known.contains v.name = true
    · rw [if_pos hknown]
      exact ih known
    · rw [if_neg hknown, List.map_cons, List.nodup_cons]
      exact ⟨fun hmem => (mem_names_distinct.mp hmem).2 List.mem_cons_self, ih _⟩

/-- The volumes of a group are volumes of its containers. -/
theorem mem_volumes {d : Group} {v : Volume} (h : v ∈ d.volumes) :
    ∃ c ∈ d.containers, v ∈ c.volumes :=
  List.mem_flatMap.mp ((distinct_sublist _ _).subset h)

/-! ### Nothing is lost -/

/-- Whether the tables of an object have exactly what the containers of a group declare: each volume
once, with its share and key, each port with its protocol, in the order of the containers, and for
each container the mounts of its own volumes. -/
structure Lossless (d : Group) (object : Object.Group) : Prop where
  names_nodup : (object.volumes.map Object.Volume.name).Nodup
  names : ∀ name, name ∈ object.volumes.map Object.Volume.name
    ↔ ∃ c ∈ d.containers, ∃ v ∈ c.volumes, name = some v.name
  shares : ∀ c ∈ d.containers, ∀ v ∈ c.volumes, ∀ entry ∈ object.volumes,
    entry.name = some v.name → ∃ file, entry.file = some file
      ∧ file.share = some v.share ∧ file.account = some v.account ∧ file.key = v.key
  ports_nodup : (object.ports.map Object.Port.port).Nodup
  ports : object.ports.map (fun p => (p.port.map UInt16.toNat, p.protocol))
    = d.containers.filterMap fun c => c.port.map fun port =>
      (some port.toNat, c.protocol.map Choice.label)
  mounts : List.Forall₂
    (fun c o => o.name = some c.name
      ∧ o.mounts = c.volumes.map fun v => ⟨some v.name, some v.mountPath, some v.readOnly⟩)
    d.containers object.containers

section Tables

variable {d : Group} (hd : d.WellFormed)

include hd

/-- The entry of a volume's name has the share and the key of the volume, whichever container the
entry was made for. -/
theorem file_of_mem_volumes {c : Container} (hc : c ∈ d.containers) {v : Volume}
    (hv : v ∈ c.volumes) {entry : Object.Volume} (hentry : entry ∈ (wireGroup d).volumes)
    (hname : entry.name = some v.name) : ∃ file, entry.file = some file
      ∧ file.share = some v.share ∧ file.account = some v.account ∧ file.key = v.key := by
  rw [volumes_wireGroup] at hentry
  obtain ⟨w, hw, rfl⟩ := List.mem_map.mp hentry
  obtain ⟨b, hb, hwb⟩ := mem_volumes hw
  have hsame := sameShare_of_name_eq hd.compatible (fun a ha => (hd.containers a ha).names) hb hc
    hwb hv (Option.some.inj hname)
  obtain ⟨hshare, haccount, hkey⟩ := Volume.sameShare_iff.mp hsame
  exact ⟨_, rfl, congrArg some hshare.symm, congrArg some haccount.symm, hkey.symm⟩

/-- No two containers of a well-formed group have one port on the wire. -/
theorem nodup_ports_wireGroup : ((wireGroup d).ports.map Object.Port.port).Nodup := by
  rw [ports_wireGroup, List.Nodup, List.pairwise_map, List.pairwise_filterMap]
  refine hd.compatible.imp_of_mem fun {a b} ha hb hab => ?_
  rintro _ hp _ hq hsame
  obtain ⟨port, hport, rfl⟩ := Option.map_eq_some_iff.mp hp
  obtain ⟨other, hother, rfl⟩ := Option.map_eq_some_iff.mp hq
  have heq := eq_of_ofNat_eq (hd.coherent.port a ha port hport)
    (hd.coherent.port b hb other hother) (Option.some.inj hsame)
  exact hab.port other hother (heq ▸ hport)

theorem ports_wireGroup_eq :
    (wireGroup d).ports.map (fun p => (p.port.map UInt16.toNat, p.protocol))
      = d.containers.filterMap fun c => c.port.map fun port =>
        (some port.toNat, c.protocol.map Choice.label) := by
  rw [ports_wireGroup, List.map_filterMap]
  refine List.filterMap_congr fun c hc => ?_
  cases hport : c.port with
  | none => simp [expandPort, hport]
  | some port =>
    have hfits : port.toNat < 65536 := hd.coherent.port c hc port hport
    simp [expandPort, hport, hfits]

theorem lossless_wireGroup : Lossless d (wireGroup d) where
  names_nodup := by
    have hnames : (d.volumes.map expandVolume).map Object.Volume.name
        = (d.volumes.map Volume.name).map some := by
      rw [List.map_map, List.map_map]
      rfl
    rw [volumes_wireGroup, hnames]
    exact (nodup_names_distinct [] _).map fun _ _ => Option.some.inj
  names name := by
    rw [volumes_wireGroup]
    constructor
    · intro hmem
      obtain ⟨_, hentry, rfl⟩ := List.mem_map.mp hmem
      obtain ⟨v, hv, rfl⟩ := List.mem_map.mp hentry
      obtain ⟨c, hc, hvc⟩ := mem_volumes hv
      exact ⟨c, hc, v, hvc, rfl⟩
    · rintro ⟨c, hc, v, hv, rfl⟩
      have hmem : v.name ∈ (d.containers.flatMap Container.volumes).map Volume.name :=
        List.mem_map_of_mem (List.mem_flatMap.mpr ⟨c, hc, hv⟩)
      obtain ⟨w, hw, hname⟩ :=
        List.mem_map.mp (mem_names_distinct.mpr ⟨hmem, List.not_mem_nil⟩)
      exact List.mem_map.mpr
        ⟨expandVolume w, List.mem_map_of_mem hw, congrArg some hname⟩
  shares _ hc _ hv _ hentry := file_of_mem_volumes hd hc hv hentry
  ports_nodup := nodup_ports_wireGroup hd
  ports := ports_wireGroup_eq hd
  mounts := by
    rw [containers_wireGroup, List.forall₂_map_right_iff, List.forall₂_same]
    exact fun c _ => ⟨rfl, mounts_wireContainer c⟩

end Tables

/-- A valid group has an object, and its tables have exactly what the containers declare. -/
theorem expand_lossless {d : Group} (hvalid : (binding.report d).isValid = true) :
    ∃ object, binding.expand d = .ok object ∧ Lossless d object := by
  have hd : d.WellFormed := isValid_report_iff.mp hvalid
  exact ⟨wireGroup d, expand_eq_ok hd.coherent.port, lossless_wireGroup hd⟩

/-- The volume that two containers share is in the table once. -/
theorem expand_lossless_pair : (binding.report pair).isValid = true
    ∧ ∃ object, binding.expand pair = .ok object ∧ Lossless pair object := by
  have hvalid : (binding.report pair).isValid = true := by decide +kernel
  exact ⟨hvalid, expand_lossless hvalid⟩

/-! ### Who may write -/

/-- Whether the containers of a group that share a volume agree on whether it may be written to. -/
def DeclaredAlike (d : Group) : Prop :=
  ∀ a ∈ d.containers, ∀ b ∈ d.containers, ∀ v ∈ a.volumes, ∀ w ∈ b.volumes,
    v.name = w.name → v.readOnly = w.readOnly

/-- Whether every volume of a group is in the table of an object to be written to or not, as its
container declares it. -/
def SentAsDeclared (d : Group) (object : Object.Group) : Prop :=
  ∀ c ∈ d.containers, ∀ v ∈ c.volumes,
    (shareOf object.volumes v.name).bind (·.readOnly) = some v.readOnly

/-- The entry of a name is that of the first volume of the name. -/
theorem shareOf_wireGroup (d : Group) (name : String) :
    shareOf (wireGroup d).volumes name
      = (d.firstNamed name).bind fun v => (expandVolume v).file := by
  rw [volumes_wireGroup, shareOf_map_volumes fun _ => rfl]

theorem sentAsDeclared_wireGroup_iff {d : Group} :
    SentAsDeclared d (wireGroup d) ↔ d.DeclaredAlike := by
  constructor
  · intro hsent a ha b hb v hv w hw hname
    have hv := hsent a ha v hv
    have hw := hsent b hb w hw
    rw [hname, hw] at hv
    exact (Option.some.inj hv).symm
  · intro halike c hc v hv
    obtain ⟨b, hb, first, hfirst, hfind, hname⟩ := firstNamed_of_mem hc hv
    rw [shareOf_wireGroup, hfind, ← halike b hb c hc first hfirst v hv hname]
    rfl

/-- A valid group has an object, which has every volume to be written to or not as the first
container declares it that has a volume of the name. That is as every container declares it exactly
if those that share a volume agree. -/
theorem expand_sentAsDeclared_iff {d : Group} (hvalid : (binding.report d).isValid = true) :
    ∃ object, binding.expand d = .ok object
      ∧ (∀ c ∈ d.containers, ∀ v ∈ c.volumes, ∃ first, d.firstNamed v.name = some first
        ∧ (shareOf object.volumes v.name).bind (·.readOnly) = some first.readOnly)
      ∧ (SentAsDeclared d object ↔ d.DeclaredAlike) := by
  have hd : d.WellFormed := isValid_report_iff.mp hvalid
  refine ⟨wireGroup d, expand_eq_ok hd.coherent.port, ?_, sentAsDeclared_wireGroup_iff⟩
  intro c hc v hv
  obtain ⟨_, -, first, -, hfind, -⟩ := firstNamed_of_mem hc hv
  refine ⟨first, hfind, ?_⟩
  rw [shareOf_wireGroup, hfind]
  rfl

/-- Where no container may write to the shared volume, it is sent as each of them declares it. -/
theorem expand_sentAsDeclared_pairLocked : (binding.report pairLocked).isValid = true
    ∧ ∃ object, binding.expand pairLocked = .ok object ∧ SentAsDeclared pairLocked object := by
  have hvalid : (binding.report pairLocked).isValid = true := by decide +kernel
  have halike : pairLocked.DeclaredAlike := by
    unfold DeclaredAlike
    decide +kernel
  obtain ⟨object, hexpand, -, hiff⟩ := expand_sentAsDeclared_iff hvalid
  exact ⟨hvalid, object, hexpand, hiff.mpr halike⟩

/-- Of the pair, the second container may write to the volume that the first one only reads. The
mount says so, but the volume that it mounts is read-only. -/
theorem pair_not_sentAsDeclared : (binding.report pair).isValid = true
    ∧ ∃ object, binding.expand pair = .ok object ∧ ¬ SentAsDeclared pair object
      ∧ ∃ o ∈ object.containers, ⟨some "data", some "/out", some false⟩ ∈ o.mounts
        ∧ (shareOf object.volumes "data").bind (·.readOnly) = some true := by
  have hvalid : (binding.report pair).isValid = true := by decide +kernel
  have hd : pair.WellFormed := isValid_report_iff.mp hvalid
  have hnot : ¬ pair.DeclaredAlike := by
    unfold DeclaredAlike
    decide +kernel
  refine ⟨hvalid, wireGroup pair, expand_eq_ok hd.coherent.port,
    fun hsent => hnot (sentAsDeclared_wireGroup_iff.mp hsent), ?_⟩
  decide +kernel

end Document.Group

end Provisioning
