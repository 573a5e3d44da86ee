import Provisioning.Proofs.Binding.Group.Tables

/-!
The references of an object that is read as a group. A container refers to the volumes of its group
by name and to the ports of its group by number, and nothing keeps an object from having several
entries under one of them, or none: it is the first that counts, under exactly the name or the
number. `Backed`, `MountedAs` and `Speaks` say what a reference comes to, `Unreadable` says what an
object must not be like; `flatten_references` says that nothing else matters.
-/

namespace Provisioning

namespace Object

/-- The ports that a container lists, if any. -/
def Container.ports (c : Container) : List ContainerPort := (c.properties.bind (·.ports)).getD []

/-- The number of the first port that a container lists. -/
def Container.number (c : Container) : Option UInt16 := c.ports.head?.bind (·.port)

end Object

namespace Document.Group

/-! ### Mounts and volumes -/

/-- Whether a mount is of a share: the mount has the name, and the first volume of the group with
exactly that name has the share. -/
def Backs (volumes : List Object.Volume) (m : Object.Mount) (name : String)
    (share : Object.FileShare) : Prop :=
  m.name = some name
    ∧ ∃ volume, IsFirst (fun v => v.name = some name) volumes volume ∧ volume.file = some share

/-- Whether there is a share that a mount is of. -/
def Backed (volumes : List Object.Volume) (m : Object.Mount) : Prop :=
  ∃ name share, Backs volumes m name share

/-- How a mount appears in a document: under its name and at its path, with the share and the
account of the volume. -/
structure MountedAs (volumes : List Object.Volume) (m : Object.Mount) (v : Volume) : Prop where
  backing : ∃ share, Backs volumes m v.name share
    ∧ v.share = share.share.getD "" ∧ v.account = share.account.getD ""
  path : v.mountPath = m.path.getD ""
  readOnly : v.readOnly = m.readOnly.getD false

theorem shareOf_eq_some_iff {volumes : List Object.Volume} {name : String}
    {share : Object.FileShare} : shareOf volumes name = some share
      ↔ ∃ volume, IsFirst (fun v => v.name = some name) volumes volume
        ∧ volume.file = some share := by
  rw [shareOf, Option.bind_eq_some_iff]
  refine exists_congr fun volume => and_congr_left fun _ => ?_
  exact find?_eq_some_iff_isFirst fun v => beq_iff_eq

theorem flattenMount_eq_some_iff {volumes : List Object.Volume} {prior : Option Container}
    {m : Object.Mount} {v : Volume} : flattenMount volumes prior m = some v
      ↔ ∃ name share, Backs volumes m name share ∧ v =
        { name
          mountPath := m.path.getD ""
          readOnly := m.readOnly.getD false
          share := share.share.getD ""
          account := share.account.getD ""
          key := priorKey prior name } := by
  simp only [flattenMount, Backs, ← shareOf_eq_some_iff, Option.bind_eq_bind,
    Option.bind_eq_some_iff, Option.pure_def, Option.some_inj]
  constructor
  · rintro ⟨name, hname, share, hshare, rfl⟩
    exact ⟨name, share, ⟨hname, hshare⟩, rfl⟩
  · rintro ⟨name, share, ⟨hname, hshare⟩, rfl⟩
    exact ⟨name, hname, share, hshare, rfl⟩

theorem backed_iff_isSome_flattenMount {volumes : List Object.Volume} {prior : Option Container}
    {m : Object.Mount} : Backed volumes m ↔ (flattenMount volumes prior m).isSome = true := by
  simp [Option.isSome_iff_exists, flattenMount_eq_some_iff, Backed]

instance (volumes : List Object.Volume) (m : Object.Mount) : Decidable (Backed volumes m) :=
  decidable_of_iff ((flattenMount volumes none m).isSome = true) backed_iff_isSome_flattenMount.symm

theorem mountedAs_of_flattenMount {volumes : List Object.Volume} {prior : Option Container}
    {m : Object.Mount} {v : Volume} (h : flattenMount volumes prior m = some v) :
    MountedAs volumes m v := by
  obtain ⟨name, share, hbacks, rfl⟩ := flattenMount_eq_some_iff.mp h
  exact ⟨⟨share, hbacks, rfl, rfl⟩, rfl, rfl⟩

/-! ### Ports and protocols -/

/-- What is spoken at a port of a container: the protocol of the first port of the group with its
number, if there is one and it has a protocol. -/
inductive Speaks (ports : List Object.Port) : Option UInt16 → Option Protocol → Prop
  | portless : Speaks ports none none
  | unlisted {number : UInt16} (hports : ∀ p ∈ ports, p.port ≠ some number) :
    Speaks ports (some number) none
  | silent {number : UInt16} {p : Object.Port}
    (hfirst : IsFirst (fun p => p.port = some number) ports p) (hprotocol : p.protocol = none) :
    Speaks ports (some number) none
  | labelled {number : UInt16} {p : Object.Port} {label : String} {protocol : Protocol}
    (hfirst : IsFirst (fun p => p.port = some number) ports p)
    (hprotocol : p.protocol = some label)
    (hlabel : Text.equalFold label (Choice.label protocol) = true) :
    Speaks ports (some number) (some protocol)

theorem protocolLabel_eq_some_iff {ports : List Object.Port} {port : Option UInt16}
    {label : String} : protocolLabel ports port = some label
      ↔ ∃ number p, port = some number ∧ IsFirst (fun p => p.port = some number) ports p
        ∧ p.protocol = some label := by
  cases port with
  | none => simp [protocolLabel]
  | some number =>
    have hfind (p : Object.Port) : (ports.find? fun p => p.port == some number) = some p
        ↔ IsFirst (fun p => p.port = some number) ports p :=
      find?_eq_some_iff_isFirst fun p => beq_iff_eq
    simp [protocolLabel, Option.bind_eq_some_iff, hfind]

theorem speaks_of_flattenLabel {ports : List Object.Port} {port : Option UInt16}
    {protocol : Option Protocol}
    (h : (protocolLabel ports port).mapM (flattenLabel : String → Except BindingError Protocol)
      = .ok protocol) : Speaks ports port protocol := by
  cases hlabel : protocolLabel ports port with
  | some label =>
    rw [hlabel] at h
    obtain ⟨spoken, hspoken, hprotocol⟩ := bind_eq_ok_iff.mp h
    cases hprotocol
    obtain ⟨number, p, rfl, hfirst, hp⟩ := protocolLabel_eq_some_iff.mp hlabel
    exact .labelled hfirst hp (flattenLabel_eq_ok_iff.mp hspoken)
  | none =>
    rw [hlabel] at h
    cases h
    cases port with
    | none => exact .portless
    | some number =>
      cases hfind : ports.find? fun p => p.port == some number with
      | none =>
        exact .unlisted fun p hp => by simpa using List.find?_eq_none.mp hfind p hp
      | some p =>
        have hfirst := (find?_eq_some_iff_isFirst fun p => beq_iff_eq).mp hfind
        refine .silent hfirst ?_
        simpa [protocolLabel, hfind] using hlabel

/-! ### Containers -/

/-- What is read off a container of an object, but for the keys of its volumes. -/
structure ReadOff (object : Object.Group) (c : Object.Container) (d : Container) : Prop where
  name : c.name = some d.name
  image : d.image = (c.properties.bind (·.image)).getD ""
  cpu : d.cpu = (c.requests.bind (·.cpu)).getD .zero
  memory : d.memory = (c.requests.bind (·.memory)).getD .zero
  environment : d.environment
    = .ofList (((c.properties.bind (·.environment)).getD []).filterMap flattenVariable)
  command : d.command = (c.properties.bind (·.command)).map fun words => " ".intercalate words
  volumes : List.Forall₂ (MountedAs object.volumes) (c.mounts.filter (Backed object.volumes))
    d.volumes
  port : d.port.map UInt32.toNat = c.number.map UInt16.toNat
  protocol : Speaks object.ports c.number d.protocol

/-- Why a container of an object cannot be read. -/
inductive ContainerUnreadable (ports : List Object.Port) (c : Object.Container) : Prop
  | nameless (hname : c.name = none)
  | bare (hproperties : c.properties = none)
  | protocol {number : UInt16} {p : Object.Port} {label : String} (hnumber : c.number = some number)
    (hfirst : IsFirst (fun p => p.port = some number) ports p)
    (hprotocol : p.protocol = some label) (hlabel : UnknownTo Protocol label)

theorem number_eq_firstPort {c : Object.Container} {properties : Object.ContainerProperties}
    (h : c.properties = some properties) : c.number = firstPort properties := by
  cases hports : properties.ports <;>
    simp [Object.Container.number, Object.Container.ports, firstPort, h, hports]

theorem readOff_of_flattenContainer {object : Object.Group} {prior : Option Group}
    {c : Object.Container} {d : Container}
    (h : flattenContainer object.ports object.volumes prior c = .ok d) : ReadOff object c d := by
  obtain ⟨name, properties, protocol, hname, hproperties, hprotocol, rfl⟩ :=
    flattenContainer_eq_ok_iff.mp h
  have hnumber : c.number = firstPort properties := number_eq_firstPort hproperties
  have hrequests : c.requests = properties.requirements.bind (·.requests) := by
    rw [Object.Container.requests, hproperties, Option.bind_some]
  refine ⟨hname, ?_, ?_, ?_, ?_, ?_, ?_, ?_, ?_⟩
  · rw [hproperties]
    rfl
  · rw [hrequests]
    rfl
  · rw [hrequests]
    rfl
  · rw [hproperties]
    rfl
  · rw [hproperties]
    rfl
  · rw [Object.Container.mounts, hproperties]
    exact forall₂_filter_filterMap (fun m => backed_iff_isSome_flattenMount)
      (fun m v => mountedAs_of_flattenMount) _
  · rw [hnumber]
    simp [readContainer, Function.comp_def]
  · rw [hnumber]
    exact speaks_of_flattenLabel hprotocol

theorem fails_flattenContainer_iff {ports : List Object.Port} {volumes : List Object.Volume}
    {prior : Option Group} {c : Object.Container} :
    Fails (flattenContainer ports volumes prior c) ↔ ContainerUnreadable ports c := by
  unfold flattenContainer
  cases hname : c.name with
  | none => exact iff_of_true (.of_error _) (.nameless hname)
  | some name =>
    cases hproperties : c.properties with
    | none => exact iff_of_true (.of_error _) (.bare hproperties)
    | some properties =>
      have hnumber : c.number = firstPort properties := number_eq_firstPort hproperties
      dsimp only
      rw [Fails.bind_pure_iff, Fails.option_mapM_iff]
      constructor
      · rintro ⟨label, hlabel, hfails⟩
        obtain ⟨number, p, hport, hfirst, hprotocol⟩ := protocolLabel_eq_some_iff.mp hlabel
        exact .protocol (hnumber.trans hport) hfirst hprotocol (fails_flattenLabel_iff.mp hfails)
      · rintro (h | h | ⟨hport, hfirst, hprotocol, hunknown⟩)
        · rw [hname] at h
          cases h
        · rw [hproperties] at h
          cases h
        · exact ⟨_, protocolLabel_eq_some_iff.mpr ⟨_, _, hnumber.symm.trans hport, hfirst,
            hprotocol⟩, fails_flattenLabel_iff.mpr hunknown⟩

/-! ### Groups -/

/-- Why an object cannot be read as a group. -/
inductive Unreadable (object : Object.Group) : Prop
  | bare (hproperties : object.properties = none)
  | systemless (hos : object.properties.bind (·.osType) = none)
  | addressType {label : String}
    (haddress : (object.properties.bind (·.address)).bind (·.type) = some label)
    (hlabel : UnknownTo AddressType label)
  | osType {label : String} (hos : object.properties.bind (·.osType) = some label)
    (hlabel : UnknownTo OsType label)
  | restartPolicy {label : String}
    (hrestart : object.properties.bind (·.restartPolicy) = some label)
    (hlabel : UnknownTo RestartPolicy label)
  | container {c : Object.Container} (hc : c ∈ object.containers)
    (hunreadable : ContainerUnreadable object.ports c)

theorem fails_flatten_iff {key : NaturalKey} {object : Object.Group} {prior : Option Group} :
    Fails (flatten key object prior) ↔ Unreadable object := by
  unfold flatten
  cases hproperties : object.properties with
  | none => exact iff_of_true (.of_error _) (.bare hproperties)
  | some properties =>
    have hports : (properties.address.map (·.ports)).getD [] = object.ports := by
      simp [Object.Group.ports, hproperties]
    have hcontainers : properties.containers = object.containers := by
      simp [Object.Group.containers, hproperties]
    dsimp only
    cases hos : properties.osType with
    | none =>
      refine iff_of_true ?_ (.systemless (by rw [hproperties]; exact hos))
      exact (Fails.bind_iff fun addressType => iff_true_intro (.of_error _)).mpr (.inr trivial)
    | some label =>
      dsimp only
      rw [hports, hcontainers]
      refine (Fails.bind_iff fun addressType => Fails.bind_iff fun osType =>
        Fails.bind_iff fun restartPolicy => Fails.bind_pure_iff).trans ?_
      rw [fails_flattenLabelOrUsual_iff, fails_flattenLabelOrUsual_iff, fails_flattenLabel_iff,
        Fails.mapM_iff]
      simp only [fails_flattenContainer_iff]
      constructor
      · rintro (⟨text, haddress, hunknown⟩ | hunknown | ⟨text, hrestart, hunknown⟩ | ⟨c, hc, h⟩)
        · exact .addressType (by rw [hproperties]; exact haddress) hunknown
        · exact .osType (by rw [hproperties]; exact hos) hunknown
        · exact .restartPolicy (by rw [hproperties]; exact hrestart) hunknown
        · exact .container hc h
      · intro h
        cases h with
        | bare h =>
          rw [hproperties] at h
          cases h
        | systemless h =>
          rw [hproperties, Option.bind_some, hos] at h
          cases h
        | addressType haddress hunknown =>
          rw [hproperties] at haddress
          exact .inl ⟨_, haddress, hunknown⟩
        | osType h hunknown =>
          rw [hproperties, Option.bind_some, hos] at h
          cases h
          exact .inr (.inl hunknown)
        | restartPolicy hrestart hunknown =>
          rw [hproperties] at hrestart
          exact .inr (.inr (.inl ⟨_, hrestart, hunknown⟩))
        | container hc h => exact .inr (.inr (.inr ⟨_, hc, h⟩))

theorem forall₂_readOff_of_flatten {key : NaturalKey} {object : Object.Group} {prior : Option Group}
    {d : Group} (h : flatten key object prior = .ok d) :
    List.Forall₂ (ReadOff object) object.containers d.containers := by
  obtain ⟨properties, addressType, label, osType, restartPolicy, containers, hproperties, -, -, -,
    -, hcontainers, rfl⟩ := flatten_eq_ok_iff.mp h
  have hports : (properties.address.map (·.ports)).getD [] = object.ports := by
    simp [Object.Group.ports, hproperties]
  have hvolumes : properties.volumes.getD [] = object.volumes := by
    simp [Object.Group.volumes, hproperties]
  have hall : properties.containers = object.containers := by
    simp [Object.Group.containers, hproperties]
  rw [hports, hvolumes, hall] at hcontainers
  exact (mapM_eq_ok_iff.mp hcontainers).imp fun c d => readOff_of_flattenContainer

/-- An object is read as a group unless it is unreadable. Container by container, what is read has
the mounts that are backed, in their order, the first port, and what is spoken there. -/
theorem flatten_references (key : NaturalKey) (object : Object.Group) (prior : Option Group) :
    (Fails (flatten key object prior) ↔ Unreadable object)
    ∧ ∀ d, flatten key object prior = .ok d →
      List.Forall₂ (ReadOff object) object.containers d.containers :=
  ⟨fails_flatten_iff, fun _ => forall₂_readOff_of_flatten⟩

/-- An object with several entries under one name and under one number. Only the first of them
count: the data has no share, and the second label of port 80 is never looked at. -/
def tangled : Object.Group where
  properties := some {
    osType := some "linux"
    address := some { ports := [
      { protocol := some "udp", port := some 81 },
      { protocol := some "tcp", port := some 80 },
      { protocol := some "SCTP", port := some 80 }] }
    volumes := some [
      { name := some "data" },
      { name := some "data", file := some { share := some "late" } },
      { name := some "DATA", file := some { share := some "upper", account := some "store" } },
      { name := some "logs", file := some { share := some "early", account := some "store" } },
      { name := some "logs", file := some { share := some "late" } }]
    containers := [
      { name := some "web"
        properties := some {
          ports := some [{ port := some 80 }, { port := some 81 }]
          mounts := some [
            { name := some "logs", path := some "/logs", readOnly := some true },
            { path := some "/nameless" },
            { name := some "data", path := some "/data" },
            { name := some "DATA" },
            { name := some "gone", path := some "/gone" }] } },
      { name := some "web", properties := some {} }] }

/-- What is read of it. -/
def untangled : Group where
  name := "group"
  resourceGroup := "rg"
  containers := [
    { name := "web", image := "", cpu := .zero, memory := .zero, port := some 80,
      protocol := some .tcp,
      volumes := [
        { name := "logs", mountPath := "/logs", readOnly := true, share := "early",
          account := "store" },
        { name := "DATA", mountPath := "", share := "upper", account := "store" }] },
    { name := "web", image := "", cpu := .zero, memory := .zero }]

theorem flatten_references_tangled :
    flatten ⟨"rg", "group"⟩ tangled none = .ok untangled
    ∧ List.Forall₂ (ReadOff tangled) tangled.containers untangled.containers := by
  have hflatten : flatten ⟨"rg", "group"⟩ tangled none = .ok untangled := by rfl
  exact ⟨hflatten, (flatten_references _ tangled none).2 _ hflatten⟩

end Document.Group

end Provisioning
