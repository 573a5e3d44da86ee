import Provisioning.Binding.Group
import Provisioning.Proofs.Traversal

/-!
Reading a group off an object. What `flatten` needs of an object and what it makes of it is one fact
(`flatten_eq_ok_iff`). The earlier document has no say in anything but the secrets: a group that is
read with one earlier document and a group that is read with another differ by the secrets that the
documents have to offer (`flatten_eq_map_restore`). The provisioning state has no say at all.
-/

namespace Provisioning.Document

/-! ### Secrets of an earlier document -/

/-- The volume with the key that an earlier document's container has for it. -/
def Volume.restore (prior : Option Container) (v : Volume) : Volume :=
  { v with key := Group.priorKey prior v.name }

/-- The container with the keys that an earlier document has for its volumes. -/
def Container.restore (prior : Option Group) (c : Container) : Container :=
  { c with
    volumes := c.volumes.map (Volume.restore (Group.priorContainer prior (some c.name))) }

namespace Group

/-- The credentials, from the one numbered `index` on, with the passwords that an earlier document
has for them. -/
def restoreCredentials (prior : Option Group) : (index : Nat) → List Credential → List Credential
  | _, [] => []
  | index, c :: credentials =>
    { c with password := priorPassword prior index c.server }
      :: restoreCredentials prior (index + 1) credentials

/-- The group with the secrets that an earlier document has for it, and no others. -/
def restore (prior : Option Group) (d : Group) : Group :=
  { d with
    credentials := restoreCredentials prior 0 d.credentials
    containers := d.containers.map (Container.restore prior) }

/-! ### What is read off an object -/

/-- What is read off a container with a name, properties and a protocol. -/
def readContainer (groupVolumes : List Object.Volume) (prior : Option Group) (name : String)
    (properties : Object.ContainerProperties) (protocol : Option Protocol) : Container where
  name
  image := properties.image.getD ""
  cpu := ((properties.requirements.bind (·.requests)).bind (·.cpu)).getD .zero
  memory := ((properties.requirements.bind (·.requests)).bind (·.memory)).getD .zero
  port := (firstPort properties).map fun number => UInt32.ofNat number.toNat
  protocol
  environment := .ofList ((properties.environment.getD []).filterMap flattenVariable)
  command := properties.command.map fun words => " ".intercalate words
  volumes := (properties.mounts.getD []).filterMap
    (flattenMount groupVolumes (priorContainer prior (some name)))

theorem flattenContainer_eq_ok_iff {groupPorts : List Object.Port}
    {groupVolumes : List Object.Volume} {prior : Option Group} {c : Object.Container}
    {d : Container} :
    flattenContainer groupPorts groupVolumes prior c = .ok d ↔ ∃ name properties protocol,
      c.name = some name ∧ c.properties = some properties
      ∧ (protocolLabel groupPorts (firstPort properties)).mapM flattenLabel = .ok protocol
      ∧ d = readContainer groupVolumes prior name properties protocol := by
  unfold flattenContainer
  cases hname : c.name with
  | none => simp
  | some name =>
    cases hproperties : c.properties with
    | none => simp
    | some properties =>
      dsimp only
      rw [bind_eq_ok_iff]
      constructor
      · rintro ⟨protocol, hprotocol, hd⟩
        exact ⟨name, properties, protocol, rfl, rfl, hprotocol, (Except.ok.inj hd).symm⟩
      · rintro ⟨_, _, protocol, ⟨⟩, ⟨⟩, hprotocol, rfl⟩
        exact ⟨protocol, hprotocol, rfl⟩

/-- What is read off an object with properties and the parts that have been read already. -/
def readGroup (key : NaturalKey) (object : Object.Group) (prior : Option Group)
    (properties : Object.GroupProperties) (addressType : AddressType) (osType : OsType)
    (restartPolicy : RestartPolicy) (containers : List Container) : Group where
  name := key.name
  location := normalizeLocation (object.location.getD "")
  resourceGroup := key.scope
  addressType
  osType
  restartPolicy
  label := properties.address.bind (·.label)
  ip := properties.address.bind (·.ip)
  fqdn := properties.address.bind (·.fqdn)
  tags := object.tags.getD .empty
  credentials := flattenCredentials prior 0 (properties.credentials.getD [])
  containers

/-- An object can be read as a group exactly if it has properties, an operating system, and no label
that is unknown; then there is one group that it is read as. -/
theorem flatten_eq_ok_iff {key : NaturalKey} {object : Object.Group} {prior : Option Group}
    {d : Group} :
    flatten key object prior = .ok d ↔
      ∃ properties addressType label osType restartPolicy containers,
        object.properties = some properties
        ∧ flattenLabelOrUsual (properties.address.bind (·.type)) = .ok addressType
        ∧ properties.osType = some label ∧ flattenLabel label = .ok osType
        ∧ flattenLabelOrUsual properties.restartPolicy = .ok restartPolicy
        ∧ properties.containers.mapM (flattenContainer
            ((properties.address.map (·.ports)).getD []) (properties.volumes.getD []) prior)
          = .ok containers
        ∧ d = readGroup key object prior properties addressType osType restartPolicy
          containers := by
  unfold flatten
  cases hproperties : object.properties with
  | none => simp
  | some properties =>
    dsimp only
    cases hlabel : properties.osType with
    | none =>
      constructor
      · intro h
        obtain ⟨_, -, h⟩ := bind_eq_ok_iff.mp h
        obtain ⟨_, h, -⟩ := bind_eq_ok_iff.mp h
        cases h
      · rintro ⟨_, _, label, _, _, _, ⟨⟩, -, hlabel', -⟩
        rw [hlabel] at hlabel'
        cases hlabel'
    | some label =>
      constructor
      · intro h
        obtain ⟨addressType, haddress, h⟩ := bind_eq_ok_iff.mp h
        obtain ⟨osType, hos, h⟩ := bind_eq_ok_iff.mp h
        obtain ⟨restartPolicy, hrestart, h⟩ := bind_eq_ok_iff.mp h
        obtain ⟨containers, hcontainers, h⟩ := bind_eq_ok_iff.mp h
        exact ⟨properties, addressType, label, osType, restartPolicy, containers, rfl, haddress,
          hlabel, hos, hrestart, hcontainers, (Except.ok.inj h).symm⟩
      · rintro ⟨_, addressType, _, osType, restartPolicy, containers, ⟨⟩, haddress, hlabel', hos,
          hrestart, hcontainers, rfl⟩
        rw [hlabel] at hlabel'
        cases hlabel'
        refine bind_eq_ok_iff.mpr ⟨addressType, haddress, ?_⟩
        refine bind_eq_ok_iff.mpr ⟨osType, hos, ?_⟩
        refine bind_eq_ok_iff.mpr ⟨restartPolicy, hrestart, ?_⟩
        exact bind_eq_ok_iff.mpr ⟨containers, hcontainers, rfl⟩

/-! ### What is said of an object that cannot be read -/

theorem residue_flattenLabel {α : Type} [Choice α] (label : String) :
    ErrorsIn (fun e => e.residue = .remaining) (flattenLabel label : Except BindingError α) := by
  unfold flattenLabel
  cases (Choice.ofLabel label : Except UnknownLabel α) with
  | error unknown => exact .error rfl
  | ok a => exact .ok a

theorem residue_flattenLabelOrUsual {α : Type} [Choice α] (label : Option String) :
    ErrorsIn (fun e => e.residue = .remaining)
      (flattenLabelOrUsual label : Except BindingError α) := by
  cases label with
  | none => exact .ok _
  | some label => exact residue_flattenLabel label

theorem residue_flattenContainer (groupPorts : List Object.Port)
    (groupVolumes : List Object.Volume) (prior : Option Group) (c : Object.Container) :
    ErrorsIn (fun e => e.residue = .remaining)
      (flattenContainer groupPorts groupVolumes prior c) := by
  unfold flattenContainer
  cases c.name with
  | none => exact .error rfl
  | some name =>
    cases c.properties with
    | none => exact .error rfl
    | some properties =>
      have hprotocol : ErrorsIn (fun e => e.residue = .remaining)
          ((protocolLabel groupPorts (firstPort properties)).mapM
            (flattenLabel : String → Except BindingError Protocol)) := by
        cases protocolLabel groupPorts (firstPort properties) with
        | none => exact .ok none
        | some label => exact (residue_flattenLabel label).bind fun protocol => .ok (some protocol)
      exact hprotocol.bind fun protocol => .ok _

/-- An object that cannot be read as a group is said to be there. -/
theorem residue_flatten (key : NaturalKey) (object : Object.Group) (prior : Option Group) :
    ErrorsIn (fun e => e.residue = .remaining) (flatten key object prior) := by
  unfold flatten
  cases object.properties with
  | none => exact .error rfl
  | some properties =>
    refine (residue_flattenLabelOrUsual _).bind fun addressType => ?_
    cases properties.osType with
    | none => exact .error rfl
    | some label =>
      refine (residue_flattenLabel label).bind fun osType => ?_
      refine (residue_flattenLabelOrUsual _).bind fun restartPolicy => ?_
      exact (ErrorsIn.mapM (residue_flattenContainer _ _ prior) _).bind fun containers => .ok _

/-! ### The say of the earlier document -/

theorem flattenMount_restore {groupVolumes : List Object.Volume} {p q : Option Container}
    (m : Object.Mount) :
    flattenMount groupVolumes q m = (flattenMount groupVolumes p m).map (Volume.restore q) := by
  unfold flattenMount
  cases m.name with
  | none => rfl
  | some name =>
    cases hshare : shareOf groupVolumes name with
    | none => simp [hshare]
    | some share => simp [hshare, Volume.restore]

theorem readContainer_restore {groupVolumes : List Object.Volume} {p q : Option Group}
    {name : String} {properties : Object.ContainerProperties} {protocol : Option Protocol} :
    readContainer groupVolumes q name properties protocol
      = (readContainer groupVolumes p name properties protocol).restore q := by
  have hvolumes : (properties.mounts.getD []).filterMap
        (flattenMount groupVolumes (priorContainer q (some name)))
      = ((properties.mounts.getD []).filterMap
          (flattenMount groupVolumes (priorContainer p (some name)))).map
            (Volume.restore (priorContainer q (some name))) := by
    rw [List.map_filterMap]
    exact List.filterMap_congr fun m _ => flattenMount_restore m
  simp only [readContainer, Container.restore, hvolumes]

theorem flattenCredentials_restore (p q : Option Group) (index : Nat)
    (credentials : List Object.Credential) :
    flattenCredentials q index credentials
      = restoreCredentials q index (flattenCredentials p index credentials) := by
  induction credentials generalizing index with
  | nil => rfl
  | cons c credentials ih => rw [flattenCredentials, flattenCredentials, restoreCredentials, ih]

theorem flattenContainer_eq_map_restore {groupPorts : List Object.Port}
    {groupVolumes : List Object.Volume} (p q : Option Group) (c : Object.Container) :
    flattenContainer groupPorts groupVolumes q c
      = (flattenContainer groupPorts groupVolumes p c).map (Container.restore q) := by
  unfold flattenContainer
  cases c.name with
  | none => rfl
  | some name =>
    cases c.properties with
    | none => rfl
    | some properties =>
      exact bind_eq_map_bind fun protocol => congrArg Except.ok readContainer_restore

/-- Reading with another earlier document changes the secrets and nothing else; what cannot be read
with the one cannot be read with the other. -/
theorem flatten_eq_map_restore (key : NaturalKey) (object : Object.Group) (p q : Option Group) :
    flatten key object q = (flatten key object p).map (Group.restore q) := by
  unfold flatten
  cases object.properties with
  | none => rfl
  | some properties =>
    refine bind_eq_map_bind fun addressType => ?_
    cases properties.osType with
    | none => rfl
    | some label =>
      refine bind_eq_map_bind fun osType => bind_eq_map_bind fun restartPolicy => ?_
      rw [mapM_eq_map_mapM (flattenContainer_eq_map_restore p q)]
      cases properties.containers.mapM (flattenContainer _ _ p) with
      | error e => rfl
      | ok containers =>
        refine congrArg Except.ok ?_
        rw [restore, ← flattenCredentials_restore]

theorem flatten_restore {key : NaturalKey} {object : Object.Group} {p : Option Group} {d : Group}
    (h : flatten key object p = .ok d) (q : Option Group) :
    flatten key object q = .ok (d.restore q) := by
  rw [flatten_eq_map_restore key object p q, h]
  rfl

/-- The provisioning state of an object does not change what is read off it. -/
theorem flatten_withState {key : NaturalKey} {object : Object.Group} {prior : Option Group}
    {d : Group} (h : flatten key object prior = .ok d) (s : State) :
    flatten key (object.withState s) prior = .ok d := by
  obtain ⟨properties, addressType, label, osType, restartPolicy, containers, hproperties,
    haddress, hlabel, hos, hrestart, hcontainers, rfl⟩ := flatten_eq_ok_iff.mp h
  refine flatten_eq_ok_iff.mpr ⟨{ properties with state := some s }, addressType, label, osType,
    restartPolicy, containers, ?_, haddress, hlabel, hos, hrestart, hcontainers, rfl⟩
  rw [Object.Group.withState, hproperties]
  rfl

end Group

end Provisioning.Document
