import Provisioning.Proofs.Binding.Group.Faithful
import Provisioning.Proofs.Document.Secrets

/-!
The round trip of groups. A valid group comes back from the object that the management plane keeps
(`valid_group_round_trip`), with the secrets that its reader knows. What is read off any object, one
that no document describes included, comes back as it is (`flatten_filedAs_of_flatten`): reading
drops mounts without a volume, all ports of a container but the first and all protocols of a port
but the first, and what is left is coherent.
-/

namespace Provisioning

/-! ### Objects that are read -/

namespace Object

/-- What a container requests of its host. -/
def Container.requests (c : Container) : Option Requests :=
  (c.properties.bind (·.requirements)).bind (·.requests)

/-- The containers of a group, if it has properties. -/
def Group.containers (g : Group) : List Container := (g.properties.map (·.containers)).getD []

/-- Whether the numbers of a group are finite, and the names that its containers have are different
ones. -/
structure Group.Regular (g : Group) : Prop where
  cpu : ∀ c ∈ g.containers, ∀ r ∈ c.requests, ∀ x ∈ r.cpu, x.isFinite = true
  memory : ∀ c ∈ g.containers, ∀ r ∈ c.requests, ∀ x ∈ r.memory, x.isFinite = true
  names : (g.containers.filterMap Container.name).Nodup

end Object

namespace Document.Group

/-- A port of the wire is the same number in a document. -/
theorem toNat_ofNat_toNat (number : UInt16) :
    (UInt32.ofNat number.toNat).toNat = number.toNat :=
  UInt32.toNat_ofNat_of_lt' (Nat.lt_trans number.toNat_lt (by decide))

theorem ofNat_toNat_injective :
    Function.Injective fun number : UInt16 => UInt32.ofNat number.toNat := by
  intro a b hab
  have hnumber := congrArg UInt32.toNat hab
  rw [toNat_ofNat_toNat, toNat_ofNat_toNat] at hnumber
  exact UInt16.toNat_inj.mp hnumber

/-- What a volume has that was read off a mount: its share and its key depend on its name alone. -/
theorem flattenMount_eq_some {groupVolumes : List Object.Volume} {prior : Option Container}
    {m : Object.Mount} {v : Volume} (h : flattenMount groupVolumes prior m = some v) :
    v.share = ((shareOf groupVolumes v.name).bind (·.share)).getD ""
    ∧ v.account = ((shareOf groupVolumes v.name).bind (·.account)).getD ""
    ∧ v.key = priorKey prior v.name := by
  obtain ⟨name, -, h⟩ := Option.bind_eq_some_iff.mp h
  obtain ⟨share, hshare, h⟩ := Option.bind_eq_some_iff.mp h
  cases h
  simp [hshare]

/-- A number that is finite where it is given is a number, given or not. -/
theorem isNaN_getD_zero {x : Option Binary64} (h : ∀ y ∈ x, y.isFinite = true) :
    (x.getD .zero).isNaN = false := by
  cases x with
  | none => rfl
  | some y => exact Binary64.isNaN_of_isFinite (h y rfl)

section Read

variable {key : NaturalKey} {object : Object.Group} {prior : Option Group} {d : Group}

/-- The containers of a group that was read were read off those of the object, one by one. -/
theorem forall₂_of_flatten (h : flatten key object prior = .ok d) :
    ∃ groupPorts groupVolumes, List.Forall₂
      (fun o c => ∃ name properties protocol, o.name = some name ∧ o.properties = some properties
        ∧ (protocolLabel groupPorts (firstPort properties)).mapM flattenLabel
          = (.ok protocol : Except BindingError (Option Protocol))
        ∧ c = readContainer groupVolumes prior name properties protocol)
      object.containers d.containers := by
  obtain ⟨properties, _, _, _, _, containers, hproperties, -, -, -, -, hcontainers, rfl⟩ :=
    flatten_eq_ok_iff.mp h
  have hobject : object.containers = properties.containers := by
    rw [Object.Group.containers, hproperties]
    rfl
  rw [hobject]
  exact ⟨_, _, (mapM_eq_ok_iff.mp hcontainers).imp fun _ _ => flattenContainer_eq_ok_iff.mp⟩

/-- What is read off an object is coherent: the port of a container decides on its protocol, and the
name of a volume on its share. -/
theorem coherent_of_flatten (h : flatten key object prior = .ok d) : d.Coherent := by
  obtain ⟨groupPorts, groupVolumes, hcontainers⟩ := forall₂_of_flatten h
  refine ⟨?_, ?_, ?_, ?_⟩
  · intro c hc port hport
    obtain ⟨_, -, _, _, _, -, -, -, rfl⟩ := exists_mem_of_forall₂ hcontainers hc
    obtain ⟨number, -, rfl⟩ := Option.map_eq_some_iff.mp hport
    rw [toNat_ofNat_toNat]
    exact number.toNat_lt
  · intro c hc hport
    obtain ⟨_, -, _, _, _, -, -, hprotocol, rfl⟩ := exists_mem_of_forall₂ hcontainers hc
    rw [Option.map_eq_none_iff.mp hport] at hprotocol
    exact (Except.ok.inj hprotocol).symm
  · intro a ha b hb hport
    obtain ⟨_, -, _, _, _, -, -, hprotocol, rfl⟩ := exists_mem_of_forall₂ hcontainers ha
    obtain ⟨_, -, _, _, _, -, -, hprotocol', rfl⟩ := exists_mem_of_forall₂ hcontainers hb
    have hsame := Option.map_injective ofNat_toNat_injective hport
    rw [hsame] at hprotocol
    exact Except.ok.inj (hprotocol.symm.trans hprotocol')
  · intro a ha b hb v hv w hw hname
    obtain ⟨_, -, _, _, _, -, -, -, rfl⟩ := exists_mem_of_forall₂ hcontainers ha
    obtain ⟨_, -, _, _, _, -, -, -, rfl⟩ := exists_mem_of_forall₂ hcontainers hb
    obtain ⟨_, -, hv⟩ := List.mem_filterMap.mp hv
    obtain ⟨_, -, hw⟩ := List.mem_filterMap.mp hw
    obtain ⟨hshare, haccount, -⟩ := flattenMount_eq_some hv
    obtain ⟨hshare', haccount', -⟩ := flattenMount_eq_some hw
    rw [hshare, haccount, hshare', haccount', hname]
    exact ⟨rfl, rfl⟩

/-- What is read off an object whose containers have different names has all its secrets to
offer. -/
theorem keyed_of_flatten (hnames : (object.containers.filterMap Object.Container.name).Nodup)
    (h : flatten key object prior = .ok d) : d.Keyed := by
  obtain ⟨groupPorts, groupVolumes, hcontainers⟩ := forall₂_of_flatten h
  constructor
  · have hnamed : object.containers.map Object.Container.name
        = d.containers.map fun c => some c.name := by
      refine map_eq_map_of_forall₂ hcontainers fun o _ c _ ho => ?_
      obtain ⟨_, _, _, hname, -, -, rfl⟩ := ho
      exact hname
    have hsame : object.containers.filterMap Object.Container.name
        = d.containers.map Container.name := by
      calc object.containers.filterMap Object.Container.name
          = (object.containers.map Object.Container.name).filterMap id := by
            rw [List.filterMap_map, Function.id_comp]
        _ = (d.containers.map fun c => some c.name).filterMap id := by rw [hnamed]
        _ = d.containers.map Container.name := by
            rw [List.filterMap_map]
            exact congrFun List.filterMap_eq_map _
    rw [← hsame]
    exact hnames
  · intro c hc v hv w hw hname
    obtain ⟨_, -, _, _, _, -, -, -, rfl⟩ := exists_mem_of_forall₂ hcontainers hc
    obtain ⟨_, -, hv⟩ := List.mem_filterMap.mp hv
    obtain ⟨_, -, hw⟩ := List.mem_filterMap.mp hw
    obtain ⟨-, -, hkey⟩ := flattenMount_eq_some hv
    obtain ⟨-, -, hkey'⟩ := flattenMount_eq_some hw
    rw [hkey, hkey', hname]

/-- What is read off an object whose numbers are finite has numbers in it. -/
theorem numbered_of_flatten (hobject : object.Regular) (h : flatten key object prior = .ok d) :
    d.Numbered := by
  obtain ⟨groupPorts, groupVolumes, hcontainers⟩ := forall₂_of_flatten h
  intro c hc
  obtain ⟨o, ho, _, properties, _, -, hproperties, -, rfl⟩ := exists_mem_of_forall₂ hcontainers hc
  have hrequests : properties.requirements.bind (·.requests) = o.requests := by
    rw [Object.Container.requests, hproperties]
    rfl
  constructor
  · refine isNaN_getD_zero fun x hx => ?_
    obtain ⟨r, hr, hx⟩ := Option.bind_eq_some_iff.mp hx
    exact hobject.cpu o ho r (hrequests ▸ hr) x hx
  · refine isNaN_getD_zero fun x hx => ?_
    obtain ⟨r, hr, hx⟩ := Option.bind_eq_some_iff.mp hx
    exact hobject.memory o ho r (hrequests ▸ hr) x hx

/-- The location of a group that was read is written the way the management plane writes it. -/
theorem normalizeLocation_of_flatten (h : flatten key object prior = .ok d) :
    normalizeLocation d.location = d.location := by
  obtain ⟨_, _, _, _, _, _, -, -, -, -, -, -, rfl⟩ := flatten_eq_ok_iff.mp h
  exact normalizeLocation_normalizeLocation _

end Read

/-! ### The round trip -/

/-- The secrets of a group do not depend on what the management plane computes. -/
theorem restore_held (p : Option Group) (d : Group) : d.held.restore p = (d.restore p).held := by
  simp only [held, restore]

/-- A coherent group that has all its secrets to offer is read back by whoever knows it. -/
theorem flatten_filedAs_self {d : Group} (hd : d.Coherent) (hkeyed : d.Keyed) (id : String) :
    flatten (binding.key d) (Managed.filedAs id (binding.key d) (wireGroup d)) (some d)
      = .ok d.held := by
  have hread := flatten_held hd id (some d)
  rw [restore_held, restore_self hkeyed] at hread
  exact hread

/-- A valid group has an object. From that object, as the management plane keeps it, the group is
read back with its location normalised and with what the plane computes: without secrets by whoever
knows none, and with all of them by whoever knows the group. -/
theorem valid_group_round_trip {d : Group} (hvalid : (binding.report d).isValid = true)
    (id : String) :
    ∃ object kept, binding.expand d = .ok object
      ∧ kept = Managed.filedAs id (binding.key d) object
      ∧ binding.flatten (binding.key d) kept none
        = .ok ({ d.redacted with location := normalizeLocation d.location }.computedFrom kept)
      ∧ binding.flatten (binding.key d) kept (some d)
        = .ok ({ d with location := normalizeLocation d.location }.computedFrom kept) := by
  have hd : d.WellFormed := isValid_report_iff.mp hvalid
  refine ⟨wireGroup d, _, expand_eq_ok hd.coherent.port, rfl, ?_, ?_⟩
  · have hread := flatten_held hd.coherent id none
    rw [restore_held, restore_none] at hread
    exact hread
  · exact flatten_filedAs_self hd.coherent hd.keyed id

/-- Two containers, one of which can be reached, with a volume that they share. -/
def pair : Group where
  name := "pair"
  location := "West Europe"
  resourceGroup := "rg"
  label := some "pair"
  credentials := [{ server := "registry", username := "user", password := some "password" }]
  containers := [
    { name := "web", image := "nginx", cpu := .ofNat 1, memory := .ofNat 2
      port := some 80, protocol := some .tcp
      volumes := [⟨"data", "/in", true, "share", "account", some "key"⟩] },
    { name := "log", image := "busybox", cpu := .ofNat 1, memory := .ofNat 1
      command := some "tail -f /out/log"
      volumes := [⟨"data", "/out", false, "share", "account", some "key"⟩] }]

/-- The pair, none of its containers being allowed to write to the volume. -/
def pairLocked : Group :=
  { pair with
    containers := pair.containers.map fun c =>
      { c with volumes := c.volumes.map fun v => { v with readOnly := true } } }

/-- A valid group that comes back. -/
theorem pair_round_trip : (binding.report pair).isValid = true ∧ ∃ object kept,
    binding.expand pair = .ok object
    ∧ kept = Managed.filedAs "/pair" (binding.key pair) object
    ∧ binding.flatten (binding.key pair) kept (some pair)
      = .ok ({ pair with location := normalizeLocation pair.location }.computedFrom kept) := by
  have hvalid : (binding.report pair).isValid = true := by decide +kernel
  obtain ⟨object, kept, hexpand, hkept, -, hread⟩ := valid_group_round_trip hvalid "/pair"
  exact ⟨hvalid, object, kept, hexpand, hkept, hread⟩

/-- What was read off an object comes back from the object that it describes itself, by whoever
knows it, up to what the management plane computes. -/
theorem flatten_filedAs_of_flatten {key : NaturalKey} {object : Object.Group}
    {prior : Option Group} {d : Group} (hobject : object.Regular)
    (h : flatten key object prior = .ok d) (id : String) :
    expand d = .ok (wireGroup d) ∧ ∃ d', flatten key (Managed.filedAs id key (wireGroup d)) (some d)
      = .ok d' ∧ d'.uncomputed = d.uncomputed ∧ (diff d' d).isEmpty = true := by
  have hcoherent := coherent_of_flatten h
  have hkey : binding.key d = key := faithful.key_flatten h
  have hread := flatten_filedAs_self hcoherent (keyed_of_flatten hobject.names h) id
  rw [hkey] at hread
  refine ⟨expand_eq_ok hcoherent.port, d.held, hread, ?_, ?_⟩
  · simp only [uncomputed, held, normalizeLocation_of_flatten h]
  · exact isEmpty_diff_iff.mpr
      (agrees_of_canonical_eq (canonical_held d) (numbered_of_flatten hobject h))

end Document.Group

end Provisioning
