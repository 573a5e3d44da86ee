import Provisioning.Proofs.Binding.Group.Flatten
import Provisioning.Proofs.Choice
import Provisioning.Proofs.Dictionary
import Provisioning.Proofs.Document.GroupReport
import Provisioning.Proofs.Object.Lawful
import Provisioning.Proofs.Text.Segments

/-!
From a group to its object and back. A group whose ports fit the wire has an object, and what is
read off the object once the management plane has it is the group again, its secrets aside and with
the fields that the plane computes (`flatten_held`). The ports and the volumes of all containers are
held together; a container finds its own among them because containers of one port speak one
protocol, and because volumes of one name are one share. That is less than well-formedness asks for
(`WellFormed.coherent`): two containers may have one port, and a share may be mounted twice.
-/

namespace Provisioning.Document.Group

/-! ### Groups that can be told from their objects -/

/-- Whether the group can be told from its object: its ports fit the wire, its containers have a
protocol only for a port and the same one for the same port, and its volumes of one name are one
share. -/
structure Coherent (d : Group) : Prop where
  port : ∀ c ∈ d.containers, ∀ port, c.port = some port → port.toNat < 65536
  protocol : ∀ c ∈ d.containers, c.port = none → c.protocol = none
  protocols : ∀ a ∈ d.containers, ∀ b ∈ d.containers, a.port = b.port → a.protocol = b.protocol
  shares : ∀ a ∈ d.containers, ∀ b ∈ d.containers, ∀ v ∈ a.volumes, ∀ w ∈ b.volumes,
    v.name = w.name → v.share = w.share ∧ v.account = w.account

theorem Coherent.congr {c d : Group} (hd : d.Coherent) (h : c.containers = d.containers) :
    c.Coherent :=
  ⟨h ▸ hd.port, h ▸ hd.protocol, h ▸ hd.protocols, h ▸ hd.shares⟩

theorem toNat_lt_of_portInRange {port : UInt32} (h : portInRange port = true) :
    port.toNat < 65536 := by
  simp only [portInRange, Bool.and_eq_true, decide_eq_true_eq] at h
  omega

/-- Containers that get along have one port only if they have none. -/
theorem port_eq_none_of_compatible {a b : Container} (h : a.Compatible b)
    (hport : a.port = b.port) : a.port = none :=
  Option.eq_none_iff_forall_ne_some.mpr fun port ha => h.port port (hport.symm.trans ha) ha

theorem WellFormed.coherent {d : Group} (hd : d.WellFormed) : d.Coherent where
  port c hc port hport := toNat_lt_of_portInRange ((hd.containers c hc).port port hport)
  protocol c hc := (hd.containers c hc).protocol
  protocols a ha b hb hport := by
    rcases eq_or_compatible hd.compatible ha hb with rfl | hab | hba
    · rfl
    · have hnone := port_eq_none_of_compatible hab hport
      rw [(hd.containers a ha).protocol hnone, (hd.containers b hb).protocol (hport ▸ hnone)]
    · have hnone := port_eq_none_of_compatible hba hport.symm
      rw [(hd.containers a ha).protocol (hport ▸ hnone), (hd.containers b hb).protocol hnone]
  shares a ha b hb v hv w hw hname := by
    have hsame := sameShare_of_name_eq hd.compatible (fun c hc => (hd.containers c hc).names) ha hb
      hv hw hname
    obtain ⟨hshare, haccount, -⟩ := Volume.sameShare_iff.mp hsame
    exact ⟨hshare.symm, haccount.symm⟩

/-! ### Groups on the wire -/

/-- The properties of a container on the wire, if its port fits. -/
def wireProperties (c : Container) : Object.ContainerProperties where
  image := some c.image
  command := c.command.map words
  ports := c.port.map fun port => [{ port := some (UInt16.ofNat port.toNat) }]
  environment := unlessEmpty (c.environment.entries.map expandVariable)
  requirements := some { requests := some { memory := some c.memory, cpu := some c.cpu } }
  mounts := unlessEmpty (c.volumes.map expandMount)

/-- A container on the wire, if its port fits. -/
def wireContainer (c : Container) : Object.Container where
  name := some c.name
  properties := some (wireProperties c)

/-- A group on the wire, if the ports of its containers fit. -/
def wireGroup (d : Group) : Object.Group where
  name := some d.name
  location := some d.location
  tags := if d.tags.isEmpty then none else some d.tags
  properties := some {
    containers := d.containers.map wireContainer
    credentials := unlessEmpty (d.credentials.map expandCredential)
    restartPolicy := some (Choice.label d.restartPolicy)
    address := some d.expandAddress
    osType := some (Choice.label d.osType)
    volumes := unlessEmpty (d.volumes.map expandVolume) }

theorem expandContainer_eq_ok {c : Container}
    (hc : ∀ port, c.port = some port → port.toNat < 65536) :
    expandContainer c = .ok (wireContainer c) := by
  have hport : c.port.mapM (portOf c.name)
      = .ok (c.port.map fun port => UInt16.ofNat port.toNat) := by
    cases hport : c.port with
    | none => rfl
    | some port =>
      simp only [Option.mapM_some, portOf, if_pos (hc port hport)]
      rfl
  unfold expandContainer
  refine bind_eq_ok_iff.mpr ⟨_, hport, ?_⟩
  rw [Option.map_map]
  rfl

/-- A group whose ports fit the wire has an object. -/
theorem expand_eq_ok {d : Group}
    (hd : ∀ c ∈ d.containers, ∀ port, c.port = some port → port.toNat < 65536) :
    expand d = .ok (wireGroup d) := by
  unfold expand
  exact bind_eq_ok_iff.mpr
    ⟨_, mapM_eq_ok_map fun c hc => expandContainer_eq_ok (hd c hc), rfl⟩

/-! ### Lists that are left out when empty -/

@[simp] theorem getD_unlessEmpty {α : Type} (items : List α) :
    (unlessEmpty items).getD [] = items := by
  cases items <;> rfl

@[simp] theorem map_unlessEmpty {α β : Type} (f : α → β) (items : List α) :
    (unlessEmpty items).map (List.map f) = unlessEmpty (items.map f) := by
  cases items <;> rfl

theorem filterMap_flattenVariable (entries : List (String × String)) :
    (entries.map expandVariable).filterMap flattenVariable = entries := by
  rw [List.filterMap_map]
  exact (List.filterMap_congr fun _ _ => rfl).trans List.filterMap_some

theorem intercalate_words (command : String) : " ".intercalate (words command) = command := by
  have hblank : " " = String.ofList [' '] := rfl
  rw [words, hblank, Text.intercalate_splitText]

/-! ### Ports -/

theorem ofNat_toNat_of_lt {port : UInt32} (h : port.toNat < 65536) :
    UInt32.ofNat (UInt16.ofNat port.toNat).toNat = port := by
  rw [UInt16.toNat_ofNat_of_lt' h, UInt32.ofNat_toNat]

theorem eq_of_ofNat_eq {a b : UInt32} (ha : a.toNat < 65536) (hb : b.toNat < 65536)
    (h : UInt16.ofNat a.toNat = UInt16.ofNat b.toNat) : a = b := by
  rw [← ofNat_toNat_of_lt ha, h, ofNat_toNat_of_lt hb]

theorem firstPort_wireProperties (c : Container) :
    firstPort (wireProperties c) = c.port.map fun port => UInt16.ofNat port.toNat := by
  cases hport : c.port <;> simp [firstPort, wireProperties, hport]

/-- Among the ports of a coherent group, a container finds the protocol of its own. -/
theorem protocolLabel_expandPort {d : Group} (hd : d.Coherent) {c : Container}
    (hc : c ∈ d.containers) :
    protocolLabel (d.containers.filterMap expandPort)
        (c.port.map fun port => UInt16.ofNat port.toNat)
      = c.protocol.map Choice.label := by
  cases hport : c.port with
  | none =>
    rw [hd.protocol c hc hport]
    rfl
  | some port =>
    -- The first container of the port may be another one, but speaks the same protocol.
    obtain ⟨first, hfind⟩ := Option.isSome_iff_exists.mp
      (List.find?_isSome.mpr ⟨c, hc, by simp [expandPort, hport]⟩ :
        (d.containers.find? fun a =>
          (expandPort a).any fun p => p.port == some (UInt16.ofNat port.toNat)).isSome)
    have hfirst := List.mem_of_find?_eq_some hfind
    have hmatch := List.find?_some hfind
    simp only [expandPort, Option.any_map, Option.any_eq_true, beq_iff_eq,
      Option.some.injEq] at hmatch
    obtain ⟨other, hother, heq⟩ := hmatch
    have hsame : other = port :=
      eq_of_ofNat_eq (hd.port first hfirst other hother) (hd.port c hc port hport) heq
    subst hsame
    have hprotocol := hd.protocols first hfirst c hc (hother.trans hport.symm)
    simp only [Option.map_some, protocolLabel, List.find?_filterMap, hfind]
    simp [expandPort, hother, hprotocol]

theorem mapM_flattenLabel_label (protocol : Option Protocol) :
    (protocol.map Choice.label).mapM flattenLabel = .ok protocol := by
  cases protocol with
  | none => rfl
  | some p =>
    rw [Option.map_some, Option.mapM_some, flattenLabel_label]
    rfl

/-! ### Volumes -/

/-- The first volume of a name is kept. -/
theorem find?_distinct {known : List String} {name : String} {volumes : List Volume}
    (h : name ∉ known) :
    ((distinct known volumes).find? fun v => v.name == name)
      = volumes.find? fun v => v.name == name := by
  induction volumes generalizing known with
  | nil => rfl
  | cons v volumes ih =>
    unfold distinct
    by_cases hname : v.name = name
    · have hnew : ¬ known.contains v.name = true := by
        simpa [hname] using h
      rw [if_neg hnew, List.find?_cons_of_pos (by simpa using hname),
        List.find?_cons_of_pos (by simpa using hname)]
    · rw [List.find?_cons_of_neg (by simpa using hname)]
      by_cases hknown : known.contains v.name = true
      · rw [if_pos hknown, ih h]
      · rw [if_neg hknown, List.find?_cons_of_neg (by simpa using hname), ih]
        simpa [Ne.symm hname] using h

/-- The first volume of a name that a container of a group declares. -/
def firstNamed (d : Group) (name : String) : Option Volume :=
  (d.containers.flatMap Container.volumes).find? fun v => v.name == name

theorem firstNamed_of_mem {d : Group} {c : Container} (hc : c ∈ d.containers) {v : Volume}
    (hv : v ∈ c.volumes) : ∃ b ∈ d.containers, ∃ first ∈ b.volumes,
      d.firstNamed v.name = some first ∧ first.name = v.name := by
  have hmem : v ∈ d.containers.flatMap Container.volumes := List.mem_flatMap.mpr ⟨c, hc, hv⟩
  obtain ⟨first, hfirst⟩ := Option.isSome_iff_exists.mp
    (List.find?_isSome.mpr ⟨v, hmem, (by simp)⟩ : (d.firstNamed v.name).isSome)
  obtain ⟨b, hb, hfirstmem⟩ := List.mem_flatMap.mp (List.mem_of_find?_eq_some hfirst)
  exact ⟨b, hb, first, hfirstmem, hfirst, by simpa using List.find?_some hfirst⟩

/-- In a table that has an entry for each volume of a group, the share of a name is that of the
first volume of the name. -/
theorem shareOf_map_volumes {entry : Volume → Object.Volume}
    (hentry : ∀ v, (entry v).name = some v.name) (d : Group) (name : String) :
    shareOf (d.volumes.map entry) name = (d.firstNamed name).bind fun v => (entry v).file := by
  have htest : (fun u : Object.Volume => u.name == some name) ∘ entry
      = fun v => v.name == name := by
    funext v
    simp [hentry]
  rw [shareOf, List.find?_map, htest, volumes, find?_distinct List.not_mem_nil, Option.bind_map]
  rfl

/-- Among the volumes of a coherent group, a container finds the share of its own. -/
theorem shareOf_expandVolume {d : Group} (hd : d.Coherent) {c : Container}
    (hc : c ∈ d.containers) {v : Volume} (hv : v ∈ c.volumes) :
    ∃ readOnly, shareOf (d.volumes.map (Object.Volume.scrub ∘ expandVolume)) v.name
      = some { share := some v.share, readOnly, account := some v.account, key := none } := by
  obtain ⟨b, hb, first, hfirst, hfind, hname⟩ := firstNamed_of_mem hc hv
  obtain ⟨hshare, haccount⟩ := hd.shares b hb c hc first hfirst v hv hname
  refine ⟨some first.readOnly, ?_⟩
  rw [shareOf_map_volumes fun _ => rfl, hfind, ← hshare, ← haccount]
  rfl

theorem flattenMount_expandMount {d : Group} (hd : d.Coherent) {c : Container}
    (hc : c ∈ d.containers) (prior : Option Container) {v : Volume} (hv : v ∈ c.volumes) :
    flattenMount (d.volumes.map (Object.Volume.scrub ∘ expandVolume)) prior (expandMount v)
      = some (v.restore prior) := by
  obtain ⟨readOnly, hshare⟩ := shareOf_expandVolume hd hc hv
  simp only [flattenMount, expandMount, Option.bind_eq_bind, Option.bind_some, hshare]
  rfl

/-! ### The round trip -/

/-- A container is read back from the wire. -/
theorem flattenContainer_wireContainer {d : Group} (hd : d.Coherent) {c : Container}
    (hc : c ∈ d.containers) (prior : Option Group) :
    flattenContainer (d.containers.filterMap expandPort)
        (d.volumes.map (Object.Volume.scrub ∘ expandVolume)) prior (wireContainer c)
      = .ok (c.restore prior) := by
  refine flattenContainer_eq_ok_iff.mpr
    ⟨c.name, wireProperties c, c.protocol, rfl, rfl, ?_, ?_⟩
  · rw [firstPort_wireProperties, protocolLabel_expandPort hd hc, mapM_flattenLabel_label]
  · have hport : (firstPort (wireProperties c)).map (fun number => UInt32.ofNat number.toNat)
        = c.port := by
      rw [firstPort_wireProperties]
      cases hport : c.port with
      | none => rfl
      | some port =>
        simp only [Option.map_some]
        rw [ofNat_toNat_of_lt (hd.port c hc port hport)]
    have henvironment : Dictionary.ofList (((wireProperties c).environment.getD []).filterMap
        flattenVariable) = c.environment := by
      simp only [wireProperties, getD_unlessEmpty, filterMap_flattenVariable,
        Dictionary.ofList_entries]
    have hcommand : (wireProperties c).command.map (fun words => " ".intercalate words)
        = c.command := by
      cases hcommand : c.command with
      | none => simp [wireProperties, hcommand]
      | some command => simp [wireProperties, hcommand, intercalate_words]
    have hvolumes : ((wireProperties c).mounts.getD []).filterMap
          (flattenMount (d.volumes.map (Object.Volume.scrub ∘ expandVolume))
            (priorContainer prior (some c.name)))
        = c.volumes.map (Volume.restore (priorContainer prior (some c.name))) := by
      simp only [wireProperties, getD_unlessEmpty, List.filterMap_map]
      exact (List.filterMap_congr fun v hv => flattenMount_expandMount hd hc _ hv).trans
        (congrFun List.filterMap_eq_map _)
    simp only [readContainer, hport, henvironment, hcommand, hvolumes]
    rfl

theorem flattenCredentials_expandCredential (prior : Option Group) (index : Nat)
    (credentials : List Credential) :
    flattenCredentials prior index
        (credentials.map (Object.Credential.scrub ∘ expandCredential))
      = restoreCredentials prior index credentials := by
  induction credentials generalizing index with
  | nil => rfl
  | cons c credentials ih =>
    rw [List.map_cons, flattenCredentials, restoreCredentials, ih]
    rfl

/-- A group as the management plane holds it: its location is normalised, and the fields that the
plane computes are there. -/
def held (d : Group) : Group :=
  { d with
    location := normalizeLocation d.location
    ip := some (Object.stableAddress ⟨d.resourceGroup, d.name⟩)
    fqdn := d.label.map (Object.groupHost d.location) }

/-- A coherent group is read back from the object that the management plane holds. -/
theorem flatten_held {d : Group} (hd : d.Coherent) (id : String) (prior : Option Group) :
    flatten (binding.key d) (Managed.filedAs id (binding.key d) (wireGroup d)) prior
      = .ok (d.held.restore prior) := by
  refine flatten_eq_ok_iff.mpr ⟨_, d.addressType, Choice.label d.osType, d.osType,
    d.restartPolicy, d.containers.map (Container.restore prior), rfl,
    flattenLabelOrUsual_label d.addressType, rfl, flattenLabel_label d.osType,
    flattenLabelOrUsual_label d.restartPolicy, ?_, ?_⟩
  · refine mapM_eq_ok_iff.mpr ?_
    change List.Forall₂ (fun c r => flattenContainer (d.containers.filterMap expandPort)
      (((unlessEmpty (d.volumes.map expandVolume)).map (List.map Object.Volume.scrub)).getD [])
      prior c = .ok r) (d.containers.map wireContainer) _
    rw [map_unlessEmpty, getD_unlessEmpty, List.map_map, List.forall₂_map_left_iff,
      List.forall₂_map_right_iff, List.forall₂_same]
    exact fun c hc => flattenContainer_wireContainer hd hc prior
  · have hcredentials : flattenCredentials prior 0 (((unlessEmpty
          (d.credentials.map expandCredential)).map (List.map Object.Credential.scrub)).getD [])
        = restoreCredentials prior 0 d.credentials := by
      rw [map_unlessEmpty, getD_unlessEmpty, List.map_map, flattenCredentials_expandCredential]
    have htags : (wireGroup d).tags.getD .empty = d.tags := Dictionary.getD_unlessEmpty d.tags
    simp only [restore, held, readGroup]
    rw [Group.mk.injEq]
    exact ⟨rfl, rfl, rfl, rfl, rfl, rfl, rfl, rfl, rfl, htags.symm, hcredentials.symm, rfl⟩

end Provisioning.Document.Group
