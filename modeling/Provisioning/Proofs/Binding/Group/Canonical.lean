import Provisioning.Proofs.Binding.Group.Diff
import Provisioning.Proofs.Binding.Group.Flatten
import Provisioning.Proofs.Document.GroupReport
import Provisioning.Proofs.Document.Secrets
import Provisioning.Proofs.Number.Binary64
import Provisioning.Proofs.Text.LowerCase

/-!
Groups up to what the management plane makes of them: it writes locations its own way and computes
addresses. Two groups that agree have the same canonical form as soon as they have the same secrets
(`Agrees.canonical_restore`), and a group whose volumes have one key by name, as those of a
well-formed one do, has all its secrets to offer (`restore_self`); so a well-formed group is found
again under the one that agrees with it.
-/

namespace Provisioning.Document

namespace Group

/-- The group without the fields that the management plane computes, its location the way the
management plane writes it. -/
def canonical (d : Group) : Group :=
  { d with location := normalizeLocation d.location, ip := none, fqdn := none }

theorem canonical_restore (p : Option Group) (d : Group) :
    (d.restore p).canonical = d.canonical.restore p := by
  simp only [canonical, restore]

theorem credentials_of_canonical {c d : Group} (h : c.canonical = d.canonical) :
    c.credentials = d.credentials := by
  simpa only [canonical] using congrArg Group.credentials h

theorem containers_of_canonical {c d : Group} (h : c.canonical = d.canonical) :
    c.containers = d.containers := by
  simpa only [canonical] using congrArg Group.containers h

end Group

/-! ### Groups that agree -/

theorem Volume.Agrees.restore {v w : Volume} (h : v.Agrees w) (p : Option Container) :
    v.restore p = w.restore p := by
  obtain ⟨hname, hpath, hreadOnly, hshare, haccount, -⟩ := h
  simp only [Volume.restore, hname, hpath, hreadOnly, hshare, haccount]

theorem Container.Agrees.restore {c d : Container} (h : c.Agrees d) (hd : d.WellFormed)
    (p : Option Group) : c.restore p = d.restore p := by
  obtain ⟨hname, himage, hcpu, hmemory, hport, hprotocol, henvironment, hcommand, hvolumes⟩ := h
  have hrestored : c.volumes.map (Volume.restore (Group.priorContainer p (some d.name)))
      = d.volumes.map (Volume.restore (Group.priorContainer p (some d.name))) :=
    map_eq_map_of_forall₂ hvolumes fun v _ w _ hvw => hvw.restore _
  simp only [Container.restore, hname, himage, Binary64.eq_of_same hcpu hd.cpu,
    Binary64.eq_of_same hmemory hd.memory, hport, hprotocol, henvironment, hcommand, hrestored]

namespace Group

theorem restoreCredentials_eq_of_agrees {cs ds : List Credential}
    (h : List.Forall₂ Credential.Agrees cs ds) (p : Option Group) (index : Nat) :
    restoreCredentials p index cs = restoreCredentials p index ds := by
  induction h generalizing index with
  | nil => rfl
  | cons hcd _ ih =>
    rw [restoreCredentials, restoreCredentials, ih, hcd.server, hcd.username]

/-- Groups that agree are the same, what the management plane makes of them aside, once they have
the same secrets. -/
theorem Agrees.canonical_restore {c d : Group} (h : c.Agrees d) (hd : d.WellFormed)
    (p : Option Group) : (c.restore p).canonical = (d.restore p).canonical := by
  have hcontainers : c.containers.map (Container.restore p)
      = d.containers.map (Container.restore p) :=
    map_eq_map_of_forall₂ h.containers fun a _ b hb hab => hab.restore (hd.containers b hb) p
  simp only [canonical, restore, h.name, h.location, h.resourceGroup, h.osType,
    h.restartPolicy, h.label, h.tags, restoreCredentials_eq_of_agrees h.credentials,
    hcontainers, addressType_eq c.addressType d.addressType]

/-! ### Secrets to offer -/

/-- Whether the group has all its secrets to offer: its containers have different names, and each of
them has one key for all volumes of one name. -/
structure Keyed (d : Group) : Prop where
  names : (d.containers.map Container.name).Nodup
  keys : ∀ c ∈ d.containers, ∀ v ∈ c.volumes, ∀ w ∈ c.volumes, v.name = w.name → v.key = w.key

theorem WellFormed.keyed {d : Group} (hd : d.WellFormed) : d.Keyed where
  names := List.pairwise_map.mpr (hd.compatible.imp fun h => h.name)
  keys c hc _ hv _ hw hname :=
    congrArg Volume.key (List.inj_on_of_nodup_map (hd.containers c hc).names hv hw hname)

theorem Keyed.congr {c d : Group} (hd : d.Keyed) (h : c.containers = d.containers) : c.Keyed :=
  ⟨h ▸ hd.names, h ▸ hd.keys⟩

theorem restoreCredentials_none (index : Nat) (credentials : List Credential) :
    restoreCredentials none index credentials = credentials.map Credential.redacted := by
  induction credentials generalizing index with
  | nil => rfl
  | cons c credentials ih =>
    rw [restoreCredentials, ih]
    rfl

/-- Whoever knows no document gets no secrets. -/
theorem restore_none (d : Group) : d.restore none = d.redacted := by
  rw [restore, restoreCredentials_none]
  rfl

theorem restoreCredentials_self {d : Group} {index : Nat} {credentials : List Credential}
    (h : credentials = d.credentials.drop index) :
    restoreCredentials (some d) index credentials = credentials := by
  induction credentials generalizing index with
  | nil => rfl
  | cons c credentials ih =>
    have hget : d.credentials[index]? = some c := by
      rw [← List.head?_drop, ← h]
      rfl
    have hrest : credentials = d.credentials.drop (index + 1) := by
      rw [← List.tail_drop, ← h]
      rfl
    have hpassword : priorPassword (some d) index c.server = c.password := by
      simp [priorPassword, hget]
    rw [restoreCredentials, ih hrest, hpassword]

/-- The first volume of a name has the key of all of them. -/
theorem priorKey_self {c : Container} {v : Volume}
    (hkeys : ∀ w ∈ c.volumes, w.name = v.name → w.key = v.key) (hv : v ∈ c.volumes) :
    priorKey (some c) v.name = v.key := by
  obtain ⟨first, hfirst⟩ := Option.isSome_iff_exists.mp
    (List.find?_isSome.mpr ⟨v, hv, (by simp)⟩ :
      (c.volumes.find? fun w => w.name == v.name).isSome)
  have hname : first.name = v.name := by simpa using List.find?_some hfirst
  simpa [priorKey, hfirst] using hkeys first (List.mem_of_find?_eq_some hfirst) hname

theorem restore_container_self {d : Group} (hd : d.Keyed) {c : Container}
    (hc : c ∈ d.containers) : c.restore (some d) = c := by
  have hprior : priorContainer (some d) (some c.name) = some c := by
    simpa [priorContainer] using find?_eq_some_of_nodup hd.names hc
  have hvolumes : c.volumes.map (Volume.restore (some c)) = c.volumes := by
    refine (List.map_congr_left fun v hv => ?_).trans (List.map_id _)
    have hkey := priorKey_self (fun w hw hname => hd.keys c hc w hw v hv hname) hv
    simp only [Volume.restore, hkey, id]
  simp only [Container.restore, hprior, hvolumes]

/-- A group that has all its secrets to offer does not change when they are taken from it. -/
theorem restore_self {d : Group} (hd : d.Keyed) : d.restore (some d) = d := by
  have hcontainers : d.containers.map (Container.restore (some d)) = d.containers :=
    (List.map_congr_left fun c hc => restore_container_self hd hc).trans (List.map_id _)
  simp only [restore, restoreCredentials_self (List.drop_zero).symm, hcontainers]

/-- Groups with one canonical form have the same secrets to offer. -/
theorem restore_congr {d e : Group} (h : e.canonical = d.canonical) (c : Group) :
    c.restore (some e) = c.restore (some d) := by
  have hcredentials := credentials_of_canonical h
  have hcontainers := containers_of_canonical h
  have hpassword (index : Nat) (server : String) :
      priorPassword (some e) index server = priorPassword (some d) index server := by
    simp only [priorPassword, Option.bind_eq_bind, Option.bind_some, hcredentials]
  have hprior (name : Option String) :
      priorContainer (some e) name = priorContainer (some d) name := by
    simp only [priorContainer, Option.bind_eq_bind, Option.bind_some, hcontainers]
  have hall (index : Nat) (credentials : List Credential) :
      restoreCredentials (some e) index credentials
        = restoreCredentials (some d) index credentials := by
    induction credentials generalizing index with
    | nil => rfl
    | cons a credentials ih => rw [restoreCredentials, restoreCredentials, ih, hpassword]
  have hcontainer : Container.restore (some e) = Container.restore (some d) := by
    funext a
    simp only [Container.restore, hprior]
  simp only [restore, hall, hcontainer]

/-- A group that agrees with a well-formed one becomes it with the secrets of one like it. -/
theorem Agrees.canonical_restore_some {c d e : Group} (h : c.Agrees d) (hd : d.WellFormed)
    (he : e.canonical = d.canonical) : (c.restore (some e)).canonical = d.canonical := by
  rw [h.canonical_restore hd, restore_congr he, restore_self hd.keyed]

/-! ### Agreement with a well-formed group -/

/-- Forgetting all secrets keeps an agreement. -/
theorem Agrees.redacted {c d : Group} (h : c.Agrees d) : c.redacted.Agrees d where
  __ := h
  credentials := List.forall₂_map_left_iff.mpr <|
    h.credentials.imp fun _ _ hab => { hab with password := Or.inl rfl }
  containers := List.forall₂_map_left_iff.mpr <| h.containers.imp fun _ _ hab =>
    { hab with
      volumes := List.forall₂_map_left_iff.mpr <|
        hab.volumes.imp fun _ _ hvw => { hvw with key := Or.inl rfl } }

/-- Whether the numbers of a group's containers are numbers. -/
def Numbered (d : Group) : Prop :=
  ∀ c ∈ d.containers, c.cpu.isNaN = false ∧ c.memory.isNaN = false

theorem WellFormed.numbered {d : Group} (hd : d.WellFormed) : d.Numbered := fun c hc =>
  ⟨Binary64.isNaN_of_positive (hd.containers c hc).cpu,
    Binary64.isNaN_of_positive (hd.containers c hc).memory⟩

theorem agrees_container_self {c : Container} (hcpu : c.cpu.isNaN = false)
    (hmemory : c.memory.isNaN = false) : c.Agrees c where
  name := rfl
  image := rfl
  cpu := Binary64.same_self hcpu
  memory := Binary64.same_self hmemory
  port := rfl
  protocol := rfl
  environment := rfl
  command := rfl
  volumes := List.forall₂_same.mpr fun _ _ => ⟨rfl, rfl, rfl, rfl, rfl, Or.inr rfl⟩

/-- A group with the canonical form of another one agrees with it. -/
theorem agrees_of_canonical_eq {c d : Group} (h : c.canonical = d.canonical)
    (hd : d.Numbered) : c.Agrees d := by
  simp only [canonical, Group.mk.injEq] at h
  obtain ⟨hname, hlocation, hgroup, -, hos, hrestart, hlabel, -, -, htags, hcredentials,
    hcontainers⟩ := h
  refine ⟨hname, hlocation, hgroup, addressType_eq _ _, hos, hrestart, hlabel, htags, ?_, ?_⟩
  · rw [hcredentials]
    exact List.forall₂_same.mpr fun _ _ => ⟨rfl, rfl, Or.inr rfl⟩
  · rw [hcontainers]
    exact List.forall₂_same.mpr fun a ha => agrees_container_self (hd a ha).1 (hd a ha).2

/-- A secret that is known and is what is wanted is the one that is wanted. -/
theorem eq_of_known {current desired : Option String} (h : Diff.Known current desired)
    (hfilled : Filled (current.getD "")) : current = desired := by
  obtain ⟨s, rfl⟩ := eq_some_of_filled hfilled
  exact h.resolve_left (by simp)

/-- A group that knows the secrets of a well-formed one, and agrees with another, has the canonical
form of that one. -/
theorem Agrees.canonical_eq {c d e : Group} (h : c.Agrees d) (hd : d.WellFormed)
    (hce : c.canonical = e.canonical) (he : e.WellFormed) : c.canonical = d.canonical := by
  have hcredentials := credentials_of_canonical hce
  have hcontainers := containers_of_canonical hce
  have hsame : c.credentials = d.credentials := by
    refine eq_of_forall₂ h.credentials fun a ha b _ hab => ?_
    obtain ⟨hserver, husername, hpassword⟩ := hab
    have hknown := eq_of_known hpassword (he.credentials a (hcredentials ▸ ha)).password
    cases a
    cases b
    exact Credential.mk.injEq .. ▸ ⟨hserver, husername, hknown⟩
  have hsame' : c.containers = d.containers := by
    refine eq_of_forall₂ h.containers fun a ha b hb hab => ?_
    have hvolumes : a.volumes = b.volumes := by
      refine eq_of_forall₂ hab.volumes fun v hv w _ hvw => ?_
      obtain ⟨hname, hpath, hreadOnly, hshare, haccount, hkey⟩ := hvw
      have hknown := eq_of_known hkey ((he.containers a (hcontainers ▸ ha)).volumes v hv).key
      cases v
      cases w
      exact Volume.mk.injEq .. ▸ ⟨hname, hpath, hreadOnly, hshare, haccount, hknown⟩
    have hcpu := Binary64.eq_of_same hab.cpu (hd.containers b hb).cpu
    have hmemory := Binary64.eq_of_same hab.memory (hd.containers b hb).memory
    obtain ⟨hname, himage, -, -, hport, hprotocol, henvironment, hcommand, -⟩ := hab
    cases a
    cases b
    exact Container.mk.injEq .. ▸ ⟨hname, himage, hcpu, hmemory, hport, hprotocol, henvironment,
      hcommand, hvolumes⟩
  simp only [canonical, h.name, h.location, h.resourceGroup, h.osType, h.restartPolicy, h.label,
    h.tags, hsame, hsame', addressType_eq c.addressType d.addressType]

end Group

end Provisioning.Document
