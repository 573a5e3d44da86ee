import Provisioning.Plane.Remote
import Provisioning.Proofs.Lifecycle.Drift
import Provisioning.Proofs.Object.Projections

/-!
Secrets do not leak. Documents that are the same but for their secrets have objects that are the
same but for their secrets, or the same reason why they have none (`expand_redacted`). What a write
notes of an object does not depend on its secrets (`notes_write_congr`), and neither does what a
plane keeps of it. So whoever has only the notes, the plane or what is read off it cannot tell the
one document from the other (`secrets_do_not_leak`).
-/

namespace Provisioning

/-! ### Objects without secrets -/

namespace Document.Group

/-- A container is sent without the keys of its volumes. -/
theorem expandContainer_redacted (c : Container) :
    expandContainer c.redacted = expandContainer c := by
  have hmounts : c.redacted.volumes.map expandMount = c.volumes.map expandMount := List.map_map ..
  simp only [expandContainer, hmounts]
  rfl

/-- A group without its secrets has the object of the group without its secrets. -/
theorem expand_redacted (d : Group) : expand d.redacted = (expand d).map Object.Group.scrub := by
  have hcontainers : d.redacted.containers.mapM expandContainer
      = d.containers.mapM expandContainer := by
    change (d.containers.map Container.redacted).mapM expandContainer = _
    rw [List.mapM_map]
    exact congrArg (fun f => d.containers.mapM f) (funext expandContainer_redacted)
  have hcredentials : d.redacted.credentials.map expandCredential
      = (d.credentials.map expandCredential).map Object.Credential.scrub := by
    rw [List.map_map]
    exact List.map_map ..
  have hvolumes : d.redacted.volumes.map expandVolume
      = (d.volumes.map expandVolume).map Object.Volume.scrub := by
    rw [volumes_redacted, List.map_map, List.map_map]
    rfl
  unfold expand
  rw [hcontainers, hcredentials, hvolumes, expandAddress_redacted,
    ← map_unlessEmpty Object.Credential.scrub, ← map_unlessEmpty Object.Volume.scrub]
  cases d.containers.mapM expandContainer with
  | ok containers => rfl
  | error e => rfl

end Document.Group

namespace Kind

/-- A document without its secrets. -/
def redacted : (kind : Kind) → kind.Doc → kind.Doc
  | group => Document.Group.redacted
  | service => Document.Service.redacted

/-- A document without its secrets has the object of the document without its secrets. -/
theorem expand_redacted (kind : Kind) (d : kind.Doc) :
    kind.binding.expand (kind.redacted d) = (kind.binding.expand d).map Managed.scrub := by
  cases kind with
  | group => exact Document.Group.expand_redacted d
  | service => exact congrArg Except.ok (Document.Service.scrub_expand d).symm

theorem key_redacted (kind : Kind) (d : kind.Doc) :
    kind.binding.key (kind.redacted d) = kind.binding.key d := by
  cases kind <;> rfl

/-- What the plane assigns to an object does not depend on its secrets. -/
theorem scrub_populate (kind : Kind) (id : String) (key : NaturalKey) (object : kind.Obj) :
    Managed.scrub (Managed.populate key (Managed.withId id object))
      = Managed.populate key (Managed.withId id (Managed.scrub object)) := by
  have hid : Managed.scrub (Managed.withId id object)
      = Managed.withId id (Managed.scrub object) := by
    cases kind <;> rfl
  rw [← populate_scrub, hid]

end Kind

namespace Lifecycle

variable {σ Doc Obj : Type} [Managed Obj] {l : Lifecycle σ Doc Obj} {key : NaturalKey} {o o' : Obj}
  {w : World σ Obj}

/-- A write notes what there is to say of the object, whatever the plane answers. -/
theorem notes_write : (left (l.write key o) w).notes = w.notes ++ l.writeNotes key o := by
  have hcalled (c : Call Obj) (a : Answer σ (Except ClientError Obj)) :
      ((w.notedAll (l.writeNotes key o)).called c a).notes = w.notes ++ l.writeNotes key o := by
    rw [World.notes_called, World.notes_notedAll]
  exact Ends.of_left (P := fun after => after.notes = w.notes ++ l.writeNotes key o)
    (ends_write (fun _ _ => hcalled _ _) fun _ _ => hcalled _ _)

/-- Of objects that are the same but for their secrets a write notes the same, if the client says
the same of them. -/
theorem notes_write_congr (h : Managed.scrub o = Managed.scrub o')
    (hclient : l.client.announce key o = l.client.announce key o') :
    (left (l.write key o) w).notes = (left (l.write key o') w).notes := by
  rw [notes_write, notes_write, writeNotes, writeNotes, h, hclient]

end Lifecycle

theorem Remote.announce_congr {σ Obj : Type} [Managed Obj] {settings : Settings}
    {network : Network σ} {o o' : Obj} (h : Managed.scrub o = Managed.scrub o')
    (key : NaturalKey) : (client Obj settings network).announce key o
      = (client Obj settings network).announce key o' := by
  simp only [client, h]

namespace Store

/-- A plane does the same with objects that are the same but for their secrets. -/
theorem put_congr_of_scrub (kind : Kind) {o o' : kind.Obj} (h : Managed.scrub o = Managed.scrub o')
    (s : Store kind.Obj) (key : NaturalKey) : s.put key o = s.put key o' := by
  have hkept : s.kept key o = s.kept key o' := by
    simp only [kept, kind.scrub_populate, h]
  simp only [put, hkept]

end Store

open Lifecycle

/-- Documents that are the same but for their secrets are sent as objects that are, too. What is
noted for the log when they are written is the same, on a simulated plane as over the web; every
simulated plane answers the same and becomes the same, and the document that is read without an
earlier one off what is kept is the same. -/
theorem secrets_do_not_leak (kind : Kind) {c d : kind.Doc} {o : kind.Obj}
    (h : kind.redacted c = kind.redacted d) (ho : kind.binding.expand c = .ok o) :
    ∃ o', kind.binding.expand d = .ok o' ∧ Managed.scrub o = Managed.scrub o'
      ∧ kind.binding.key c = kind.binding.key d
      ∧ (∀ timeouts patience key w,
        (left ((kind.lifecycle timeouts patience).write key o) w).notes
          = (left ((kind.lifecycle timeouts patience).write key o') w).notes)
      ∧ (∀ (σ : Type) (settings : Remote.Settings) (network : Remote.Network σ) timeouts patience
          key w,
        (left ((kind.through (Remote.client kind.Obj settings network) timeouts patience).write
            key o) w).notes
          = (left ((kind.through (Remote.client kind.Obj settings network) timeouts patience).write
            key o') w).notes)
      ∧ (∀ (s : Store kind.Obj) key, s.put key o = s.put key o')
      ∧ ∀ (s : Store kind.Obj) key,
        ((s.put key o).2.objects key).map (fun stored => kind.binding.flatten key stored none)
          = ((s.put key o').2.objects key).map
            fun stored => kind.binding.flatten key stored none := by
  have hexpand : (kind.binding.expand d).map Managed.scrub = .ok (Managed.scrub o) := by
    rw [← kind.expand_redacted, ← h, kind.expand_redacted, ho]
    rfl
  cases ho' : kind.binding.expand d with
  | error e =>
    rw [ho'] at hexpand
    cases hexpand
  | ok o' =>
    rw [ho'] at hexpand
    have hscrub : Managed.scrub o = Managed.scrub o' := (Except.ok.inj hexpand).symm
    refine ⟨o', rfl, hscrub, ?_, fun _ _ _ _ => notes_write_congr hscrub rfl,
      fun _ _ _ _ _ key _ => notes_write_congr hscrub (Remote.announce_congr hscrub key),
      fun s key => Store.put_congr_of_scrub kind hscrub s key, ?_⟩
    · rw [← kind.key_redacted c, h, kind.key_redacted d]
    · intro s key
      rw [Store.put_congr_of_scrub kind hscrub]

/-- The pair with one text, or none, for all its secrets. -/
def Document.Group.pairSharing (secret : Option String) : Document.Group :=
  { pair with
    credentials := pair.credentials.map fun c => { c with password := secret }
    containers := pair.containers.map fun c =>
      { c with volumes := c.volumes.map fun v => { v with key := secret } } }

/-- Nothing tells a pair with secrets from a pair without. -/
theorem secrets_do_not_leak_pair : ∃ o o',
    Kind.group.binding.expand (.pairSharing (some "secret")) = .ok o
    ∧ Kind.group.binding.expand (.pairSharing none) = .ok o'
    ∧ ∀ (s : Store Object.Group) key, s.put key o = s.put key o' := by
  obtain ⟨o, ho⟩ : ∃ o, Kind.group.binding.expand (.pairSharing (some "secret")) = .ok o := ⟨_, rfl⟩
  obtain ⟨o', ho', -, -, -, -, hput, -⟩ :=
    secrets_do_not_leak .group (d := .pairSharing none) (by rfl) ho
  exact ⟨o, o', ho, ho', hput⟩

end Provisioning
