import Provisioning.Proofs.Lifecycle.Kinds

/-!
Which object an identifier stands for. The identifier that a creation returns is read back as the
key of the document exactly if that key has no slash in it; then everything that is done with the
identifier is done to the object that was created.
-/

namespace Provisioning

theorem Store.segment_subscription : ResourceId.Segment Store.subscription :=
  ⟨by simp [Store.subscription], by simp [Store.subscription]⟩

namespace Lifecycle

variable {Doc Obj : Type} [Managed Obj] {l : Lifecycle (Store Obj) Doc Obj}

/-! ### Operations on the object of an identifier -/

section OnStore

variable (hclient : l.client = Store.client Obj) {key : NaturalKey} {id : String}

include hclient

theorem confined_read (hkey : keyOf Obj id = .ok key) (prior : Option Doc)
    (w : World (Store Obj) Obj) : Confined key w (left (l.read id prior) w) := by
  refine Ends.of_left ((read_ends hclient id prior w).mono ?_ ?_)
  · rintro found after ⟨k, hk, hlooked, -⟩
    rw [hkey] at hk
    cases hk
    exact hlooked.toConfined
  · rintro stop after ⟨-, hlooked⟩
    exact (hlooked key hkey).toConfined

variable [LawfulManaged Obj]

theorem confined_update (hkey : keyOf Obj id = .ok key) (desired : Doc)
    (w : World (Store Obj) Obj) : Confined key w (left (l.update id desired) w) := by
  refine Ends.of_left ((update_ends hclient id desired w).mono ?_ ?_)
  · rintro id' after ⟨-, hchanged⟩
    obtain ⟨object, -, hwritten⟩ := hchanged.written
    have hk := hchanged.keyOf_id
    rw [hkey] at hk
    cases hk
    exact hwritten.toConfined
  · rintro stop after ⟨-, hconfined⟩
    exact hconfined key hkey

theorem confined_delete (hkey : keyOf Obj id = .ok key) (w : World (Store Obj) Obj) :
    Confined key w (left (l.delete id) w) := by
  refine Ends.of_left ((delete_ends hclient id w).mono ?_ ?_)
  · rintro - after ⟨k, hk, hgone⟩
    rw [hkey] at hk
    cases hk
    exact hgone.toConfined
  · rintro stop after ⟨-, hconfined⟩
    exact hconfined key hkey

end OnStore

/-- The identifier of an object that was created names the key of its document exactly if no part
of the key has a slash in it. -/
theorem Created.keyOf_id_iff [LawfulManaged Obj] {desired : Doc} {id : String}
    {w after : World (Store Obj) Obj}
    (h : Created l desired id w after) (hscope : (l.binding.key desired).scope ≠ "")
    (hname : (l.binding.key desired).name ≠ "") :
    keyOf Obj id = .ok (l.binding.key desired) ↔ (l.binding.key desired).Plain := by
  rw [h.id_eq]
  exact keyOf_idFor Store.segment_subscription hscope hname

end Lifecycle

open Lifecycle

/-- The identifier that a creation returns denotes the object that was created if and only if no
part of the key has a slash in it. If it does, the object is stored with that identifier, and
reading, changing and deleting by it call for that object and leave every other one as it is. -/
theorem create_denotes_iff (kind : Kind) (timeouts : Timeouts) (patience : Nat)
    {desired : kind.Doc} {id : String} {w after : World (Store kind.Obj) kind.Obj}
    (h : (kind.lifecycle timeouts patience).create desired w = .ok id after) :
    (keyOf kind.Obj id = .ok (kind.binding.key desired) ↔ (kind.binding.key desired).Plain)
    ∧ ((kind.binding.key desired).Plain →
      (∃ object, after.plane.objects (kind.binding.key desired) = some object
        ∧ Managed.id object = some id)
      ∧ ∀ v, (∀ prior, Confined (kind.binding.key desired) v
          (left ((kind.lifecycle timeouts patience).read id prior) v))
        ∧ (∀ changed, Confined (kind.binding.key desired) v
          (left ((kind.lifecycle timeouts patience).update id changed) v))
        ∧ Confined (kind.binding.key desired) v
          (left ((kind.lifecycle timeouts patience).delete id) v)) := by
  have hcreated := (create_ends rfl desired w).of_ok h
  obtain ⟨hscope, hname⟩ := kind.faithful.key_nonempty hcreated.valid
  have hiff : keyOf kind.Obj id = .ok (kind.binding.key desired)
      ↔ (kind.binding.key desired).Plain := hcreated.keyOf_id_iff hscope hname
  refine ⟨hiff, fun hplain => ⟨?_, fun v => ⟨fun prior => ?_, fun changed => ?_, ?_⟩⟩⟩
  · obtain ⟨object, -, hwritten⟩ := hcreated.written
    obtain ⟨s, hs⟩ := hwritten.filed
    refine ⟨_, hs, ?_⟩
    rw [LawfulManaged.id_withState, Store.id_filed, hcreated.id_eq]
  · exact confined_read rfl (hiff.mpr hplain) prior v
  · exact confined_update rfl (hiff.mpr hplain) changed v
  · exact confined_delete rfl (hiff.mpr hplain) v

/-- A creation whose identifier denotes the object that was created. -/
theorem create_denotes_web : ∃ id after,
    (Kind.service.lifecycle .default 1).create (Document.Service.least "web") (emptyWorld _)
      = .ok id after
    ∧ keyOf Object.Service id = .ok ⟨"rg", "web"⟩ := by
  obtain ⟨id, after, h⟩ := exists_of_succeeds
    (x := (Kind.service.lifecycle .default 1).create (Document.Service.least "web"))
    (w := emptyWorld _) (by decide +kernel)
  exact ⟨id, after, h, (create_denotes_iff .service .default 1 h).1.mpr (by decide)⟩

/-- A valid document can have a slash in its name. Its object is created, but the identifier that is
returned does not denote it. -/
theorem create_web_slash_denotes_other : ¬ ∀ (kind : Kind) (timeouts : Timeouts) (patience : Nat)
    (desired : kind.Doc) (w after : World (Store kind.Obj) kind.Obj) (id : String),
    (kind.lifecycle timeouts patience).create desired w = .ok id after →
    keyOf kind.Obj id = .ok (kind.binding.key desired) := by
  intro h
  obtain ⟨id, after, hcreate⟩ := exists_of_succeeds
    (x := (Kind.service.lifecycle .default 1).create (Document.Service.least "web/"))
    (w := emptyWorld _) (by decide +kernel)
  have hcreated := (create_ends rfl _ _).of_ok hcreate
  have hplain := (hcreated.keyOf_id_iff (by decide) (by decide)).mp (h _ _ _ _ _ _ _ hcreate)
  exact absurd hplain (by decide)

end Provisioning
