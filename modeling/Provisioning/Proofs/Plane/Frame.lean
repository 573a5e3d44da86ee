import Provisioning.Plane.Store
import Provisioning.Proofs.Lifecycle.Calls
import Provisioning.Proofs.Object.Lawful

/-!
What operations leave alone. An operation on the object under one key touches no object under
another and calls for that key only (`Confined`); one that only reads lets the object under its key
go through its states and no more (`Looked`). After a write, the object is the one that was written
as the plane gives it out (`Written`). The relations compose, so each holds of an operation as soon
as it holds of its steps.
-/

namespace Provisioning

/-! ### Requests -/

namespace Store

variable {Obj : Type} [Managed Obj] {s : Store Obj} {key : NaturalKey} {object : Obj}

theorem get_of_absent (h : s.objects key = none) :
    s.get key = (.error (missing Obj key), { s with gets := s.gets + 1 }) := by
  simp only [get, h]

theorem get_of_present (h : s.objects key = some object) :
    s.get key = (.ok (s.report object),
      { s with
        objects := assign s.objects key (some (s.report object))
        script := s.script.rest
        gets := s.gets + 1 }) := by
  simp only [get, h]

theorem delete_of_absent (h : s.objects key = none) :
    s.delete key = (.error (missing Obj key), s) := by
  simp only [delete, h]

theorem delete_of_present (h : s.objects key = some object) :
    s.delete key = (.ok (), { s with objects := assign s.objects key none }) := by
  simp only [delete, h]

end Store

/-! ### Frames -/

variable {Obj : Type} {key : NaturalKey} {u v w : World (Store Obj) Obj}

/-- Nothing was done to any object but the one under a key, and every call was about that one. -/
structure Confined (key : NaturalKey) (w after : World (Store Obj) Obj) : Prop where
  others : ∀ k, k ≠ key → after.plane.objects k = w.plane.objects k
  refusal : after.plane.refusal = w.plane.refusal
  calls : Adds (fun c => c.key = key) w after

namespace Confined

theorem refl (key : NaturalKey) (w : World (Store Obj) Obj) : Confined key w w :=
  ⟨fun _ _ => rfl, rfl, .of_calls_eq rfl⟩

theorem trans (huv : Confined key u v) (hvw : Confined key v w) : Confined key u w where
  others k hk := (hvw.others k hk).trans (huv.others k hk)
  refusal := hvw.refusal.trans huv.refusal
  calls := huv.calls.trans hvw.calls

theorem notedAll (notes : List Note) (h : Confined key u v) : Confined key u (v.notedAll notes) :=
  h.trans ⟨fun _ _ => rfl, rfl, .of_calls_eq (v.calls_notedAll notes)⟩

theorem noted (n : Note) (h : Confined key u v) : Confined key u (v.noted n) := h.notedAll [n]

end Confined

variable [Managed Obj]

/-- The object under a key was read and nothing else was done: if there is one, it may have moved on
to another state. -/
structure Looked (key : NaturalKey) (w after : World (Store Obj) Obj) : Prop
    extends Confined key w after where
  object : Option.Rel Moved (w.plane.objects key) (after.plane.objects key)
  reads : Adds (fun c => c.mutates = false) w after

namespace Looked

theorem refl (key : NaturalKey) (w : World (Store Obj) Obj) : Looked key w w where
  toConfined := Confined.refl key w
  object := by
    cases w.plane.objects key with
    | none => exact .none
    | some object => exact .some (Moved.refl object)
  reads := .of_calls_eq rfl

theorem noted (n : Note) (h : Looked key u v) : Looked key u (v.noted n) where
  toConfined := h.toConfined.noted n
  object := h.object
  reads := h.reads.trans (.of_calls_eq (World.calls_noted v n))

theorem at_clock (clock : Clock) (h : Looked key u v) : Looked key u { v with clock } :=
  ⟨⟨h.others, h.refusal, h.calls⟩, h.object, h.reads⟩

theorem absent (h : Looked key u v) (hu : u.plane.objects key = none) :
    v.plane.objects key = none := by
  have hrel := h.object
  rw [hu] at hrel
  generalize v.plane.objects key = found at hrel
  cases hrel with
  | none => rfl

theorem present {object : Obj} (h : Looked key u v) (hu : u.plane.objects key = some object) :
    ∃ after, v.plane.objects key = some after ∧ Moved object after := by
  have hrel := h.object
  rw [hu] at hrel
  generalize hv : v.plane.objects key = found at hrel
  cases hrel with
  | some hmoved => exact ⟨_, rfl, hmoved⟩

theorem present_of_after {object : Obj} (h : Looked key u v)
    (hv : v.plane.objects key = some object) :
    ∃ before, u.plane.objects key = some before ∧ Moved before object := by
  cases hu : u.plane.objects key with
  | none => rw [h.absent hu] at hv; cases hv
  | some before =>
    obtain ⟨after, hafter, hmoved⟩ := h.present hu
    rw [hv] at hafter
    cases hafter
    exact ⟨before, rfl, hmoved⟩

variable [LawfulManaged Obj]

theorem trans (huv : Looked key u v) (hvw : Looked key v w) : Looked key u w where
  toConfined := huv.toConfined.trans hvw.toConfined
  object := by
    cases hu : u.plane.objects key with
    | none => rw [hvw.absent (huv.absent hu)]; exact .none
    | some object =>
      obtain ⟨after, hafter, hmoved⟩ := huv.present hu
      obtain ⟨last, hlast, hmoved'⟩ := hvw.present hafter
      rw [hlast]
      exact .some (hmoved.trans hmoved')
  reads := huv.reads.trans hvw.reads

end Looked

end Provisioning
