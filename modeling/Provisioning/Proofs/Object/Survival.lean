import Provisioning.Proofs.Lifecycle.Kinds
import Provisioning.Proofs.Json.Members
import Provisioning.Proofs.Object.Reading

/-!
Objects survive their JSON form. An object that JSON can express, with numbers that are finite and a
state that its own label stands for, is read back as it was, whatever it lacks; any other object is
read back as a different one (`objects_survive`).
-/

namespace Provisioning

open Json

/-! ### Objects that are what their JSON has in mind -/

namespace Object

theorem Requests.asWritten_eq_iff {o : Requests} :
    o.asWritten = o ↔ o.Each fun x => x.isFinite = true := by
  obtain ⟨memory, cpu⟩ := o
  cases memory <;> cases cpu <;> simp [asWritten, Each, Option.filter]

theorem Requirements.asWritten_eq_iff {o : Requirements} :
    o.asWritten = o ↔ ∀ r ∈ o.requests, r.Each fun x => x.isFinite = true := by
  obtain ⟨requests⟩ := o
  simp only [asWritten, mk.injEq, option_map_eq_self_iff, Requests.asWritten_eq_iff]

theorem ContainerProperties.asWritten_eq_iff {o : ContainerProperties} :
    o.asWritten = o
      ↔ ∀ r ∈ o.requirements.bind (·.requests), r.Each fun x => x.isFinite = true := by
  obtain ⟨_, _, _, _, requirements, _⟩ := o
  simp only [asWritten, mk.injEq, option_map_eq_self_iff, Requirements.asWritten_eq_iff,
    true_and, and_true]
  cases requirements <;> simp

theorem Container.asWritten_eq_iff {o : Container} :
    o.asWritten = o ↔ ∀ r ∈ o.requests, r.Each fun x => x.isFinite = true := by
  obtain ⟨_, properties⟩ := o
  simp only [asWritten, mk.injEq, option_map_eq_self_iff, ContainerProperties.asWritten_eq_iff,
    true_and, Container.requests]
  cases properties <;> simp

/-- The state that a label stands for is the one that it was the label of, if that is canonical. -/
theorem map_ofLabel_eq_self_iff {state : Option State} :
    (state.map fun s => State.ofLabel s.label) = state ↔ ∀ s ∈ state, s.Canonical := by
  simp only [option_map_eq_self_iff, State.ofLabel_label_iff]

theorem GroupProperties.asWritten_eq_iff {o : GroupProperties} : o.asWritten = o
    ↔ (∀ c ∈ o.containers, ∀ r ∈ c.requests, r.Each fun x => x.isFinite = true)
      ∧ ∀ s ∈ o.state, s.Canonical := by
  obtain ⟨state, containers, _, _, _, _, _⟩ := o
  simp only [asWritten, mk.injEq, map_ofLabel_eq_self_iff, map_eq_self_iff,
    Container.asWritten_eq_iff, and_true]
  exact and_comm

theorem Group.asWritten_eq_iff {o : Group} : o.asWritten = o
    ↔ (o.Each fun x => x.isFinite = true) ∧ ∀ s ∈ o.properties.bind (·.state), s.Canonical := by
  obtain ⟨_, _, _, _, properties⟩ := o
  simp only [asWritten, mk.injEq, option_map_eq_self_iff, GroupProperties.asWritten_eq_iff,
    true_and, Each, Group.containers]
  cases properties <;> simp

theorem ServiceProperties.asWritten_eq_iff {o : ServiceProperties} :
    o.asWritten = o ↔ ∀ s ∈ o.state, s.Canonical := by
  obtain ⟨state, _, _, _, _, _, _⟩ := o
  simp only [asWritten, mk.injEq, map_ofLabel_eq_self_iff, and_true]

theorem Service.asWritten_eq_iff {o : Service} :
    o.asWritten = o ↔ ∀ s ∈ o.properties.bind (·.state), s.Canonical := by
  obtain ⟨_, _, _, _, properties⟩ := o
  simp only [asWritten, mk.injEq, option_map_eq_self_iff, ServiceProperties.asWritten_eq_iff,
    true_and]
  cases properties <;> simp

end Object

/-! ### Both kinds -/

namespace Kind

/-- An object as its JSON form has it. -/
def asWritten : (kind : Kind) → kind.Obj → kind.Obj
  | group => Object.Group.asWritten
  | service => Object.Service.asWritten

/-- Whether every number of an object has a property. A service has no numbers but counts. -/
def Each (P : Binary64 → Prop) : (kind : Kind) → kind.Obj → Prop
  | group => Object.Group.Each P
  | service => fun _ => True

/-- Whether JSON has a form for an object: its numbers are finite, and it does not keep the label of
a known state as if it were unknown. -/
structure Expressible (kind : Kind) (o : kind.Obj) : Prop where
  finite : kind.Each (fun x => x.isFinite = true) o
  canonical : ∀ s ∈ Managed.state o, s.Canonical

theorem reads (kind : Kind) (o : kind.Obj) :
    Reads Managed.decode (Managed.toJson o) (kind.asWritten o) := by
  cases kind with
  | group => exact Object.Group.reads o
  | service => exact Object.Service.reads o

theorem asWritten_eq_iff {kind : Kind} {o : kind.Obj} :
    kind.asWritten o = o ↔ kind.Expressible o := by
  cases kind with
  | group =>
    refine Object.Group.asWritten_eq_iff.trans ⟨fun h => ⟨h.1, h.2⟩, fun h => ⟨h.1, h.2⟩⟩
  | service =>
    refine Object.Service.asWritten_eq_iff.trans ⟨fun h => ⟨trivial, h⟩, fun h => h.2⟩

theorem legible {kind : Kind} {o : kind.Obj} (h : kind.Each Json.Exact o) :
    Legible (Managed.toJson o) := by
  cases kind with
  | group => exact Object.Group.legible h
  | service => exact Object.Service.legible o

end Kind

/-- An object is read back from its JSON form exactly if it can be expressed there, and then it is
so wherever the form stands. It is read back from its text, too, if its numbers are what their own
texts are read as. -/
theorem objects_survive (kind : Kind) (o : kind.Obj) :
    (Managed.decode (Managed.toJson o).toSource = .ok o ↔ kind.Expressible o)
    ∧ (kind.Expressible o → Reads Managed.decode (Managed.toJson o) o)
    ∧ (kind.Expressible o → kind.Each Json.Exact o →
      readAs Managed.decode (Managed.toJson o).pretty = .ok o) := by
  have hform : Managed.decode (Managed.toJson o).toSource = .ok (kind.asWritten o) :=
    kind.reads o _ (says_toSource _)
  have hreads (h : kind.Expressible o) : Reads Managed.decode (Managed.toJson o) o := by
    have hback := kind.reads o
    rwa [Kind.asWritten_eq_iff.mpr h] at hback
  refine ⟨?_, hreads, fun h hexact => readAs_pretty (Kind.legible hexact) (hreads h)⟩
  rw [hform, Except.ok.injEq, Kind.asWritten_eq_iff]

/-- A group of which some parts are absent, some empty and some given. -/
def Object.Group.sparse : Object.Group where
  tags := some .empty
  properties := some {
    state := some (.other "Halted")
    containers := [
      {},
      { name := some ""
        properties := some {
          command := some []
          ports := some [{}, { port := some 80 }]
          requirements := some { requests := some { memory := some ⟨0x3FF8000000000000⟩ } }
          mounts := some [{ readOnly := some false }] } }]
    credentials := some []
    address := some {}
    volumes := some [{}, { file := some {} }] }

theorem objects_survive_sparse :
    (Managed.decode (Managed.toJson Object.Group.sparse).toSource
      : Except Complaint Object.Group) = .ok .sparse
    ∧ (readAs Managed.decode (Managed.toJson Object.Group.sparse).pretty
      : Except Complaint Object.Group) = .ok .sparse := by
  have heach {P : Binary64 → Prop} (hP : P ⟨0x3FF8000000000000⟩) :
      Kind.group.Each P Object.Group.sparse := by
    simpa [Kind.Each, Object.Group.Each, Object.Group.sparse, Object.Group.containers,
      Object.Container.requests, Object.Requests.Each] using hP
  have hcanonical : ∀ s ∈ Managed.state Object.Group.sparse, s.Canonical := by
    rintro _ ⟨⟩ _ ⟨⟩
    decide
  have hsparse : Kind.group.Expressible Object.Group.sparse := ⟨heach (by decide), hcanonical⟩
  have hexact : Json.Exact ⟨0x3FF8000000000000⟩ :=
    eq_ok_of_toOption_eq_some (by decide +kernel)
  obtain ⟨hback, -, htext⟩ := objects_survive .group .sparse
  exact ⟨hback.mpr hsparse, htext hsparse (heach hexact)⟩

/-! An unknown state with the label of a known one is read back as the known one. -/
example : State.decode (State.other "failed").toJson.toSource = .ok .failed := by
  rfl

end Provisioning
