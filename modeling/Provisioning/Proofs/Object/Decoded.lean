import Provisioning.Proofs.Json.Members
import Provisioning.Proofs.Lifecycle.Kinds
import Provisioning.Proofs.State

/-!
The states of objects that were read. Whatever an object is read from, be it a text or a value, its
state is the one that its own label stands for (`Kind.canonical_of_decode`).
-/

namespace Provisioning

namespace Json

variable {α β : Type}

/-- Whether all that a decoder takes a source for has a property, be the source a text or
a value. -/
def Promises (read : Decoder α) (P : α → Prop) : Prop := ∀ source a, read source = .ok a → P a

/-- A part that the property depends on. -/
theorem Ranked.Ensures.map_of {P : β → Prop} {Q : α → Prop} {g : α → β} {r : Ranked α}
    (hr : Ensures Q r) (h : ∀ a, Q a → P (g a)) : Ensures P (g <$> r) := by
  intro b hb
  obtain ⟨a, ha, rfl⟩ := map_eq_value_iff.mp hb
  exact h a (hr a ha)

/-- A field that a record does not give is what it becomes then. -/
theorem Parts.eq_of_absent {p : Parts} {name : String} {inList : Bool} {missing : Absent α} {a : α}
    (h : p.absent name inList missing = .value a) :
    missing = .inObject a ∨ missing = .anywhere a := by
  cases missing with
  | refused => cases inList <;> cases h
  | inObject value =>
    cases inList <;> cases h
    exact .inl rfl
  | anywhere value =>
    cases h
    exact .inr rfl

/-- A field of a record is read, or it is what it becomes where the record does not give it. -/
theorem Parts.read_or_absent {p : Parts} {name : String} {missing : Absent α} {read : Decoder α}
    {a : α} (h : p.field name missing read = .value a) :
    (∃ source, read source = .ok a) ∨ missing = .inObject a ∨ missing = .anywhere a := by
  unfold Parts.field at h
  split at h
  · split at h
    · exact .inr (eq_of_absent h)
    · exact .inl ⟨_, Ranked.of_eq_value_iff.mp h⟩
    · -- A second member of the name is refused.
      split at h <;> exact absurd h Ranked.fail_ne_value
  · dsimp only at h
    split at h
    · exact .inl ⟨_, Ranked.of_eq_value_iff.mp h⟩
    · exact .inr (eq_of_absent h)

theorem Parts.ensures_nullable (p : Parts) (name : String) {read : Decoder α} {P : α → Prop}
    (h : Promises read P) :
    Ranked.Ensures (fun part => ∀ a ∈ part, P a) (p.nullable name read) := by
  intro part hpart
  rcases read_or_absent hpart with ⟨source, hread⟩ | habsent
  · unfold Decode.nullable at hread
    split at hread
    · cases hread
      exact nofun
    · cases hvalue : read source with
      | error e =>
        rw [hvalue] at hread
        cases hread
      | ok a =>
        rw [hvalue] at hread
        cases hread
        rintro _ ⟨⟩
        exact h source a hvalue
  · have hnone : part = none := by simpa [eq_comm] using habsent
    rw [hnone]
    exact nofun

theorem promises_record {title : String} {names : List String} {build : Parts → Ranked α}
    {P : α → Prop} (h : ∀ p, Ranked.Ensures P (build p)) :
    Promises (Decode.record title names build) P := by
  intro source a ha
  unfold Decode.record at ha
  dsimp only at ha
  split at ha
  · exact h _ a (Parts.done_eq_ok_iff.mp ha).2
  · exact h _ a (Parts.done_eq_ok_iff.mp ha).2
  · cases ha

end Json

open Json

theorem State.promises_canonical : Promises State.decode State.Canonical := by
  intro source s hs
  unfold State.decode at hs
  cases hlabel : Decode.string source with
  | error e =>
    rw [hlabel] at hs
    cases hs
  | ok label =>
    rw [hlabel] at hs
    cases hs
    exact State.canonical_ofLabel label

namespace Object

theorem GroupProperties.promises_canonical :
    Promises GroupProperties.decode fun o => ∀ s ∈ o.state, s.Canonical := by
  refine promises_record fun p => ?_
  iterate 6 refine .skip ?_
  exact (p.ensures_nullable "provisioningState" State.promises_canonical).map_of
    fun _ hstate _ _ _ _ _ _ => hstate

theorem Group.promises_canonical :
    Promises Group.decode fun o => ∀ s ∈ Managed.state o, s.Canonical := by
  refine promises_record fun p => ?_
  refine .seq (p.ensures_nullable "properties" GroupProperties.promises_canonical) ?_
  iterate 3 refine .skip ?_
  refine .map fun _ _ _ _ properties hproperties s hs => ?_
  obtain ⟨o, ho, hs⟩ := Option.bind_eq_some_iff.mp hs
  exact hproperties o ho s hs

theorem ServiceProperties.promises_canonical :
    Promises ServiceProperties.decode fun o => ∀ s ∈ o.state, s.Canonical := by
  refine promises_record fun p => ?_
  iterate 6 refine .skip ?_
  exact (p.ensures_nullable "provisioningState" State.promises_canonical).map_of
    fun _ hstate _ _ _ _ _ _ => hstate

theorem Service.promises_canonical :
    Promises Service.decode fun o => ∀ s ∈ Managed.state o, s.Canonical := by
  refine promises_record fun p => ?_
  refine .seq (p.ensures_nullable "properties" ServiceProperties.promises_canonical) ?_
  iterate 3 refine .skip ?_
  refine .map fun _ _ _ _ properties hproperties s hs => ?_
  obtain ⟨o, ho, hs⟩ := Option.bind_eq_some_iff.mp hs
  exact hproperties o ho s hs

end Object

/-- The state of an object that was read is canonical. -/
theorem Kind.canonical_of_decode {kind : Kind} {source : Source} {o : kind.Obj}
    (h : Managed.decode source = .ok o) : ∀ s ∈ Managed.state o, s.Canonical := by
  cases kind with
  | group => exact Object.Group.promises_canonical source o h
  | service => exact Object.Service.promises_canonical source o h

end Provisioning
