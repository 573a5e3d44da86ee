import Provisioning.Lifecycle.Basic
import Provisioning.Proofs.Resource.Id

/-!
What the two types of managed object have in common: their identifiers can be parsed, and an
identifier or a state, once given to an object, is all that changes in it.
-/

namespace Provisioning

/-- The laws that every type of managed object obeys. -/
class LawfulManaged (Obj : Type) [Managed Obj] : Prop where
  /-- The type can stand in an identifier. -/
  type_sound : ∃ space kind, ResourceId.Segment space ∧ ResourceId.Segment kind
    ∧ Managed.type Obj = space ++ "/" ++ kind
  id_withId : ∀ (id : String) (object : Obj), Managed.id (Managed.withId id object) = some id
  id_withState : ∀ (s : State) (object : Obj),
    Managed.id (Managed.withState s object) = Managed.id object
  id_populate : ∀ (key : NaturalKey) (object : Obj),
    Managed.id (Managed.populate key object) = Managed.id object
  id_scrub : ∀ object : Obj, Managed.id (Managed.scrub object) = Managed.id object
  state_withId : ∀ (id : String) (object : Obj),
    Managed.state (Managed.withId id object) = Managed.state object
  state_withState : ∀ (s : State) (object : Obj),
    Managed.state (Managed.withState s object) = some s
  /-- The last state given is the one that stays. -/
  withState_withState : ∀ (s t : State) (object : Obj),
    Managed.withState s (Managed.withState t object) = Managed.withState s object

attribute [simp] LawfulManaged.id_withId LawfulManaged.id_withState LawfulManaged.id_populate
  LawfulManaged.id_scrub LawfulManaged.state_withId LawfulManaged.state_withState
  LawfulManaged.withState_withState

namespace Object

instance : LawfulManaged Group where
  type_sound := ⟨"Microsoft.ContainerInstance", "containerGroups", ⟨by simp, by simp⟩,
    ⟨by simp, by simp⟩, rfl⟩
  id_withId _ _ := rfl
  id_withState _ _ := rfl
  id_populate _ _ := rfl
  id_scrub _ := rfl
  state_withId _ _ := rfl
  state_withState _ _ := rfl
  withState_withState _ _ _ := rfl

instance : LawfulManaged Service where
  type_sound := ⟨"Microsoft.ContainerService", "containerServices", ⟨by simp, by simp⟩,
    ⟨by simp, by simp⟩, rfl⟩
  id_withId _ _ := rfl
  id_withState _ _ := rfl
  id_populate _ _ := rfl
  id_scrub _ := rfl
  state_withId _ _ := rfl
  state_withState _ _ := rfl
  withState_withState _ _ _ := rfl

end Object

/-- An object as it is kept when it is written under a key and gets an identifier: with its computed
fields and without its secrets. -/
def Managed.filedAs {Obj : Type} [Managed Obj] (id : String) (key : NaturalKey)
    (object : Obj) : Obj :=
  Managed.scrub (Managed.populate key (Managed.withId id object))

/-- Whether an object is another one that may have moved on to another state of provisioning. -/
def Moved {Obj : Type} [Managed Obj] (before after : Obj) : Prop :=
  after = before ∨ ∃ s, after = Managed.withState s before

namespace Moved

variable {Obj : Type} [Managed Obj]

theorem refl (object : Obj) : Moved object object := Or.inl rfl

theorem withState (s : State) (object : Obj) : Moved object (Managed.withState s object) :=
  Or.inr ⟨s, rfl⟩

variable [LawfulManaged Obj] {a b c : Obj}

theorem trans (hab : Moved a b) (hbc : Moved b c) : Moved a c := by
  rcases hab with rfl | ⟨s, rfl⟩
  · exact hbc
  · rcases hbc with rfl | ⟨t, rfl⟩
    · exact Or.inr ⟨s, rfl⟩
    · exact Or.inr ⟨t, LawfulManaged.withState_withState t s a⟩

/-- An object that was given a state moves on as one that is given a state. -/
theorem of_withState {s : State} (h : Moved (Managed.withState s a) b) :
    ∃ t, b = Managed.withState t a := by
  rcases h with rfl | ⟨t, rfl⟩
  · exact ⟨s, rfl⟩
  · exact ⟨t, LawfulManaged.withState_withState t s a⟩

end Moved

namespace Lifecycle

variable {Obj : Type} [Managed Obj]

/-- No part of a key that an identifier names has a slash in it. -/
theorem plain_of_keyOf {id : String} {key : NaturalKey} (h : keyOf Obj id = .ok key) :
    key.Plain := by
  unfold keyOf at h
  cases hparse : ResourceId.parse id with
  | error e => simp [hparse] at h
  | ok resource =>
    have hsound := ResourceId.Sound.of_parse hparse
    rw [hparse] at h
    by_cases htype : resource.isType (Managed.type Obj)
    · simp only [htype, if_true, Except.ok.injEq] at h
      subst h
      exact ⟨hsound.group.plain, hsound.name.plain⟩
    · simp [htype] at h

variable [LawfulManaged Obj]

/-- A key whose parts are not empty is named by the identifier of the object under it exactly if
its parts have no slash in them. -/
theorem keyOf_idFor {subscription : String} {key : NaturalKey}
    (hsubscription : ResourceId.Segment subscription) (hscope : key.scope ≠ "")
    (hname : key.name ≠ "") :
    keyOf Obj (Managed.idFor Obj subscription key).text = .ok key ↔ key.Plain := by
  refine ⟨plain_of_keyOf, fun hplain => ?_⟩
  have hsound : ResourceId.Sound (Managed.idFor Obj subscription key) :=
    ⟨hsubscription, ⟨hscope, hplain.scope⟩, LawfulManaged.type_sound, ⟨hname, hplain.name⟩⟩
  have htype : (Managed.idFor Obj subscription key).isType (Managed.type Obj) = true :=
    Text.equalFold_self _
  simp only [keyOf, ResourceId.parse_text hsound, htype, if_true]
  rfl

end Lifecycle

end Provisioning
