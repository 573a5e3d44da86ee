import Provisioning.Binding.Group
import Provisioning.Binding.Service
import Provisioning.Proofs.Traversal

/-!
Closed choices: the label of a value is recognised, and recognised as that value. A text is
recognised exactly if it is a label up to the case of its letters.
-/

namespace Provisioning

/-- A choice whose labels tell its values apart, also when their case is lost. -/
class LawfulChoice (α : Type) [Choice α] : Prop where
  ofLabel?_label : ∀ a : α, Choice.ofLabel? (Choice.label a) = some a

namespace Document

instance : LawfulChoice AddressType where
  ofLabel?_label a := by cases a; decide

instance : LawfulChoice OsType where
  ofLabel?_label a := by cases a <;> decide

instance : LawfulChoice RestartPolicy where
  ofLabel?_label a := by cases a <;> decide

instance : LawfulChoice Protocol where
  ofLabel?_label a := by cases a <;> decide

instance : LawfulChoice Platform where
  ofLabel?_label a := by cases a <;> decide

end Document

variable {α : Type} [Choice α] [LawfulChoice α]

theorem ofLabel_label (a : α) : Choice.ofLabel (Choice.label a) = .ok a := by
  rw [Choice.ofLabel, LawfulChoice.ofLabel?_label]

theorem ofLabel?_eq_some_iff {text : String} {a : α} :
    Choice.ofLabel? text = some a ↔ Text.equalFold text (Choice.label a) = true := by
  constructor
  · intro h
    exact @List.find?_some α (fun a => Text.equalFold text (Choice.label a)) a _ h
  · intro h
    -- A text that equals a label is looked up as that label is.
    have htests : (fun b : α => Text.equalFold text (Choice.label b))
        = fun b => Text.equalFold (Choice.label a) (Choice.label b) := by
      funext b
      rw [Text.equalFold, Text.equalFold, (Text.equalFold_iff _ _).mp h]
    rw [Choice.ofLabel?, htests]
    exact LawfulChoice.ofLabel?_label a

/-- Whether a text is the label of no value, in any case of its letters. -/
def UnknownTo (α : Type) [Choice α] (text : String) : Prop :=
  ∀ a : α, Text.equalFold text (Choice.label a) = false

theorem ofLabel?_eq_none_iff {text : String} :
    (Choice.ofLabel? text : Option α) = none ↔ UnknownTo α text := by
  rw [Option.eq_none_iff_forall_ne_some]
  refine forall_congr' fun a => ?_
  rw [ne_eq, ofLabel?_eq_some_iff, Bool.not_eq_true]

namespace Document.Group

theorem flattenLabel_label (a : α) : flattenLabel (Choice.label a) = .ok a := by
  rw [flattenLabel, ofLabel_label]
  rfl

theorem flattenLabelOrUsual_label (a : α) :
    flattenLabelOrUsual (some (Choice.label a)) = .ok a :=
  flattenLabel_label a

theorem flattenLabel_eq_ok_iff {text : String} {a : α} :
    flattenLabel text = .ok a ↔ Text.equalFold text (Choice.label a) = true := by
  rw [← ofLabel?_eq_some_iff, flattenLabel, Choice.ofLabel]
  cases (Choice.ofLabel? text : Option α) with
  | none => simp [Except.mapError]
  | some b => simp [Except.mapError]

theorem fails_flattenLabel_iff {text : String} :
    Fails (flattenLabel text : Except BindingError α) ↔ UnknownTo α text := by
  rw [← ofLabel?_eq_none_iff, flattenLabel, Choice.ofLabel]
  cases (Choice.ofLabel? text : Option α) with
  | none => exact iff_of_true (.of_error _) rfl
  | some a => exact iff_of_false (Fails.not_ok a) (Option.some_ne_none a)

theorem fails_flattenLabelOrUsual_iff {label : Option String} :
    Fails (flattenLabelOrUsual label : Except BindingError α)
      ↔ ∃ text, label = some text ∧ UnknownTo α text := by
  cases label with
  | none =>
    refine iff_of_false (Fails.not_ok _) ?_
    rintro ⟨text, ⟨⟩, -⟩
  | some text => simpa [flattenLabelOrUsual] using fails_flattenLabel_iff

end Document.Group

theorem Document.Service.flattenPlatform_label (p : Document.Platform) :
    flattenPlatform (Choice.label p) = .ok p := by
  rw [flattenPlatform, ofLabel_label]
  rfl

end Provisioning
