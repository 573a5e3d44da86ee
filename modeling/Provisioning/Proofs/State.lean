import Provisioning.Proofs.Traversal
import Provisioning.State

/-!
Provisioning states and their labels. A label that is read stands for a known state if it is that
state's label in any case of its letters, so there are states that no label stands for: those that
keep such a label as if it were unknown. All others come back from their labels
(`ofLabel_label_iff`). Two labels stand for one state if they mean the same, which is that they are
one text or known as the label of one state (`ofLabel_eq_iff`).
-/

namespace Provisioning.State

/-- Whether a label is that of a known state in any case of its letters. -/
def Known (label : String) : Prop := ∃ s ∈ known, Text.equalFold s.label label = true

instance (label : String) : Decidable (Known label) :=
  inferInstanceAs (Decidable (∃ s ∈ known, _))

/-- Whether two labels are one text, or the label of one known state in any case of its letters. -/
def SameMeaning (a b : String) : Prop :=
  a = b ∨ ∃ s ∈ known, Text.equalFold s.label a = true ∧ Text.equalFold s.label b = true

/-- Whether a state does not keep the label of a known state, in any case of its letters, as an
unknown one. -/
def Canonical (s : State) : Prop :=
  ∀ label, s = .other label → ∀ t ∈ known, Text.equalFold t.label label = false

theorem not_known_iff {label : String} :
    ¬ Known label ↔ ∀ t ∈ known, Text.equalFold t.label label = false := by
  simp [Known]

theorem canonical_iff {s : State} : s.Canonical ↔ ¬ ∃ label, s = .other label ∧ Known label := by
  simp only [Canonical, ← not_known_iff, not_exists, not_and]

theorem ofLabel_of_unknown {label : String}
    (h : ∀ t ∈ known, Text.equalFold t.label label = false) : ofLabel label = .other label := by
  have hfind : (known.find? fun t => Text.equalFold t.label label) = none := by
    simpa using h
  rw [ofLabel, hfind, Option.getD_none]

/-- A label stands for a known state, or is unknown. -/
theorem ofLabel_mem_or (label : String) : ofLabel label ∈ known
    ∨ (∀ t ∈ known, Text.equalFold t.label label = false) ∧ ofLabel label = .other label := by
  cases hfind : known.find? fun t => Text.equalFold t.label label with
  | some s =>
    left
    rw [ofLabel, hfind, Option.getD_some]
    exact List.mem_of_find?_eq_some hfind
  | none =>
    right
    have hunknown : ∀ t ∈ known, Text.equalFold t.label label = false := by
      simpa using List.find?_eq_none.mp hfind
    exact ⟨hunknown, ofLabel_of_unknown hunknown⟩

theorem canonical_of_mem_known {s : State} (h : s ∈ known) : s.Canonical := by
  rintro label rfl
  simp [known] at h

/-- What a label stands for is canonical. -/
theorem canonical_ofLabel (label : String) : (ofLabel label).Canonical := by
  rcases ofLabel_mem_or label with hmem | ⟨hunknown, hother⟩
  · exact canonical_of_mem_known hmem
  · rw [hother]
    rintro _ ⟨⟩
    exact hunknown

/-- A state comes back from its label exactly if it is canonical. -/
theorem ofLabel_label_iff {s : State} : ofLabel s.label = s ↔ s.Canonical := by
  constructor
  · intro h
    rw [← h]
    exact canonical_ofLabel s.label
  · intro h
    cases s with
    | other label => exact ofLabel_of_unknown (h label rfl)
    | _ => rfl

/-! ### What labels mean -/

/-- No two known states have one label, in whatever case. -/
theorem eq_of_equalFold {s t : State} {label : String} (hs : s ∈ known) (ht : t ∈ known)
    (hslabel : Text.equalFold s.label label = true)
    (htlabel : Text.equalFold t.label label = true) : s = t := by
  have hdistinct : ∀ s ∈ known, ∀ t ∈ known,
      s.label.toList.map Text.foldAscii = t.label.toList.map Text.foldAscii → s = t := by
    decide
  refine hdistinct s hs t ht ?_
  rw [(Text.equalFold_iff _ _).mp hslabel, (Text.equalFold_iff _ _).mp htlabel]

theorem ofLabel_of_known {s : State} {label : String} (hs : s ∈ known)
    (h : Text.equalFold s.label label = true) : ofLabel label = s := by
  have hfind : (known.find? fun t => Text.equalFold t.label label) = some s :=
    find?_eq_some_of_unique hs h fun t ht htlabel => eq_of_equalFold ht hs htlabel h
  rw [ofLabel, hfind, Option.getD_some]

theorem ofLabel_of_not_known {label : String} (h : ¬ Known label) : ofLabel label = .other label :=
  ofLabel_of_unknown (not_known_iff.mp h)

/-- Labels stand for one state exactly if they mean the same. -/
theorem ofLabel_eq_iff {a b : String} : ofLabel a = ofLabel b ↔ SameMeaning a b := by
  constructor
  · intro h
    by_cases ha : Known a
    · obtain ⟨s, hs, hsa⟩ := ha
      rw [ofLabel_of_known hs hsa] at h
      by_cases hb : Known b
      · obtain ⟨t, ht, htb⟩ := hb
        rw [ofLabel_of_known ht htb] at h
        exact .inr ⟨s, hs, hsa, h ▸ htb⟩
      · rw [ofLabel_of_not_known hb] at h
        exact absurd (h ▸ hs) (by simp [known])
    · rw [ofLabel_of_not_known ha] at h
      by_cases hb : Known b
      · obtain ⟨t, ht, htb⟩ := hb
        rw [ofLabel_of_known ht htb] at h
        exact absurd (h ▸ ht) (by simp [known])
      · rw [ofLabel_of_not_known hb] at h
        exact .inl (other.inj h)
  · rintro (rfl | ⟨s, hs, ha, hb⟩)
    · rfl
    · rw [ofLabel_of_known hs ha, ofLabel_of_known hs hb]

theorem SameMeaning.symm {a b : String} (h : SameMeaning a b) : SameMeaning b a :=
  ofLabel_eq_iff.mp (ofLabel_eq_iff.mpr h).symm

/-- An unknown label means what no other one means. -/
theorem sameMeaning_of_not_known {a b : String} (ha : ¬ Known a) : SameMeaning a b ↔ a = b := by
  constructor
  · rintro (h | ⟨t, ht, hta, -⟩)
    · exact h
    · exact absurd ⟨t, ht, hta⟩ ha
  · exact .inl

/-- A label stands for one of some states if it means the same as the label of one of them. -/
theorem ofLabel_mem_iff {states : List State} (hstates : ∀ s ∈ states, s.Canonical)
    {label : String} : ofLabel label ∈ states ↔ ∃ s ∈ states, SameMeaning s.label label := by
  constructor
  · intro hmem
    exact ⟨_, hmem, ofLabel_eq_iff.mp (ofLabel_label_iff.mpr (canonical_ofLabel label))⟩
  · rintro ⟨s, hs, hsame⟩
    rw [← ofLabel_eq_iff.mpr hsame, ofLabel_label_iff.mpr (hstates s hs)]
    exact hs

end Provisioning.State
