import Provisioning.Proofs.Object.Decoded
import Provisioning.Proofs.Wait

/-!
What a wait makes of the labels that it is told. A change of state is canonical if every state in it
is one that its own label stands for; so are those of both kinds (`Kind.canonical_change`). Then a
reported label counts as a target, as pending or as a failure by what it means alone
(`classify_ofLabel_iff`): in any case of its letters if it is known, and letter by letter if it is
not (`labels_count_by_meaning`).
-/

namespace Provisioning

namespace StateChange

/-- Whether all states of a change are canonical. -/
structure Canonical (c : StateChange) : Prop where
  pending : ∀ s ∈ c.pending, s.Canonical
  target : ∀ s ∈ c.target, s.Canonical

variable {c : StateChange}

/-- A change of known states only. -/
theorem Canonical.of_known (hpending : c.pending ⊆ State.known) (htarget : c.target ⊆ State.known) :
    c.Canonical where
  pending _ hs := State.canonical_of_mem_known (hpending hs)
  target _ hs := State.canonical_of_mem_known (htarget hs)

/-- A label is looked for among the states of a change by what it means. -/
theorem classify_ofLabel_iff (hc : c.Canonical) (label : String) :
    (c.classify (.ofLabel label) = some (.succeeded (.ofLabel label))
      ↔ ∃ s ∈ c.target, State.SameMeaning s.label label)
    ∧ (c.classify (.ofLabel label) = none
      ↔ (∃ s ∈ c.pending, State.SameMeaning s.label label)
        ∧ ¬ ∃ s ∈ c.target, State.SameMeaning s.label label)
    ∧ (c.classify (.ofLabel label) = some (.failed (.ofLabel label))
      ↔ (¬ ∃ s ∈ c.target, State.SameMeaning s.label label)
        ∧ ¬ ∃ s ∈ c.pending, State.SameMeaning s.label label) := by
  rw [← State.ofLabel_mem_iff hc.target, ← State.ofLabel_mem_iff hc.pending, classify_eq_none_iff,
    classify_eq_some_iff, classify_eq_some_iff]
  simp

/-- The change that waits for a label only. -/
def awaiting (label : String) : StateChange := { pending := [], target := [.ofLabel label] }

theorem canonical_awaiting (label : String) : (awaiting label).Canonical where
  pending := nofun
  target s hs := by
    rw [List.mem_singleton.mp hs]
    exact State.canonical_ofLabel label

/-- All canonical changes take two labels for the same exactly if they mean the same. -/
theorem classify_eq_iff {a b : String} :
    (∀ c : StateChange, c.Canonical → c.classify (.ofLabel a) = c.classify (.ofLabel b))
      ↔ State.SameMeaning a b := by
  rw [← State.ofLabel_eq_iff]
  constructor
  · intro h
    have hsame := h (awaiting a) (canonical_awaiting a)
    have ha : (awaiting a).classify (.ofLabel a) = some (.succeeded (.ofLabel a)) :=
      classify_eq_some_iff.mpr (.inl ⟨List.mem_singleton_self _, rfl⟩)
    rcases classify_eq_some_iff.mp (hsame.symm.trans ha) with ⟨hmem, -⟩ | ⟨-, -, hfailed⟩
    · exact (List.mem_singleton.mp hmem).symm
    · cases hfailed
  · intro hsame c _
    rw [hsame]

/-- The case of a known label makes no difference to what it counts as. -/
theorem classify_of_known {s : State} {label : String} (hs : s ∈ State.known)
    (h : Text.equalFold s.label label = true) : c.classify (.ofLabel label) = c.classify s := by
  rw [State.ofLabel_of_known hs h]

/-- An unknown label is looked for among the states of a change letter by letter. -/
theorem classify_of_not_known (hc : c.Canonical) {label : String} (h : ¬ State.Known label) :
    (c.classify (.ofLabel label) = some (.succeeded (.other label))
      ↔ ∃ s ∈ c.target, s.label = label)
    ∧ (c.classify (.ofLabel label) = none
      ↔ (∃ s ∈ c.pending, s.label = label) ∧ ¬ ∃ s ∈ c.target, s.label = label)
    ∧ (c.classify (.ofLabel label) = some (.failed (.other label))
      ↔ (¬ ∃ s ∈ c.target, s.label = label) ∧ ¬ ∃ s ∈ c.pending, s.label = label) := by
  have hexact : ∀ states : List State,
      (∃ s ∈ states, State.SameMeaning s.label label) ↔ ∃ s ∈ states, s.label = label := by
    intro states
    refine exists_congr fun s => and_congr_right fun _ => ?_
    exact ⟨fun hsame => ((State.sameMeaning_of_not_known h).mp hsame.symm).symm, .inl⟩
  have hcounts := classify_ofLabel_iff hc label
  rw [hexact, hexact, State.ofLabel_of_not_known h] at hcounts
  rw [State.ofLabel_of_not_known h]
  exact hcounts

end StateChange

theorem Kind.canonical_change (kind : Kind) :
    kind.binding.change.Canonical ∧ kind.binding.updateChange.Canonical := by
  have hchange : kind.binding.change.Canonical := by
    cases kind <;> exact .of_known (by decide) (by decide)
  have hupdate : kind.binding.updateChange = kind.binding.change := by cases kind <;> rfl
  exact ⟨hchange, hupdate ▸ hchange⟩

open State

/-- Labels stand for one state exactly if they are one text or known as the label of one state, in
whatever case of their letters; the label of what a label stands for stands for the same. A state
comes back from its label unless it keeps the label of a known state as an unknown one, and no
object that was read has such a state. So a canonical change takes a known label in any case for the
state that it names, and an unknown one for a target, for pending or for a failure by its exact
text; and two labels that differ in more than that are told apart by some canonical change. -/
theorem labels_count_by_meaning :
    (∀ a b : String, ofLabel a = ofLabel b ↔ a = b
      ∨ ∃ s ∈ known, Text.equalFold s.label a = true ∧ Text.equalFold s.label b = true)
    ∧ (∀ label : String, ofLabel (ofLabel label).label = ofLabel label)
    ∧ (∀ s : State, ofLabel s.label = s ↔ ¬ ∃ label, s = .other label ∧ Known label)
    ∧ (∀ (kind : Kind) (source : Json.Source) (o : kind.Obj), Managed.decode source = .ok o →
      ∀ s ∈ Managed.state o, ¬ ∃ label, s = .other label ∧ Known label)
    ∧ (∀ c : StateChange, c.Canonical →
      (∀ s ∈ known, ∀ label : String, Text.equalFold s.label label = true →
        c.classify (ofLabel label) = c.classify s)
      ∧ ∀ label : String, ¬ Known label →
        (c.classify (ofLabel label) = some (.succeeded (.other label))
          ↔ ∃ s ∈ c.target, s.label = label)
        ∧ (c.classify (ofLabel label) = none
          ↔ (∃ s ∈ c.pending, s.label = label) ∧ ¬ ∃ s ∈ c.target, s.label = label)
        ∧ (c.classify (ofLabel label) = some (.failed (.other label))
          ↔ (¬ ∃ s ∈ c.target, s.label = label) ∧ ¬ ∃ s ∈ c.pending, s.label = label))
    ∧ ∀ a b : String, (∀ c : StateChange, c.Canonical →
      c.classify (ofLabel a) = c.classify (ofLabel b)) ↔ SameMeaning a b := by
  refine ⟨fun a b => ofLabel_eq_iff, ?_, fun s => ofLabel_label_iff.trans canonical_iff, ?_, ?_,
    fun a b => StateChange.classify_eq_iff⟩
  · intro label
    exact ofLabel_label_iff.mpr (canonical_ofLabel label)
  · intro kind source o h s hs
    exact canonical_iff.mp (Kind.canonical_of_decode h s hs)
  · intro c hc
    exact ⟨fun s hs label h => StateChange.classify_of_known hs h,
      fun label h => StateChange.classify_of_not_known hc h⟩

/-- A wait for a state that is not known: `Draining` is what it waits for, `draining` is not. -/
def StateChange.draining : StateChange := { pending := [.creating], target := [.other "Draining"] }

theorem labels_count_by_meaning_draining :
    StateChange.draining.classify (ofLabel "CREATING") = none
    ∧ StateChange.draining.classify (ofLabel "Draining") = some (.succeeded (.other "Draining"))
    ∧ StateChange.draining.classify (ofLabel "draining") = some (.failed (.other "draining"))
    ∧ ¬ ∃ label, ofLabel "sUCCEEDED" = .other label ∧ Known label := by
  have hcanonical : StateChange.draining.Canonical := by
    constructor
    · intro s hs
      exact canonical_of_mem_known (by rw [List.mem_singleton.mp hs]; decide)
    · intro s hs
      rw [List.mem_singleton.mp hs]
      rintro _ ⟨⟩
      exact not_known_iff.mp (by decide +kernel)
  obtain ⟨-, -, -, hread, hcounts, -⟩ := labels_count_by_meaning
  obtain ⟨hknown, hunknown⟩ := hcounts _ hcanonical
  have hobject := hread .group
    (Json.obj [("properties", .obj [("provisioningState", .str "sUCCEEDED")])]).toSource
    { properties := some { state := some (ofLabel "sUCCEEDED") } } (by rfl)
  exact ⟨(hknown .creating (by decide) "CREATING" (by decide +kernel)).trans (by decide),
    (hunknown "Draining" (by decide +kernel)).1.mpr (by decide),
    (hunknown "draining" (by decide +kernel)).2.2.mpr (by decide), hobject _ rfl⟩

end Provisioning
